import HttpService.Signal.Forest
import HttpService.Signal.Waiter

/-!
# Work under a signal

Work that is polled until it is ready races with a signal, which is looked at first each time. If the
signal has fired the work is not polled any more, even if it would be ready.
-/

namespace HttpService

structure Race (α : Type) where
  signal : Nat
  /-- What the work answers each time that it is polled, by number. -/
  work : Nat → Option α
  waiter : Waiter := .fresh
  /-- How often the work has been polled. -/
  polls : Nat := 0
  answer : Option (Except Failure α) := none

namespace Race

variable {α : Type}

/-- One look at the signal and, if it has not fired, one at the work. -/
def poll (f : Signals) (r : Race α) : Race α :=
  if r.answer.isSome then r
  else
    let cancelled := f.isCancelled r.signal
    let waiter := r.waiter.settle cancelled (if cancelled then 1 else 0)
    if waiter = .done then
      { r with waiter := waiter, answer := some (.error Signals.interruption) }
    else
      { r with waiter := waiter, polls := r.polls + 1, answer := (r.work r.polls).map .ok }

/-- A race that has not begun and whose signal has fired is over before the work is polled. -/
theorem poll_of_isCancelled {f : Signals} {r : Race α} (waiting : r.answer = none)
    (fresh : r.waiter = .fresh) (cancelled : f.isCancelled r.signal = true) :
    r.poll f = { r with waiter := .done, answer := some (.error Signals.interruption) } := by
  simp [poll, waiting, fresh, cancelled, Waiter.settle_fresh_of_holds]

theorem poll_of_answered {f : Signals} {r : Race α} (answered : r.answer.isSome = true) :
    r.poll f = r :=
  if_pos answered

end Race

end HttpService

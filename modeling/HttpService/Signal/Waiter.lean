/-!
# Waiting for a condition

A waiter takes note of how many notices have been given, looks at the condition, and sleeps until a
later notice if it does not hold. A notice between the look and the sleep is therefore not missed.
-/

namespace HttpService

inductive Waiter
  | fresh
  /-- Has taken note of the notices, and looks next. -/
  | listening (notices : Nat)
  /-- Has looked in vain, and goes to sleep next. -/
  | looked (notices : Nat)
  /-- Sleeps until there are more notices than these. -/
  | parked (notices : Nat)
  | done
  deriving DecidableEq, Repr

namespace Waiter

/-- One step of a waiter, when the condition holds or not and so many notices have been given. -/
def step (holds : Bool) (notices : Nat) : Waiter → Waiter
  | fresh => listening notices
  | listening seen => if holds then done else looked seen
  | looked seen => parked seen
  | parked seen => if seen < notices then fresh else parked seen
  | done => done

/-- Lets a waiter run until it sleeps or is done: it looks at most once more after waking. -/
def settle (holds : Bool) (notices : Nat) (w : Waiter) : Waiter :=
  step holds notices (step holds notices (step holds notices (step holds notices w)))

theorem settle_fresh_of_holds (notices : Nat) : settle true notices fresh = done := rfl

/-- A waiter gets done by a look that finds the condition to hold. -/
theorem step_eq_done {holds : Bool} {notices : Nat} {w : Waiter} :
    step holds notices w = done ↔ w = done ∨ ∃ seen, w = listening seen ∧ holds = true := by
  cases w with
  | fresh | looked | done => simp [step]
  | listening seen => cases holds <;> simp [step]
  | parked seen => by_cases told : seen < notices <;> simp [step, told]

end Waiter

end HttpService

import HttpService.Context

/-!
# Deadlines

A deadline only ever moves to an earlier time: it is the earliest of all that have been set.
-/

namespace HttpService

/-- The earliest of a deadline, if there is one, and of further times. -/
def earliest (deadline : Option Nat) (times : List Nat) : Option Nat :=
  (deadline.toList ++ times).min?

variable {deadline : Option Nat} {times more : List Nat} {time : Nat}

theorem earliest_eq_some_iff :
    earliest deadline times = some time ↔
      (deadline = some time ∨ time ∈ times) ∧ (∀ existing, deadline = some existing →
        time ≤ existing) ∧ ∀ other ∈ times, time ≤ other := by
  rw [earliest, List.min?_eq_some_iff]
  simp only [List.mem_append, Option.mem_toList, or_imp, forall_and]

theorem earliest_eq_none_iff : earliest deadline times = none ↔ deadline = none ∧ times = [] := by
  rw [earliest, List.min?_eq_none_iff, List.append_eq_nil_iff, Option.toList_eq_nil_iff]

/-- Further times never put a deadline off. -/
theorem exists_earliest_le (existing : Nat) (times : List Nat) :
    ∃ due, earliest (some existing) times = some due ∧ due ≤ existing := by
  cases first : earliest (some existing) times with
  | none => exact absurd (earliest_eq_none_iff.mp first).1 (by simp)
  | some due => exact ⟨due, rfl, (earliest_eq_some_iff.mp first).2.1 existing rfl⟩

theorem earliest_nil (deadline : Option Nat) : earliest deadline [] = deadline := by
  cases deadline <;> rfl

/-- Times can be taken one after the other. -/
theorem earliest_append (deadline : Option Nat) (times more : List Nat) :
    earliest deadline (times ++ more) = earliest (earliest deadline times) more := by
  cases first : earliest deadline times with
  | none =>
      obtain ⟨rfl, rfl⟩ := earliest_eq_none_iff.mp first
      rfl
  | some time =>
      obtain ⟨among, before, least⟩ := earliest_eq_some_iff.mp first
      refine Option.ext fun t => ?_
      simp only [earliest_eq_some_iff, List.mem_append]
      grind

theorem Context.deadline_setDeadline (c : Context) (time : Nat) :
    (c.setDeadline time).deadline = earliest c.deadline [time] := by
  unfold setDeadline
  cases c.deadline with
  | none => rfl
  | some existing =>
      change some (if existing < time then existing else time) = some (min existing time)
      congr 1
      split <;> omega

end HttpService

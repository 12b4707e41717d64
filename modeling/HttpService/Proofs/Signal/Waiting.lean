import HttpService.Signal.Waiter

/-!
# Waiters that are not forgotten

A waiter steps by itself, and others change the condition and give notices in between. As long as
whoever makes the condition hold gives a notice, or still owes one, nobody sleeps for good while it
holds.
-/

namespace HttpService

namespace Waiter

/-- A waiter that sleeps, or is about to, while the condition holds has been given a notice or is
owed one. Nobody has taken note of more notices than there are. -/
def Attended (holds : Bool) (notices owed : Nat) : Waiter → Prop
  | .fresh | .done => True
  | .listening seen => seen ≤ notices
  | .looked seen | .parked seen => seen ≤ notices ∧ (holds = true → seen < notices ∨ 0 < owed)

variable {holds holds' : Bool} {notices notices' owed owed' : Nat} {w : Waiter}

/-- A waiter may take its step at any time. -/
theorem Attended.step (attended : w.Attended holds notices owed) :
    (w.step holds notices).Attended holds notices owed := by
  cases w with
  | fresh => exact Nat.le_refl notices
  | listening seen =>
      cases holds with
      | true => trivial
      | false => exact ⟨attended, nofun⟩
  | looked seen => exact attended
  | parked seen =>
      change Attended holds notices owed (if seen < notices then .fresh else .parked seen)
      split
      · trivial
      · exact attended
  | done => trivial

/-- Others may do what gives a notice to everybody, or leaves nobody with a condition that holds and
no notice to come. -/
theorem Attended.shift (attended : w.Attended holds notices owed) (later : notices ≤ notices')
    (told : holds' = true → notices < notices' ∨ 0 < owed' ∨
      holds = true ∧ (0 < owed → 0 < owed')) :
    w.Attended holds' notices' owed' := by
  -- What is said of those who sleep is also said of those who are about to.
  have asleep {seen : Nat} (attended : seen ≤ notices ∧
      (holds = true → seen < notices ∨ 0 < owed)) :
      seen ≤ notices' ∧ (holds' = true → seen < notices' ∨ 0 < owed') := by
    refine ⟨Nat.le_trans attended.1 later, fun now => ?_⟩
    obtain given | owes | ⟨before, kept⟩ := told now
    · exact .inl (Nat.lt_of_le_of_lt attended.1 given)
    · exact .inr owes
    · exact (attended.2 before).imp (Nat.lt_of_lt_of_le · later) kept
  cases w with
  | fresh | done => trivial
  | listening seen => exact Nat.le_trans attended later
  | looked seen | parked seen => exact asleep attended

/-- When the condition holds and no notice is owed, whoever sleeps has been given one. -/
theorem Attended.told {seen : Nat} (attended : (parked seen).Attended true notices 0) :
    seen < notices :=
  (attended.2 rfl).resolve_right (Nat.lt_irrefl 0)

/-- Then every waiter is done after a few more steps of its own. -/
theorem Attended.settle (attended : w.Attended true notices 0) :
    w.settle true notices = .done := by
  cases w with
  | fresh | listening | done => rfl
  | looked seen | parked seen =>
      have told : seen < notices := Attended.told attended
      simp [Waiter.settle, Waiter.step, told]

end Waiter

end HttpService

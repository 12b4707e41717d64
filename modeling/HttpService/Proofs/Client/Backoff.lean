import HttpService.Client.Retry
import Mathlib.Algebra.Order.Ring.Nat

/-!
# Backoff

The wait before an attempt doubles with each attempt, up to the cap of the policy. The factor for it
doubles only as long as it fits in half a word. A base that is so small that it does not reach the
cap by then never reaches it.
-/

namespace HttpService.RetryPolicy

variable (policy : RetryPolicy) {i j : Nat}

/-- The greatest factor for a wait. -/
def lastFactor : Nat :=
  Nat.pow 2 32 - 1

theorem factor_of_le (small : i ≤ 32) : factor i = 2 ^ (i - 1) :=
  if_pos small

theorem factor_of_lt (large : 32 < i) : factor i = lastFactor :=
  if_neg (Nat.not_le.mpr large)

theorem pow_le_lastFactor (small : i ≤ 32) : 2 ^ (i - 1) ≤ lastFactor :=
  calc 2 ^ (i - 1) ≤ 2 ^ 31 := Nat.pow_le_pow_right (by decide) (by omega)
    _ ≤ lastFactor := by decide

theorem lastFactor_lt_pow (large : 32 < i) : lastFactor < 2 ^ (i - 1) :=
  calc lastFactor < 2 ^ 32 := by decide
    _ ≤ 2 ^ (i - 1) := Nat.pow_le_pow_right (by decide) (by omega)

/-- The doubling ends with the last power that does not exceed the last factor. -/
theorem factor_eq_min (i : Nat) : factor i = min (2 ^ (i - 1)) lastFactor := by
  obtain large | small := Nat.lt_or_ge 32 i
  · rw [factor_of_lt large, min_eq_right (lastFactor_lt_pow large).le]
  · rw [factor_of_le small, min_eq_left (pow_le_lastFactor small)]

theorem factor_le_factor (le : i ≤ j) : factor i ≤ factor j := by
  rw [factor_eq_min, factor_eq_min]
  exact min_le_min_right _ (Nat.pow_le_pow_right (by decide) (Nat.sub_le_sub_right le 1))

theorem factor_eq_pow_iff : factor i = 2 ^ (i - 1) ↔ i ≤ 32 := by
  refine ⟨fun doubled => Nat.not_lt.mp fun large => ?_, factor_of_le⟩
  rw [factor_of_lt large] at doubled
  exact Nat.ne_of_lt (lastFactor_lt_pow large) doubled

/-- A wait beyond the longest span is beyond the cap too, so the cap stands for it. -/
theorem nanos_backoff (fits : policy.maxBackoff.nanos ≤ Span.max.nanos) (later : 0 < i) :
    (policy.backoff i).nanos =
      min (policy.baseInterval.nanos * factor i) policy.maxBackoff.nanos := by
  unfold backoff
  rw [if_neg (Nat.ne_of_gt later)]
  dsimp only
  split
  · rfl
  · next long => exact (min_eq_right (by omega)).symm

/-- Delays that differ are told apart below a cap, unless the lesser one reaches it. -/
theorem min_eq_min_iff {a b cap : Nat} (le : a ≤ b) :
    min a cap = min b cap ↔ a = b ∨ cap ≤ a := by
  omega

/-- The wait before an attempt is the base, doubled for each attempt before it as far as the last
factor allows, and no more than the cap. Doubling without end would give the same wait exactly for
the first 32 attempts, for a base of zero, and for a base that the last factor takes to the cap. Only
such a base reaches the cap for good. -/
theorem backoff_exact (fits : policy.maxBackoff.nanos ≤ Span.max.nanos) :
    (∀ i, 0 < i → (policy.backoff i).nanos =
      min (policy.baseInterval.nanos * min (2 ^ (i - 1)) lastFactor) policy.maxBackoff.nanos) ∧
    (∀ i, 0 < i →
      ((policy.backoff i).nanos =
          min (policy.baseInterval.nanos * 2 ^ (i - 1)) policy.maxBackoff.nanos ↔
        i ≤ 32 ∨ policy.baseInterval.nanos = 0 ∨
          policy.maxBackoff.nanos ≤ policy.baseInterval.nanos * lastFactor)) ∧
    ((∃ n, ∀ i, n ≤ i → policy.backoff i = policy.maxBackoff) ↔
      policy.maxBackoff.nanos ≤ policy.baseInterval.nanos * lastFactor) := by
  refine ⟨?_, ?_, ?_⟩
  · intro i later
    rw [policy.nanos_backoff fits later, factor_eq_min]
  · intro i later
    have grows : policy.baseInterval.nanos * factor i ≤
        policy.baseInterval.nanos * 2 ^ (i - 1) := by
      rw [factor_eq_min]
      exact Nat.mul_le_mul_left _ (min_le_left _ _)
    rw [policy.nanos_backoff fits later, min_eq_min_iff grows, mul_eq_mul_left_iff,
      factor_eq_pow_iff, or_assoc]
    obtain large | small := Nat.lt_or_ge 32 i
    · rw [factor_of_lt large]
    · simp only [small, true_or]
  · constructor
    · rintro ⟨n, capped⟩
      have late : 32 < max n 33 := by omega
      have wait := policy.nanos_backoff fits (Nat.zero_lt_of_lt late)
      rw [capped _ (le_max_left n 33), factor_of_lt late] at wait
      exact min_eq_right_iff.mp wait.symm
    · intro reaches
      refine ⟨33, fun i late => ?_⟩
      have wait := policy.nanos_backoff fits (Nat.zero_lt_of_lt late)
      rw [factor_of_lt late, min_eq_right reaches] at wait
      exact congrArg Span.mk wait

/-- A base of one nanosecond doubles up to little more than four seconds. -/
theorem backoff_exact_one_nano :
    let policy : RetryPolicy := ⟨40, ⟨1⟩, .ofSeconds 10, isTransient⟩
    policy.maxBackoff.nanos ≤ Span.max.nanos ∧
      (policy.backoff 34).nanos = 4294967295 ∧
      (policy.backoff 34).nanos ≠ min (policy.baseInterval.nanos * 2 ^ 33)
        policy.maxBackoff.nanos ∧
      ¬ ∃ n, ∀ i, n ≤ i → policy.backoff i = policy.maxBackoff := by
  intro policy
  have fits : policy.maxBackoff.nanos ≤ Span.max.nanos := by decide
  obtain ⟨waits, doubled, capped⟩ := policy.backoff_exact fits
  refine ⟨fits, (waits 34 (by decide)).trans (by decide), ?_, ?_⟩
  · rw [Ne, doubled 34 (by decide)]
    decide
  · rw [capped]
    decide

/-- So the wait does not always double up to the cap. -/
theorem not_always_doubling :
    ¬ ∀ (maxRetries : Nat) (base cap : Span) (policy : RetryPolicy) (i : Nat),
      cap.nanos ≤ Span.max.nanos → new maxRetries base cap = .ok policy → 0 < i → i < 2 ^ 32 →
        (policy.backoff i).nanos = min (base.nanos * 2 ^ (i - 1)) cap.nanos := by
  intro doubles
  have wait := doubles 40 ⟨1⟩ (.ofSeconds 10) _ 34 (by decide) rfl (by decide) (by decide)
  exact absurd wait (by decide)

end HttpService.RetryPolicy

import HttpService.Client.Exchange
import HttpService.Proofs.Client.Backoff
import Mathlib.Data.List.TakeWhile

/-!
# Schedules

A policy, a network and the moment at which a call begins say when each attempt is made, what it
meets and how many there are, as long as nothing stops the call. The waits between the attempts grow
up to the policy's cap.
-/

namespace HttpService

/-! ## Waits -/

namespace RetryPolicy

variable (policy : RetryPolicy) {i j : Nat}

theorem backoff_le_maxBackoff : (policy.backoff i).nanos ≤ policy.maxBackoff.nanos := by
  unfold backoff
  split
  · exact Nat.zero_le _
  · dsimp only
    split
    · exact Nat.min_le_right _ _
    · exact le_rfl

theorem backoff_le_backoff (le : i ≤ j) :
    (policy.backoff i).nanos ≤ (policy.backoff j).nanos := by
  obtain rfl | later := Nat.eq_zero_or_pos i
  · exact Nat.zero_le _
  have grows : policy.baseInterval.nanos * factor i ≤ policy.baseInterval.nanos * factor j :=
    Nat.mul_le_mul_left _ (factor_le_factor le)
  by_cases fits : policy.baseInterval.nanos * factor j ≤ Span.max.nanos
  · simp only [backoff, Nat.ne_of_gt later, Nat.ne_of_gt (later.trans_le le), fits,
      grows.trans fits, ↓reduceIte]
    exact min_le_min_right _ grows
  · -- Beyond the longest span a wait is the cap, and no wait is longer.
    have capped : policy.backoff j = policy.maxBackoff := by
      simp only [backoff, Nat.ne_of_gt (later.trans_le le), fits, ↓reduceIte]
    rw [capped]
    exact policy.backoff_le_maxBackoff

end RetryPolicy

/-! ## Attempts -/

/-- A call that nothing stops. -/
structure Plan where
  net : Network
  policy : RetryPolicy
  request : Prepared
  begins : Nat

/-- The numbers below a bound that come before the first one that a test rejects. -/
theorem takeWhile_range (p : Nat → Bool) (n : Nat) :
    ∃ k ≤ n, (List.range n).takeWhile p = List.range k ∧ (∀ i < k, p i = true) ∧
      (k < n → p k = false) := by
  induction n with
  | zero => exact ⟨0, le_rfl, rfl, by simp, by simp⟩
  | succ n ih =>
      obtain ⟨k, below, taken, passed, rejected⟩ := ih
      rw [List.range_succ, List.takeWhile_append, taken, List.length_range, List.length_range]
      split
      · next all =>
          subst all
          cases test : p k with
          | false => exact ⟨k, by omega, by simp [test], passed, fun _ => test⟩
          | true =>
              refine ⟨k + 1, le_rfl, by simp [test, List.range_succ], fun i inside => ?_, by simp⟩
              obtain less | rfl := Nat.lt_succ_iff_lt_or_eq.mp inside
              · exact passed i less
              · exact test
      · next some => exact ⟨k, by omega, rfl, passed, fun _ => rejected (by omega)⟩

namespace Plan

variable (plan : Plan) {i j : Nat}

/-- When an attempt is made: the first one at once, a further one after the wait for it. -/
def start : Nat → Nat
  | 0 => plan.begins
  | i + 1 =>
      start i + (plan.request.limited (plan.net.answer i (start i) plan.request)).took.nanos +
        (plan.policy.backoff (i + 1)).nanos

/-- What an attempt meets. -/
def trial (i : Nat) : Trial :=
  plan.request.limited (plan.net.answer i (plan.start i) plan.request)

/-- When an attempt is over. -/
def finish (i : Nat) : Nat :=
  plan.start i + (plan.trial i).took.nanos

/-- How many attempts follow the first one: as many as the policy allows, unless one of them comes
to an end after which it makes no other. -/
def retries : Nat :=
  ((List.range plan.policy.maxRetries).takeWhile fun i =>
    plan.policy.retryable (plan.trial i).outcome).length

/-- The first requests and when they are sent. -/
def sends (n : Nat) : List (Nat × Prepared) :=
  (List.range n).map fun i => (plan.start i, plan.request)

/-- The first waits. -/
def waits (n : Nat) : List Span :=
  (List.range n).map fun i => plan.policy.backoff (i + 1)

/-- Where the call stands before an attempt. -/
def round (i : Nat) : Round :=
  ⟨some plan.request, i, plan.start i, plan.sends i, plan.waits i⟩

/-- Before a further attempt the call waits for as long as the policy says. -/
theorem start_succ : plan.start (i + 1) = plan.finish i + (plan.policy.backoff (i + 1)).nanos :=
  rfl

theorem start_le_finish : plan.start i ≤ plan.finish i :=
  Nat.le_add_right _ _

theorem finish_le_start : plan.finish i ≤ plan.start (i + 1) := by
  rw [start_succ]
  exact Nat.le_add_right _ _

theorem start_le_start (le : i ≤ j) : plan.start i ≤ plan.start j := by
  have rises : Monotone plan.start :=
    monotone_nat_of_le_succ fun _ => plan.start_le_finish.trans plan.finish_le_start
  exact rises le

@[simp]
theorem sends_succ : plan.sends (i + 1) = plan.sends i ++ [(plan.start i, plan.request)] := by
  simp [sends, List.range_succ]

@[simp]
theorem waits_succ : plan.waits (i + 1) = plan.waits i ++ [plan.policy.backoff (i + 1)] := by
  simp [waits, List.range_succ]

@[simp]
theorem length_sends : (plan.sends i).length = i := by
  simp [sends]

theorem retries_spec :
    plan.retries ≤ plan.policy.maxRetries ∧
      (∀ i < plan.retries, plan.policy.retryable (plan.trial i).outcome = true) ∧
      (plan.retries < plan.policy.maxRetries →
        plan.policy.retryable (plan.trial plan.retries).outcome = false) := by
  obtain ⟨k, below, taken, passed, rejected⟩ :=
    takeWhile_range (fun i => plan.policy.retryable (plan.trial i).outcome) plan.policy.maxRetries
  have count : plan.retries = k := by rw [retries, taken, List.length_range]
  rw [count]
  exact ⟨below, passed, rejected⟩

/-- The requests that are sent before a moment. -/
theorem sends_takeWhile (t n : Nat) :
    ∃ k ≤ n, (plan.sends n).takeWhile (fun s => s.1 < t) = plan.sends k ∧
      (∀ i < k, plan.start i < t) ∧ (k < n → t ≤ plan.start k) := by
  obtain ⟨k, below, taken, passed, rejected⟩ := takeWhile_range (fun i => plan.start i < t) n
  refine ⟨k, below, ?_, fun i inside => of_decide_eq_true (passed i inside), fun inside =>
    Nat.not_lt.mp (of_decide_eq_false (rejected inside))⟩
  rw [sends, List.takeWhile_map]
  exact congrArg _ taken

theorem takeWhile_of_silent {t n : Nat} (early : t ≤ plan.begins) :
    (plan.sends n).takeWhile (fun s => s.1 < t) = [] := by
  obtain ⟨k, -, taken, made, -⟩ := plan.sends_takeWhile t n
  cases k with
  | zero => exact taken
  | succ k => exact absurd (made 0 (Nat.succ_pos k)) (Nat.not_lt.mpr early)

end Plan

end HttpService

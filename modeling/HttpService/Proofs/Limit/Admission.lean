import HttpService.Proofs.Limit.History

/-!
# Exact admission

The invariant of a run: on every time that counts now or will count later the log agrees with the
full history of allowed requests, and no client was ever given more than its share of a window. From
it follows what is decided on each request, whatever happened between the requests that count.
-/

namespace HttpService

open RequestLog

/-- How many times lie in the interval of a window's length from a start on. -/
def countFrom (window : Span) (start : Nat) (times : List Nat) : Nat :=
  times.countP fun t => start ≤ t && t < start + window.nanos

theorem countFrom_le_recent (window : Span) {start now : Nat} (soon : now < start + window.nanos)
    (times : List Nat) : countFrom window start times ≤ (recent window now times).length := by
  unfold countFrom recent
  rw [← List.countP_eq_length_filter]
  apply List.countP_mono_left
  intro t _ inside
  simp only [Bool.and_eq_true, decide_eq_true_eq] at inside ⊢
  omega

structure Faithful (rate : RateLimit) (log : RequestLog) (rulings : List Ruling) (now : Nat) :
    Prop where
  ascending : log.Ascending
  sorted : ∀ key, (log.times key).Pairwise (· ≤ ·)
  past : ∀ key, ∀ t ∈ log.times key, t ≤ now
  agrees : ∀ key later, now ≤ later →
    recent rate.window later (log.times key) = recentlyAdmitted rate rulings later key
  share : ∀ key start, countFrom rate.window start (admitted key rulings) ≤ rate.limit

namespace Faithful

variable {rate : RateLimit} {log : RequestLog} {rulings : List Ruling} {now later : Nat}

theorem start (rate : RateLimit) (now : Nat) : Faithful rate [] [] now where
  ascending := Table.ascending_nil
  sorted _ := List.Pairwise.nil
  past _ _ member := by cases member
  agrees _ _ _ := rfl
  share _ _ := Nat.zero_le _

theorem mono (faithful : Faithful rate log rulings now) (passed : now ≤ later) :
    Faithful rate log rulings later where
  ascending := faithful.ascending
  sorted := faithful.sorted
  past key t member := (faithful.past key t member).trans passed
  agrees key last after := faithful.agrees key last (passed.trans after)
  share := faithful.share

theorem prune_eq (faithful : Faithful rate log rulings now) (passed : now ≤ later) (key : String) :
    prune (log.times key) later rate.window = recentlyAdmitted rate rulings later key := by
  rw [prune_eq_recent (faithful.sorted key)]
  exact faithful.agrees key later passed

theorem decision (faithful : Faithful rate log rulings now) (passed : now ≤ later) (key : String) :
    (check rate log later key).1 =
      verdict rate later (recentlyAdmitted rate rulings later key) := by
  rw [check_decision, faithful.prune_eq passed]

theorem times_recent (faithful : Faithful rate log rulings now) (window : Span) (key : String) :
    (recent window now (log.times key)).Pairwise (· ≤ ·) ∧
      ∀ t ∈ recent window now (log.times key), t ≤ now :=
  ⟨(faithful.sorted key).sublist List.filter_sublist,
    fun t member => faithful.past key t (List.mem_of_mem_filter member)⟩

theorem sweep (faithful : Faithful rate log rulings now) :
    Faithful rate (log.sweep now rate.window) rulings now where
  ascending := ascending_sweep faithful.ascending now rate.window
  sorted key := by
    rw [times_sweep faithful.ascending, prune_eq_recent (faithful.sorted key)]
    exact (faithful.times_recent rate.window key).1
  past key := by
    rw [times_sweep faithful.ascending, prune_eq_recent (faithful.sorted key)]
    exact (faithful.times_recent rate.window key).2
  agrees key last after := by
    rw [times_sweep faithful.ascending, prune_eq_recent (faithful.sorted key),
      recent_recent rate.window after]
    exact faithful.agrees key last after
  share := faithful.share

/-- An allowed request leaves its client within its share of every interval: all earlier times in
an interval that holds the new one are recent. -/
theorem share_snoc (faithful : Faithful rate log rulings now) (key : String) (start : Nat)
    (room : (recentlyAdmitted rate rulings now key).length < rate.limit) :
    countFrom rate.window start (admitted key rulings ++ [now]) ≤ rate.limit := by
  have before := faithful.share key start
  unfold countFrom at before ⊢
  rw [List.countP_append]
  by_cases inside : start ≤ now ∧ now < start + rate.window.nanos
  · have recentOnes := countFrom_le_recent rate.window inside.2 (admitted key rulings)
    unfold countFrom at recentOnes
    unfold recentlyAdmitted at room
    simp only [List.countP_singleton, inside, decide_true, Bool.and_self, if_true]
    omega
  · have outside : (decide (start ≤ now) && decide (now < start + rate.window.nanos)) = false := by
      simpa using inside
    simp only [List.countP_singleton, outside, Bool.false_eq_true, if_false, Nat.add_zero]
    exact before

/-- What a request leaves of its client's times, with its own time if it is allowed. -/
theorem times_grown (faithful : Faithful rate log rulings now) (window : Span) (key : String)
    (allowed : Bool) :
    (recent window now (log.times key) ++ if allowed then [now] else []).Pairwise (· ≤ ·) ∧
      ∀ t ∈ recent window now (log.times key) ++ if allowed then [now] else [], t ≤ now := by
  obtain ⟨sorted, past⟩ := faithful.times_recent window key
  cases allowed with
  | false => simpa using And.intro sorted past
  | true =>
      constructor
      · refine List.pairwise_append.mpr ⟨sorted, List.pairwise_singleton _ _, ?_⟩
        intro t member u new
        exact List.mem_singleton.mp new ▸ past t member
      · intro t member
        obtain old | new := List.mem_append.mp member
        · exact past t old
        · exact (List.mem_singleton.mp new).le

theorem request (faithful : Faithful rate log rulings now) (key : String) :
    Faithful rate (check rate log now key).2
      (rulings ++ [⟨now, key, (check rate log now key).1⟩]) now := by
  have decided := faithful.decision (Nat.le_refl now) key
  have allowedIff := isAllowed_verdict rate now (recentlyAdmitted rate rulings now key)
  rw [← decided] at allowedIff
  have pruned := prune_eq_recent (faithful.sorted key) now rate.window
  obtain ⟨sorted, past⟩ := faithful.times_grown rate.window key (check rate log now key).1.isAllowed
  rw [check_log, pruned]
  -- Other clients keep their times and their history; this one's differ only if it is allowed.
  refine ⟨faithful.ascending.insert _ _, ?_, ?_, ?_, ?_⟩
  · intro other
    rw [times_insert]
    split
    · exact sorted
    · exact faithful.sorted other
  · intro other t member
    rw [times_insert] at member
    split at member
    · exact past t member
    · exact faithful.past other t member
  · intro other last after
    have agreed := faithful.agrees other last after
    unfold recentlyAdmitted at agreed ⊢
    rw [times_insert, admitted_snoc]
    by_cases same : key = other
    · subst same
      simp only [if_true, true_and]
      rw [recent_append, recent_append, recent_recent rate.window after, agreed]
    · simp only [same, if_false, false_and, List.append_nil]
      exact agreed
  · intro other start
    rw [admitted_snoc]
    split
    · next counts =>
        obtain ⟨same, allowed⟩ := counts
        dsimp only at same allowed
        subst same
        rw [allowedIff] at allowed
        exact faithful.share_snoc key start (of_decide_eq_true allowed)
    · rw [List.append_nil]
      exact faithful.share other start

end Faithful

/-! ## Runs -/

theorem LimiterRun.step_faithful {rate : RateLimit} {run : LimiterRun} {t : Nat}
    {event : Nat × LimiterEvent} (ofRate : run.limiter.rate = rate)
    (faithful : Faithful rate run.limiter.log run.rulings t) (passed : t ≤ event.1) :
    Faithful rate (run.step event).limiter.log (run.step event).rulings event.1 := by
  subst ofRate
  obtain ⟨now, what⟩ := event
  have current := faithful.mono passed
  cases what with
  | request key => exact current.request key
  | sweep => exact current.sweep
  | tick =>
      rcases run.limiter.log_tick now with same | swept
      · simpa [step, same] using current
      · simpa [step, swept] using current.sweep

namespace RunningLimiter

variable (rate : RateLimit) (inRuntime : Bool)

theorem rate_run (l : RunningLimiter) (events : List (Nat × LimiterEvent)) :
    (l.run events).limiter.rate = l.rate := by
  induction events using List.reverseRecOn with
  | nil => rfl
  | append_singleton events event ih => rw [run_snoc, LimiterRun.rate_step, ih]

theorem run_faithful {events : List (Nat × LimiterEvent)} {now : Nat}
    (ordered : InOrder events now) :
    Faithful rate ((start rate inRuntime).run events).limiter.log
      ((start rate inRuntime).run events).rulings now := by
  induction events using List.reverseRecOn generalizing now with
  | nil => exact Faithful.start rate now
  | append_singleton events event ih =>
      obtain ⟨before, last⟩ := ordered.split
      have stepped := LimiterRun.step_faithful (rate_run (start rate inRuntime) events) (ih before)
        (Nat.le_refl event.1)
      rw [run_snoc]
      exact stepped.mono last

theorem decide_run {events : List (Nat × LimiterEvent)} {now : Nat} (ordered : InOrder events now)
    (key : String) :
    (((start rate inRuntime).run events).limiter.decide now key).1 =
      verdict rate now
        (recentlyAdmitted rate ((start rate inRuntime).run events).rulings now key) := by
  have sameRate : ((start rate inRuntime).run events).limiter.rate = rate := rate_run ..
  have decided := (run_faithful rate inRuntime ordered).decision (Nat.le_refl now) key
  unfold decide
  rw [sameRate]
  exact decided

/-- The rulings on one client are those of a run in which only its requests occur. -/
theorem rulings_alone {events : List (Nat × LimiterEvent)} {now : Nat}
    (ordered : InOrder events now) (key : String) :
    ((start rate inRuntime).run events).rulings.filter (·.key == key) =
      ((start rate inRuntime).run (events.filter fun e => e.2 == .request key)).rulings := by
  induction events using List.reverseRecOn generalizing now with
  | nil => rfl
  | append_singleton events event ih =>
      obtain ⟨before, -⟩ := ordered.split
      have earlier := ih before
      obtain ⟨time, what⟩ := event
      rw [run_snoc, List.filter_append]
      cases what with
      | sweep => simpa [LimiterRun.step] using earlier
      | tick => simpa [LimiterRun.step] using earlier
      | request other =>
          by_cases same : other = key
          · subst same
            have decided := decide_run rate inRuntime before other
            have decidedAlone := decide_run rate inRuntime
              (before.filter fun e => e.2 == .request other) other
            have sameHistory := admitted_filter other ((start rate inRuntime).run events).rulings
            rw [earlier] at sameHistory
            unfold recentlyAdmitted at decided decidedAlone
            rw [sameHistory, ← decided] at decidedAlone
            simp [run_snoc, LimiterRun.step, earlier, decidedAlone]
          · simpa [LimiterRun.step, same] using earlier

/-- After any run, a request is allowed exactly if fewer than the limit of its client's allowed
requests are younger than the window, and is told what is left of the limit then. A client is decided
on as if it were alone, no interval of a window's length holds more than the limit of its allowed
requests, and a sweep leaves exactly the clients that have a recent one. -/
theorem admission_exact {events : List (Nat × LimiterEvent)} {now : Nat}
    (ordered : InOrder events now) :
    let run := (start rate inRuntime).run events
    (∀ key,
      let count := (recentlyAdmitted rate run.rulings now key).length
      let decision := (run.limiter.decide now key).1
      (decision.isAllowed = true ↔ count < rate.limit) ∧
      (∀ remaining, decision = .allowed remaining → remaining + count + 1 = rate.limit) ∧
      run.rulings.filter (·.key == key) =
        ((start rate inRuntime).run (events.filter fun e => e.2 == .request key)).rulings ∧
      (∀ from', countFrom rate.window from' (admitted key run.rulings) ≤ rate.limit) ∧
      (key ∈ (run.limiter.sweep now).2.log.keys ↔
        recentlyAdmitted rate run.rulings now key ≠ [])) ∧
    (run.limiter.sweep now).2.log.keys.Nodup ∧
    (∀ due, run.limiter.sweeping = .due due → due ≤ now →
      (run.limiter.tick now).2.log = (run.limiter.sweep now).2.log) := by
  intro run
  have sameRate : run.limiter.rate = rate := rate_run ..
  have faithful : Faithful rate run.limiter.log run.rulings now :=
    run_faithful rate inRuntime ordered
  refine ⟨fun key => ?_, ?_, fun due waiting passed => log_tick_of_due waiting passed⟩
  · intro count decision
    have decided : decision = verdict rate now (recentlyAdmitted rate run.rulings now key) :=
      decide_run rate inRuntime ordered key
    refine ⟨?_, ?_, rulings_alone rate inRuntime ordered key, faithful.share key, ?_⟩
    · rw [decided, isAllowed_verdict, decide_eq_true_eq]
    · intro remaining allowed
      exact verdict_eq_allowed (decided.symm.trans allowed)
    · have swept : (run.limiter.sweep now).2.log = run.limiter.log.sweep now rate.window := by
        rw [← sameRate]
        rfl
      rw [swept, mem_keys_sweep faithful.ascending, faithful.prune_eq (Nat.le_refl now)]
  · exact (ascending_sweep faithful.ascending now run.limiter.rate.window).nodup

/-- Two requests for each ten units of time: a request is allowed when the first of two is exactly
ten units old, and a unit before it is not. -/
theorem admission_exact_at_window_edge :
    let rate : RateLimit := { limit := 2, window := ⟨10⟩ }
    let events : List (Nat × LimiterEvent) :=
      [(0, .request "a"), (4, .request "a"), (5, .request "b"), (7, .sweep), (9, .request "a"),
        (9, .tick)]
    let run := (start rate false).run events
    InOrder events 10 ∧
      (run.limiter.decide 10 "a").1.isAllowed = true ∧
      (∀ from', countFrom rate.window from' (admitted "a" run.rulings) ≤ 2) ∧
      run.rulings.map Ruling.decision =
        [.allowed 1, .allowed 0, .allowed 1, .limited 1] := by
  intro rate events run
  have ordered : InOrder events 10 := by decide
  obtain ⟨perKey, -, -⟩ := admission_exact rate false ordered
  obtain ⟨allowedIff, -, -, share, -⟩ := perKey "a"
  exact ⟨ordered, allowedIff.mpr (by decide), share, by decide⟩

end RunningLimiter

end HttpService

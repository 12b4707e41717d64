import HttpService.Proofs.Limit.Admission

/-!
# When to come back

A client that is refused is told whole seconds. The oldest of the requests that fill its share is the
first to leave the window: it is out when the seconds are over, and was not out a second before.
Until then every request of the client is refused, and none of them counts.
-/

namespace HttpService

open RequestLog

namespace RequestLog

/-- Seconds are rounded up, by less than one. -/
theorem secondsUp_bounds (wait : Span) :
    wait.nanos ≤ (Span.ofSeconds (secondsUp wait)).nanos ∧
      (Span.ofSeconds (secondsUp wait)).nanos < wait.nanos + Span.nanosPerSecond := by
  rw [Span.nanos_ofSeconds]
  unfold secondsUp Span.seconds Span.subsec Span.nanosPerSecond
  split <;> omega

/-- The longest window of which a client can always be told what is left. -/
def longestTold : Span :=
  .ofSeconds (Nat.pow 2 64 - 1)

/-- What a client is told of a wait. -/
theorem refuse_eq_limited {wait : Span} (positive : 0 < wait.nanos)
    (told : wait.nanos ≤ longestTold.nanos) : refuse wait = .limited (secondsUp wait) := by
  obtain ⟨covers, tight⟩ := secondsUp_bounds wait
  rw [longestTold, Span.nanos_ofSeconds] at told
  rw [Span.nanos_ofSeconds] at covers tight
  unfold Span.nanosPerSecond at tight
  unfold refuse
  rw [if_pos (by omega), max_eq_right (by omega)]

/-! ## Times that leave the window -/

variable {window : Span} {now oldest : Nat} {times : List Nat}

theorem recent_eq_self (sorted : (oldest :: times).Pairwise (· ≤ ·))
    (recently : now - oldest < window.nanos) :
    recent window now (oldest :: times) = oldest :: times := by
  refine List.filter_eq_self.mpr fun t member => ?_
  have notEarlier : oldest ≤ t := by
    obtain rfl | inside := List.mem_cons.mp member
    · exact le_rfl
    · exact (List.pairwise_cons.mp sorted).1 t inside
  simp only [decide_eq_true_eq]
  omega

theorem length_recent_le (old : window.nanos ≤ now - oldest) :
    (recent window now (oldest :: times)).length ≤ times.length := by
  have gone : recent window now (oldest :: times) = recent window now times :=
    List.filter_cons_of_neg (by simpa using old)
  rw [gone]
  exact List.length_filter_le _ _

end RequestLog

/-! ## A full share -/

namespace Faithful

variable {rate : RateLimit} {log : RequestLog} {rulings : List Ruling} {now : Nat}

/-- The times that count are in order, none of them is to come, and there are no more of them than
the limit. -/
theorem counted (faithful : Faithful rate log rulings now) (key : String) :
    (recentlyAdmitted rate rulings now key).Pairwise (· ≤ ·) ∧
      (∀ t ∈ recentlyAdmitted rate rulings now key, t ≤ now) ∧
      (recentlyAdmitted rate rulings now key).length ≤ rate.limit := by
  obtain ⟨sorted, past⟩ := faithful.times_recent rate.window key
  rw [faithful.agrees key now le_rfl] at sorted past
  refine ⟨sorted, past, ?_⟩
  -- They all lie in the interval of a window's length that ends with the present.
  let start := now + 1 - rate.window.nanos
  have inside : (recentlyAdmitted rate rulings now key).length ≤
      countFrom rate.window start (admitted key rulings) := by
    unfold recentlyAdmitted recent countFrom
    rw [← List.countP_eq_length_filter]
    refine List.countP_mono_left fun t member recently => ?_
    have notLater := past t (List.mem_filter.mpr ⟨member, recently⟩)
    simp only [Bool.and_eq_true, decide_eq_true_eq, start] at recently ⊢
    omega
  exact inside.trans (faithful.share key start)

/-- A client that is refused has used up its share, and is told in how many seconds the oldest of the
requests in it leaves the window. -/
theorem refusal (faithful : Faithful rate log rulings now) (key : String) (nonzero : 1 ≤ rate.limit)
    (told : rate.window.nanos ≤ longestTold.nanos)
    (refused : (verdict rate now (recentlyAdmitted rate rulings now key)).isAllowed = false) :
    ∃ oldest rest n, recentlyAdmitted rate rulings now key = oldest :: rest ∧
      rest.length + 1 = rate.limit ∧
      verdict rate now (recentlyAdmitted rate rulings now key) = .limited n ∧ 1 ≤ n ∧
      now + (Span.ofSeconds (n - 1)).nanos < oldest + rate.window.nanos ∧
      oldest + rate.window.nanos ≤ now + (Span.ofSeconds n).nanos := by
  obtain ⟨-, past, share⟩ := faithful.counted key
  have members : ∀ t ∈ recentlyAdmitted rate rulings now key, now - t < rate.window.nanos :=
    fun t member => of_decide_eq_true (List.mem_filter.mp member).2
  rw [isAllowed_verdict, decide_eq_false_iff_not, Nat.not_lt] at refused
  cases times : recentlyAdmitted rate rulings now key with
  | nil =>
      rw [times] at refused
      exact absurd (nonzero.trans refused) (by decide)
  | cons oldest rest =>
      rw [times] at refused share past members
      have notLater := past oldest List.mem_cons_self
      have recently := members oldest List.mem_cons_self
      let wait : Span := ⟨rate.window.nanos - (now - oldest)⟩
      have positive : 0 < wait.nanos := Nat.sub_pos_of_lt recently
      have limited : verdict rate now (oldest :: rest) = .limited (secondsUp wait) := by
        unfold verdict
        rw [if_pos refused]
        exact refuse_eq_limited positive ((Nat.sub_le _ _).trans told)
      obtain ⟨covers, tight⟩ := secondsUp_bounds wait
      rw [Span.nanos_ofSeconds] at covers tight
      unfold Span.nanosPerSecond at tight
      have rest_wait : wait.nanos + (now - oldest) = rate.window.nanos :=
        Nat.sub_add_cancel recently.le
      refine ⟨oldest, rest, _, rfl, le_antisymm share refused, limited, by omega, ?_, ?_⟩
      · rw [Span.nanos_ofSeconds]
        omega
      · rw [Span.nanos_ofSeconds]
        omega

end Faithful

/-! ## Runs -/

namespace RunningLimiter

theorem rulings_append (l : RunningLimiter) (events more : List (Nat × LimiterEvent)) :
    ∃ later, (l.run (events ++ more)).rulings = (l.run events).rulings ++ later := by
  induction more using List.reverseRecOn with
  | nil => exact ⟨[], by simp⟩
  | append_singleton more event ih =>
      obtain ⟨later, same⟩ := ih
      rw [← List.append_assoc, run_snoc]
      obtain ⟨now, what⟩ := event
      cases what with
      | request key =>
          refine ⟨later ++ [⟨now, key, ((l.run (events ++ more)).limiter.decide now key).1⟩], ?_⟩
          rw [← List.append_assoc, ← same]
          rfl
      | sweep => exact ⟨later, same⟩
      | tick => exact ⟨later, same⟩

variable (rate : RateLimit) (inRuntime : Bool)

/-- A client that is refused after any run is told a number of whole seconds, at least one. However
the run goes on, a request that the client makes when these seconds are over is allowed, unless one
was allowed before; a request that it makes a second earlier, or before that, is refused. -/
theorem retryAfter_exact {events more : List (Nat × LimiterEvent)} {t now : Nat} {key : String}
    (nonzero : 1 ≤ rate.limit) (told : rate.window.nanos ≤ longestTold.nanos)
    (ordered : InOrder (events ++ (t, .request key) :: more) now)
    (refused : (((start rate inRuntime).run events).limiter.decide t key).1.isAllowed = false) :
    let before := (start rate inRuntime).run events
    let run := (start rate inRuntime).run (events ++ (t, .request key) :: more)
    ∃ n, (before.limiter.decide t key).1 = .limited n ∧ 1 ≤ n ∧
      (now ≤ t + (Span.ofSeconds (n - 1)).nanos →
        ∃ m, (run.limiter.decide now key).1 = .limited m) ∧
      (admitted key run.rulings = admitted key before.rulings →
        t + (Span.ofSeconds n).nanos ≤ now →
          ∃ remaining, (run.limiter.decide now key).1 = .allowed remaining) := by
  intro before run
  obtain ⟨ordered', passed⟩ := ordered.split
  have faithful : Faithful rate before.limiter.log before.rulings t :=
    run_faithful rate inRuntime ordered'
  have decided := decide_run rate inRuntime ordered' key
  have decidedLater := decide_run rate inRuntime ordered key
  rw [decided] at refused
  obtain ⟨oldest, rest, n, times, full, limited, positive, stays, leaves⟩ :=
    faithful.refusal key nonzero told refused
  -- What the earlier rulings leave to count later on is left of the full share.
  have left : recent rate.window now (admitted key before.rulings) =
      recent rate.window now (oldest :: rest) := by
    rw [← times]
    exact (recent_recent rate.window passed _).symm
  refine ⟨n, decided.trans limited, positive, fun early => ?_, fun same late => ?_⟩
  · have faithful' : Faithful rate run.limiter.log run.rulings now :=
      run_faithful rate inRuntime ordered
    obtain ⟨sorted, past, -⟩ := faithful.counted key
    rw [times] at sorted past
    have notLater := past oldest List.mem_cons_self
    have still : now - oldest < rate.window.nanos := by omega
    have kept := recent_eq_self sorted still
    obtain ⟨later, more⟩ := (start rate inRuntime).rulings_append events ((t, .request key) :: more)
    have length : rate.limit ≤ (recentlyAdmitted rate run.rulings now key).length := by
      unfold recentlyAdmitted
      rw [more, admitted_append, recent_append, left, kept, List.length_append, List.length_cons]
      omega
    have again : (verdict rate now (recentlyAdmitted rate run.rulings now key)).isAllowed =
        false := by
      rw [isAllowed_verdict, decide_eq_false_iff_not]
      exact Nat.not_lt.mpr length
    obtain ⟨_, _, m, -, -, limited', -⟩ := faithful'.refusal key nonzero told again
    exact ⟨m, decidedLater.trans limited'⟩
  · have room : (recentlyAdmitted rate run.rulings now key).length < rate.limit := by
      unfold recentlyAdmitted
      rw [same, left]
      have old : rate.window.nanos ≤ now - oldest := by omega
      exact (length_recent_le old).trans_lt (by omega)
    exact ⟨_, decidedLater.trans (if_neg (Nat.not_le.mpr room))⟩

/-- Two requests in a second and a half: the third is told two seconds, a sweep comes in between, and
the wait ends exactly where the first of the two is as old as the window. -/
theorem retryAfter_exact_half_second :
    let rate : RateLimit := { limit := 2, window := .ofMillis 1500 }
    let events : List (Nat × LimiterEvent) := [(0, .request "a"), (100, .request "a")]
    let run (now : Nat) := (start rate false).run (events ++ [(400, .request "a"), (now, .sweep)])
    (((start rate false).run events).limiter.decide 400 "a").1 = .limited 2 ∧
      (∃ m, ((run 1000000400).limiter.decide 1000000400 "a").1 = .limited m) ∧
      ∃ remaining, ((run 2000000400).limiter.decide 2000000400 "a").1 = .allowed remaining := by
  intro rate events run
  have told : rate.window.nanos ≤ longestTold.nanos := by decide
  have refused : (((start rate false).run events).limiter.decide 400 "a").1.isAllowed = false := by
    decide
  have soon : InOrder (events ++ [(400, .request "a"), (1000000400, .sweep)]) 1000000400 := by
    decide
  have late : InOrder (events ++ [(400, .request "a"), (2000000400, .sweep)]) 2000000400 := by
    decide
  obtain ⟨n, limited, -, early, -⟩ := retryAfter_exact rate false (by decide) told soon refused
  obtain ⟨n', limited', -, -, later⟩ := retryAfter_exact rate false (by decide) told late refused
  have two : (((start rate false).run events).limiter.decide 400 "a").1 = .limited 2 := by decide
  obtain rfl : 2 = n := Decision.limited.inj (two.symm.trans limited)
  obtain rfl : 2 = n' := Decision.limited.inj (two.symm.trans limited')
  exact ⟨two, early (by decide), later (by decide) (by decide)⟩

end RunningLimiter

end HttpService

import HttpService.Proofs.Limit.RetryAfter
import HttpService.Proofs.Act
import HttpService.Stage.RateLimit

/-!
# Limits in machine words

A limiter counts seconds and requests in words of 64 bits. The differences that it takes are never
negative. The one sum that it takes is a word too unless the wait is longer than all whole seconds
that a word can count, which needs a window that is, and an oldest request that is hardly a second
old.
-/

namespace HttpService

namespace Word

/-- The sum of two words, if it is one. -/
def add? (a b : Nat) : Option Nat :=
  if a + b < Nat.pow 2 64 then some (a + b) else none

/-- The difference of two words, if it is one. -/
def sub? (a b : Nat) : Option Nat :=
  if b ≤ a then some (a - b) else none

end Word

namespace RequestLog

/-! ## The calls in words -/

/-- The seconds that a client is told to wait. -/
def told? (wait : Span) : Option Nat :=
  (Word.add? wait.seconds (if wait.subsec > 0 then 1 else 0)).map (max 1)

/-- Decides on a request; nothing if a sum or a difference is no word. -/
def check? (r : RateLimit) (log : RequestLog) (now : Nat) (key : String) :
    Option (Decision × RequestLog) :=
  let times := prune (log.times key) now r.window
  if r.limit ≤ times.length then
    (told? ⟨r.window.nanos - (now - times.headD now)⟩).map fun n =>
      (.limited n, log.insert key times)
  else
    let grown := times ++ [now]
    (Word.sub? r.limit grown.length).map fun n => (.allowed n, log.insert key grown)

/-- How many clients a sweep forgets; nothing if the difference is no word. -/
def sweep? (log : RequestLog) (now : Nat) (window : Span) : Option Nat :=
  Word.sub? log.length (log.sweep now window).length

/-! ## One call -/

theorem nanos_longestTold : longestTold.nanos = 18446744073709551615000000000 := by decide

theorem nanos_max : Span.max.nanos = 18446744073709551615999999999 := by decide

/-- A span that is longer than a word of seconds can tell has all the seconds of one. -/
theorem seconds_of_long {wait : Span} (lasting : wait.nanos ≤ Span.max.nanos)
    (long : longestTold.nanos < wait.nanos) : wait.seconds = Nat.pow 2 64 - 1 := by
  have words : Nat.pow 2 64 = 18446744073709551616 := by decide
  rw [nanos_max] at lasting
  rw [nanos_longestTold] at long
  unfold Span.seconds Span.nanosPerSecond
  rw [words]
  omega

theorem secondsUp_lt_iff (wait : Span) :
    secondsUp wait < Nat.pow 2 64 ↔ wait.nanos ≤ longestTold.nanos := by
  obtain ⟨covers, tight⟩ := secondsUp_bounds wait
  rw [Span.nanos_ofSeconds] at covers tight
  unfold Span.nanosPerSecond at tight
  have words : Nat.pow 2 64 = 18446744073709551616 := by decide
  rw [nanos_longestTold, words]
  constructor
  · intro fits
    omega
  · intro short
    omega

theorem refuse_eq_overflow_iff (wait : Span) :
    refuse wait = .overflow ↔ longestTold.nanos < wait.nanos := by
  rw [← Nat.not_le, ← secondsUp_lt_iff]
  unfold refuse
  split
  · next told => simp [told]
  · next long => simp [long]

/-- The sum is a word exactly if the client can be told the wait. -/
theorem told?_map (wait : Span) (log : RequestLog) :
    (told? wait).map (fun n => (Decision.limited n, log)) =
      if refuse wait = .overflow then none else some (refuse wait, log) := by
  have told : told? wait = (if secondsUp wait < Nat.pow 2 64 then some (secondsUp wait)
      else none).map (max 1) := rfl
  rw [told]
  unfold refuse
  split
  · rfl
  · rfl

/-- A client that is let in has a place in the limit. -/
theorem sub?_of_room {limit : Nat} {times : List Nat} (room : times.length < limit) (now : Nat) :
    Word.sub? limit (times ++ [now]).length = some (limit - (times ++ [now]).length) := by
  have place : (times ++ [now]).length ≤ limit := by
    rw [List.length_append, List.length_singleton]
    exact room
  exact if_pos place

theorem check?_eq (r : RateLimit) (log : RequestLog) (now : Nat) (key : String) :
    check? r log now key =
      if (check r log now key).1 = .overflow then none else some (check r log now key) := by
  have decided := check_decision r log now key
  have logged := check_log r log now key
  have allowed := isAllowed_verdict r now (prune (log.times key) now r.window)
  rw [← decided] at allowed
  have result : check r log now key = (verdict r now (prune (log.times key) now r.window),
      (check r log now key).2) := Prod.ext decided rfl
  unfold check?
  dsimp only
  by_cases full : r.limit ≤ (prune (log.times key) now r.window).length
  · rw [decide_eq_false (Nat.not_lt.mpr full)] at allowed
    rw [allowed, if_neg Bool.false_ne_true, List.append_nil] at logged
    rw [if_pos full, told?_map, result, logged, verdict, if_pos full]
  · have room := Nat.lt_of_not_le full
    rw [decide_eq_true room] at allowed
    rw [allowed, if_pos rfl] at logged
    rw [if_neg full, sub?_of_room room, Option.map_some, result, logged, verdict, if_neg full,
      if_neg (by simp), List.length_append, List.length_singleton]

theorem check?_eq_none_iff (r : RateLimit) (log : RequestLog) (now : Nat) (key : String) :
    check? r log now key = none ↔ (check r log now key).1 = .overflow := by
  rw [check?_eq]
  split
  · next overflows => simp [overflows]
  · next fits => simp [fits]

theorem verdict_eq_overflow_iff (r : RateLimit) (now : Nat) (counted : List Nat) :
    verdict r now counted = .overflow ↔
      r.limit ≤ counted.length ∧
        longestTold.nanos < r.window.nanos - (now - counted.headD now) := by
  unfold verdict
  split
  · next full => simp [full, refuse_eq_overflow_iff]
  · next room => simp [room]

/-- A sweep forgets some of the clients that are there. -/
theorem length_sweep_le (log : RequestLog) (now : Nat) (window : Span) :
    (log.sweep now window).length ≤ log.length := by
  rw [sweep_eq_filterMap]
  exact List.length_filterMap_le ..

theorem sweep?_eq (log : RequestLog) (now : Nat) (window : Span) :
    log.sweep? now window = some (log.length - (log.sweep now window).length) :=
  if_pos (length_sweep_le log now window)

end RequestLog

open RequestLog

/-! ## Runs -/

namespace RunningLimiter

variable (rate : RateLimit) (inRuntime : Bool)

/-- Whatever has happened to a limiter, a sweep stays within words, and so does the decision on a
request, which is then the exact one, unless the request is refused for longer than a word of seconds
can tell. No window of whole seconds lets that happen, and another one only as long as the oldest
request that counts is less than a second old. -/
theorem words_exact (lasting : rate.window.nanos ≤ Span.max.nanos)
    {events : List (Nat × LimiterEvent)} {now : Nat} (ordered : InOrder events now) :
    let run := (start rate inRuntime).run events
    let log := run.limiter.log
    log.sweep? now rate.window = some (run.limiter.sweep now).1 ∧
    ∀ key,
      let counted := recentlyAdmitted rate run.rulings now key
      let wait : Span := ⟨rate.window.nanos - (now - counted.headD now)⟩
      (check? rate log now key = none ↔
        rate.limit ≤ counted.length ∧ longestTold.nanos < wait.nanos) ∧
      (∀ answer, check? rate log now key = some answer →
        answer = check rate log now key ∧ answer.1 ≠ .overflow) ∧
      (rate.window.nanos ≤ longestTold.nanos → (check? rate log now key).isSome) ∧
      (check? rate log now key = none →
        wait.seconds = Nat.pow 2 64 - 1 ∧ now < counted.headD now + Span.nanosPerSecond) := by
  intro run log
  have sameRate : run.limiter.rate = rate := rate_run ..
  constructor
  · rw [sweep?_eq, ← sameRate]
    rfl
  · intro key counted wait
    have decided : (check rate log now key).1 = verdict rate now counted :=
      (run_faithful rate inRuntime ordered).decision (Nat.le_refl now) key
    have overflows : check? rate log now key = none ↔
        rate.limit ≤ counted.length ∧ longestTold.nanos < wait.nanos := by
      rw [check?_eq_none_iff, decided, verdict_eq_overflow_iff]
    have shorter : wait.nanos ≤ rate.window.nanos := Nat.sub_le ..
    refine ⟨overflows, ?_, ?_, ?_⟩
    · intro answer some'
      rw [check?_eq] at some'
      split at some'
      · cases some'
      · next fits =>
          cases some'
          exact ⟨rfl, fits⟩
    · intro short
      rw [Option.isSome_iff_ne_none, ne_eq, overflows]
      rintro ⟨-, long⟩
      exact absurd (shorter.trans short) (Nat.not_le.mpr long)
    · intro none'
      obtain ⟨-, long⟩ := overflows.mp none'
      refine ⟨seconds_of_long (shorter.trans lasting) long, ?_⟩
      have left : wait.nanos = rate.window.nanos - (now - counted.headD now) := rfl
      rw [nanos_longestTold] at long
      rw [nanos_max] at lasting
      unfold Span.nanosPerSecond
      omega

/-- The longest window, and one request in it. Less than a second later the next one cannot be told
how long to wait; from then on it is told the greatest number of seconds that is a word. -/
theorem words_exact_longest_window :
    let rate : RateLimit := { limit := 1, window := .max }
    let run := (start rate false).run [(5, .request "a"), (6, .sweep)]
    rate.window.nanos ≤ Span.max.nanos ∧ InOrder [(5, .request "a"), (6, .sweep)] 1000000003 ∧
      InOrder [(5, .request "a"), (6, .sweep)] 1000000004 ∧
      run.limiter.log.sweep? 1000000004 rate.window = some 0 ∧
      check? rate run.limiter.log 1000000003 "a" = none ∧
      check? rate run.limiter.log 1000000004 "a" =
        some (.limited (Nat.pow 2 64 - 1), run.limiter.log) := by
  intro rate run
  have lasting : rate.window.nanos ≤ Span.max.nanos := le_rfl
  have early : InOrder [(5, .request "a"), (6, .sweep)] 1000000003 := by decide
  have late : InOrder [(5, .request "a"), (6, .sweep)] 1000000004 := by decide
  obtain ⟨-, soon⟩ := words_exact rate false lasting early
  obtain ⟨swept, then'⟩ := words_exact rate false lasting late
  have overflows := (soon "a").1.mpr (by decide)
  obtain ⟨none', exact', -⟩ := then' "a"
  have told : check? rate run.limiter.log 1000000004 "a" ≠ none := fun none =>
    absurd (none'.mp none).2 (by decide)
  obtain ⟨answer, some'⟩ := Option.ne_none_iff_exists'.mp told
  obtain ⟨rfl, -⟩ := exact' answer some'
  have value : check rate run.limiter.log 1000000004 "a" =
      (.limited (Nat.pow 2 64 - 1), run.limiter.log) := by decide
  exact ⟨lasting, early, late, swept, overflows, value ▸ some'⟩

end RunningLimiter

/-- A request whose wait is no word of seconds makes the stage panic. -/
theorem Stage.rateLimit_of_overflow {limiter : Nat} {flow : Flow} {request : Request}
    (rate : RateLimit) (next : Next)
    (overflows : check? (flow.site.limiter limiter).rate (flow.site.limiter limiter).log flow.site.now
      (clientKey request.headers flow.context.remote) = none) :
    ((Stage.rateLimit limiter rate).process request next flow).1 =
      .panicked (.text "attempt to add with overflow") := by
  rw [check?_eq_none_iff] at overflows
  have decided : ∃ site, Site.decide limiter (clientKey request.headers flow.context.remote)
      flow.site = (.done .overflow, site) := ⟨_, Prod.ext (congrArg Ending.done overflows) rfl⟩
  obtain ⟨site, decided⟩ := decided
  have asked : (Stage.rateLimit limiter rate).process request next flow = _ :=
    (Act.bind_done (m := Flow.current) rfl _).trans (Flow.onSite_done decided _)
  rw [asked]
  rfl

/-- A limiter that lets nobody in, with the longest window there is: the seconds that its first
client would have to wait are one more than a word can count. -/
theorem not_always_in_words :
    let rate : RateLimit := { limit := 0, window := .max }
    let request : Request :=
      { method := .get, target := ⟨"/x", none⟩, headers := [], body := "" }
    let flow : Flow :=
      { context := Context.withSignal 0, site := { limiters := [.start rate false] } }
    let next : Next := .endpoint fun _ _ => Act.pure (.ok Response.noContent)
    check? rate [] 0 "unknown" = none ∧
      ((Stage.rateLimit 0 rate).process request next flow).1 =
        .panicked (.text "attempt to add with overflow") := by
  intro rate request flow next
  have overflows : check? rate [] 0 "unknown" = none := by decide
  exact ⟨overflows, Stage.rateLimit_of_overflow rate next overflows⟩

end HttpService

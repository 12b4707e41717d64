import HttpService.Proofs.Limit.Window
import HttpService.Site
import Mathlib.Data.List.Induction

/-!
# Runs of a limiter

Requests, sweeps and looks of the background task come in any order at clock readings that never go
back. Whatever the log has forgotten, it decides as the full history of allowed requests would.
-/

namespace HttpService

/-- What can happen to a limiter. -/
inductive LimiterEvent
  | request (key : String)
  | sweep
  /-- A look of the background task, which sweeps if a sweep is due. -/
  | tick
  deriving DecidableEq, Repr

/-- A request of a client and what was decided on it. -/
structure Ruling where
  time : Nat
  key : String
  decision : Decision
  deriving DecidableEq, Repr

/-- A limiter with all the decisions it has made. -/
structure LimiterRun where
  limiter : RunningLimiter
  rulings : List Ruling := []
  deriving DecidableEq, Repr

namespace RunningLimiter

/-- Decides on a request of a client. -/
def decide (l : RunningLimiter) (now : Nat) (key : String) : Decision × RunningLimiter :=
  let (decision, log) := l.log.check l.rate now key
  (decision, { l with log := log })

/-- A request that passes the stage is decided on by the limiter of that number. -/
theorem site_decide (s : Site) (i : Nat) (key : String) :
    Site.decide i key s = (.done ((s.limiter i).decide s.now key).1,
      s.setLimiter i ((s.limiter i).decide s.now key).2) := rfl

/-- A sweep that is due is one like any other. -/
theorem log_tick_of_due {l : RunningLimiter} {due now : Nat} (waiting : l.sweeping = .due due)
    (passed : due ≤ now) : (l.tick now).2.log = (l.sweep now).2.log := by
  simp [tick, waiting, passed, sweep]

theorem log_tick (l : RunningLimiter) (now : Nat) :
    (l.tick now).2.log = l.log ∨ (l.tick now).2.log = l.log.sweep now l.rate.window := by
  unfold tick
  split
  · exact .inl rfl
  · exact .inl rfl
  · split
    · exact .inr rfl
    · exact .inl rfl

theorem rate_tick (l : RunningLimiter) (now : Nat) : (l.tick now).2.rate = l.rate := by
  unfold tick
  split
  · rfl
  · rfl
  · split <;> rfl

end RunningLimiter

namespace LimiterRun

def step (run : LimiterRun) : Nat × LimiterEvent → LimiterRun
  | (now, .request key) =>
      let (decision, limiter) := run.limiter.decide now key
      ⟨limiter, run.rulings ++ [⟨now, key, decision⟩]⟩
  | (now, .sweep) => { run with limiter := (run.limiter.sweep now).2 }
  | (now, .tick) => { run with limiter := (run.limiter.tick now).2 }

theorem rate_step (run : LimiterRun) (event : Nat × LimiterEvent) :
    (run.step event).limiter.rate = run.limiter.rate := by
  obtain ⟨now, what⟩ := event
  cases what with
  | request key => rfl
  | sweep => rfl
  | tick => exact run.limiter.rate_tick now

end LimiterRun

/-- What a limiter becomes and decides over a list of events, each at its time. -/
def RunningLimiter.run (l : RunningLimiter) (events : List (Nat × LimiterEvent)) : LimiterRun :=
  events.foldl LimiterRun.step { limiter := l }

theorem RunningLimiter.run_snoc (l : RunningLimiter) (events : List (Nat × LimiterEvent))
    (event : Nat × LimiterEvent) : l.run (events ++ [event]) = (l.run events).step event := by
  simp [RunningLimiter.run]

/-- Clock readings that never go back, up to a last one. -/
def InOrder (events : List (Nat × LimiterEvent)) (now : Nat) : Prop :=
  (events.map Prod.fst ++ [now]).Pairwise (· ≤ ·)

instance (events : List (Nat × LimiterEvent)) (now : Nat) : Decidable (InOrder events now) :=
  inferInstanceAs (Decidable (List.Pairwise _ _))

/-- What comes before an event is in order up to its time, and that is not after the last one. -/
theorem InOrder.split {before after : List (Nat × LimiterEvent)} {event : Nat × LimiterEvent}
    {now : Nat} (ordered : InOrder (before ++ event :: after) now) :
    InOrder before event.1 ∧ event.1 ≤ now := by
  unfold InOrder at ordered ⊢
  rw [List.map_append, List.append_assoc, List.map_cons, List.cons_append,
    List.pairwise_append] at ordered
  obtain ⟨earlier, later, between⟩ := ordered
  constructor
  · refine List.pairwise_append.mpr ⟨earlier, List.pairwise_singleton _ _, ?_⟩
    intro t member u same
    rw [List.mem_singleton.mp same]
    exact between t member event.1 List.mem_cons_self
  · exact (List.pairwise_cons.mp later).1 now (by simp)

theorem InOrder.filter {events : List (Nat × LimiterEvent)} {now : Nat}
    (ordered : InOrder events now) (p : Nat × LimiterEvent → Bool) :
    InOrder (events.filter p) now :=
  List.Pairwise.sublist ((List.filter_sublist.map Prod.fst).append_right [now]) ordered

/-- The times of a client's allowed requests, in the order of the decisions. -/
def admitted (key : String) (rulings : List Ruling) : List Nat :=
  (rulings.filter fun r => r.key == key && r.decision.isAllowed).map Ruling.time

theorem admitted_append (key : String) (first second : List Ruling) :
    admitted key (first ++ second) = admitted key first ++ admitted key second := by
  simp only [admitted, List.filter_append, List.map_append]

theorem admitted_snoc (key : String) (rulings : List Ruling) (r : Ruling) :
    admitted key (rulings ++ [r]) = admitted key rulings ++
      if r.key = key ∧ r.decision.isAllowed then [r.time] else [] := by
  rw [admitted_append]
  unfold admitted
  by_cases counts : r.key = key ∧ r.decision.isAllowed
  · simp [counts.1, counts.2]
  · rw [if_neg counts]
    simp only [not_and, Bool.not_eq_true] at counts
    by_cases same : r.key = key
    · simp [same, counts same]
    · simp [same]

theorem admitted_filter (key : String) (rulings : List Ruling) :
    admitted key (rulings.filter (·.key == key)) = admitted key rulings := by
  unfold admitted
  rw [List.filter_filter]
  congr 2
  funext r
  cases r.key == key <;> simp

/-- The allowed requests that a decision at a time has to count. -/
def recentlyAdmitted (rate : RateLimit) (rulings : List Ruling) (now : Nat) (key : String) :
    List Nat :=
  RequestLog.recent rate.window now (admitted key rulings)

end HttpService

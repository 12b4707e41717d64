import HttpService.Telemetry.Collector
import Mathlib.Data.List.DropRight

/-!
# What a collector retains

A collector has one buffer for requests and one for host samples. What is in a buffer is the end of
what has been recorded into it since it was last cleared, as much as there is room for. Nothing that
is recorded into the other buffer changes that.
-/

namespace HttpService.Collector

/-! ## One buffer -/

section

variable {α : Type} {capacity : Nat}

/-- Dropping the oldest items one by one leaves the latest for which there is room. -/
theorem makeRoom_eq_drop (capacity : Nat) (buffer : List α) :
    makeRoom capacity buffer = buffer.drop (buffer.length + 1 - capacity) := by
  induction buffer with
  | nil => simp [makeRoom]
  | cons a rest ih =>
      rw [makeRoom, List.length_cons]
      split
      case isTrue full =>
        rw [ih, Nat.sub_add_comm full, List.drop_succ_cons]
      case isFalse fits =>
        have none : rest.length + 1 + 1 - capacity = 0 := by omega
        rw [none, List.drop_zero]

/-- A buffer that retains the last of some items retains the last of them with one more. -/
theorem pushBounded_rtake (room : 1 ≤ capacity) (all : List α) (a : α) :
    pushBounded capacity (all.rtake capacity) a = (all ++ [a]).rtake capacity := by
  obtain ⟨n, rfl⟩ := Nat.exists_eq_add_of_le' room
  rw [List.rtake_concat_succ, pushBounded, makeRoom_eq_drop, List.rtake, List.drop_drop,
    List.length_drop, List.rtake]
  congr 2
  omega

theorem length_rtake (items : List α) (n : Nat) : (items.rtake n).length = min items.length n := by
  rw [List.rtake, List.length_drop]
  omega

/-- What is done to one buffer. -/
inductive Change (α : Type) where
  | recorded (a : α)
  | cleared

namespace Change

def item? : Change α → Option α
  | recorded a => some a
  | cleared => none

/-- What has been recorded since the last time the buffer was cleared, the oldest first. -/
def sinceCleared (changes : List (Change α)) : List α :=
  (changes.rtakeWhile fun change => change.item?.isSome).filterMap item?

theorem sinceCleared_recorded (changes : List (Change α)) (a : α) :
    sinceCleared (changes ++ [recorded a]) = sinceCleared changes ++ [a] := by
  rw [sinceCleared, List.rtakeWhile_concat_pos _ _ _ rfl, List.filterMap_append]
  rfl

theorem sinceCleared_cleared (changes : List (Change α)) :
    sinceCleared (changes ++ [cleared]) = [] := by
  rw [sinceCleared, List.rtakeWhile_concat_neg _ _ _ Bool.false_ne_true]
  rfl

def apply (capacity : Nat) (buffer : List α) : Change α → List α
  | recorded a => pushBounded capacity buffer a
  | cleared => []

/-- A buffer that starts empty retains the end of what has been recorded since it was cleared. -/
theorem foldl_apply (room : 1 ≤ capacity) (changes : List (Change α)) :
    changes.foldl (apply capacity) [] = (sinceCleared changes).rtake capacity := by
  induction changes using List.reverseRecOn with
  | nil =>
      rw [sinceCleared, List.rtakeWhile_nil, List.filterMap_nil, List.rtake_nil, List.foldl_nil]
  | append_singleton changes change ih =>
      rw [List.foldl_concat, ih]
      cases change with
      | recorded a => rw [apply, pushBounded_rtake room, sinceCleared_recorded]
      | cleared => rw [apply, sinceCleared_cleared, List.rtake_nil]

end Change

end

/-! ## Summaries -/

/-- The counters of a summary are those of these requests. -/
structure Counts (metrics : List HttpMetric) (s : HttpSummary) : Prop where
  requests : s.requests = metrics.length
  serverErrors : s.serverErrors = metrics.countP fun m => 500 ≤ m.status
  clientErrors : s.clientErrors = metrics.countP fun m => 400 ≤ m.status ∧ m.status ≤ 499

namespace Counts

variable {metrics : List HttpMetric} {s : HttpSummary}

theorem count (counts : Counts metrics s) (m : HttpMetric) :
    Counts (metrics ++ [m]) (s.count m) := by
  have server : (s.count m).serverErrors = s.serverErrors + if 500 ≤ m.status then 1 else 0 := by
    rw [HttpSummary.count]
    split_ifs <;> rfl
  have client : (s.count m).clientErrors =
      s.clientErrors + if 400 ≤ m.status ∧ m.status ≤ 499 then 1 else 0 := by
    rw [HttpSummary.count]
    -- A server error is not looked at as a client error.
    split_ifs <;> first | rfl | omega
  refine ⟨?_, ?_, ?_⟩
  · rw [List.length_append, ← counts.requests]
    rfl
  · rw [List.countP_append, List.countP_singleton, ← counts.serverErrors, server]
    simp only [decide_eq_true_eq]
  · rw [List.countP_append, List.countP_singleton, ← counts.clientErrors, client]
    simp only [decide_eq_true_eq]

theorem summarize (metrics : List HttpMetric) : Counts metrics (summarize metrics) := by
  have counted : Counts metrics (metrics.foldl HttpSummary.tally ({}, 0)).1 := by
    induction metrics using List.reverseRecOn with
    | nil => exact ⟨rfl, rfl, rfl⟩
    | append_singleton metrics m ih =>
        rw [List.foldl_concat]
        exact ih.count m
  unfold HttpService.summarize
  dsimp only
  split
  · exact ⟨counted.requests, counted.serverErrors, counted.clientErrors⟩
  · exact counted

end Counts

/-! ## Both buffers -/

/-- What is done to a collector. Clearing takes one buffer after the other, so something else may be
done in between: its halves are events of their own. -/
inductive Event where
  | recordHttp (m : HttpMetric)
  | recordSystem (m : SystemMetric)
  | clear
  | clearHttp
  | clearSystem

namespace Event

def apply (c : Collector) : Event → Collector
  | recordHttp m => c.recordHttp m
  | recordSystem m => c.recordSystem m
  | clear => c.clear
  | clearHttp => c.clearHttp
  | clearSystem => c.clearSystem

/-- What is done to the requests. -/
def http? : Event → Option (Change HttpMetric)
  | recordHttp m => some (.recorded m)
  | clear | clearHttp => some .cleared
  | recordSystem _ | clearSystem => none

/-- What is done to the host samples. -/
def system? : Event → Option (Change SystemMetric)
  | recordSystem m => some (.recorded m)
  | clear | clearSystem => some .cleared
  | recordHttp _ | clearHttp => none

end Event

/-- The collector after some events, the earliest first. -/
def run (c : Collector) (events : List Event) : Collector :=
  events.foldl Event.apply c

/-- The requests recorded since requests were last cleared. -/
def requests (events : List Event) : List HttpMetric :=
  Change.sinceCleared (events.filterMap Event.http?)

/-- The host samples recorded since host samples were last cleared. -/
def samples (events : List Event) : List SystemMetric :=
  Change.sinceCleared (events.filterMap Event.system?)

/-- What does nothing to a buffer may be left out of its changes. -/
theorem changes_filter {β : Type} {change? : Event → Option β} {kept : Event → Bool}
    (idle : ∀ e, kept e = false → change? e = none) (events : List Event) :
    (events.filter kept).filterMap change? = events.filterMap change? := by
  rw [List.filterMap_filter]
  refine List.filterMap_congr fun e _ => ?_
  split
  · rfl
  · next left => exact (idle e (Bool.eq_false_iff.mpr left)).symm

theorem requests_filter (events : List Event) :
    requests (events.filter fun e => !(e matches .recordSystem _)) = requests events := by
  refine congrArg Change.sinceCleared (changes_filter (fun e left => ?_) events)
  cases e with
  | recordSystem m => rfl
  | _ => cases left

theorem samples_filter (events : List Event) :
    samples (events.filter fun e => !(e matches .recordHttp _)) = samples events := by
  refine congrArg Change.sinceCleared (changes_filter (fun e left => ?_) events)
  cases e with
  | recordHttp m => rfl
  | _ => cases left

/-- Each buffer goes through its own changes, and the capacities stay. -/
theorem run_eq (c : Collector) (events : List Event) :
    c.run events = { c with
      http := (events.filterMap Event.http?).foldl (Change.apply c.httpCapacity) c.http
      system :=
        (events.filterMap Event.system?).foldl (Change.apply c.systemCapacity) c.system } := by
  induction events generalizing c with
  | nil => rfl
  | cons event events ih =>
      rw [run, List.foldl_cons, ← run, ih]
      cases event <;> rfl

theorem httpMetrics_run (http system : Nat) (events : List Event) :
    ((withCapacity http system).run events).httpMetrics =
      (requests events).rtake (min (max http 1) 1000) := by
  have room : 1 ≤ min (max http 1) 1000 := by omega
  rw [run_eq]
  exact Change.foldl_apply room _

theorem systemMetrics_run (http system : Nat) (events : List Event) :
    ((withCapacity http system).run events).systemMetrics =
      (samples events).rtake (min (max system 1) 100) := by
  have room : 1 ≤ min (max system 1) 100 := by omega
  rw [run_eq]
  exact Change.foldl_apply room _

/-- What a collector with room for so many requests and so many host samples gives to its readers
after some events. -/
structure Retains (http system : Nat) (events : List Event) (c : Collector) : Prop where
  requests : c.httpMetrics = (requests events).rtake http
  requests_length : c.httpMetrics.length = min (Collector.requests events).length http
  samples : c.systemMetrics = (samples events).rtake system
  samples_length : c.systemMetrics.length = min (Collector.samples events).length system
  counts : Counts c.httpMetrics c.summary
  summary : c.summary = HttpService.summarize c.httpMetrics

/-- Whatever has been recorded and cleared in whatever order, readers get the end of what has been
recorded since, as it would be without the recordings into the other buffer, and the summary counts
the requests that they get. -/
theorem history_exact (http system : Nat) (events : List Event) :
    let start := withCapacity http system
    Retains (min (max http 1) 1000) (min (max system 1) 100) events (start.run events) ∧
      (start.run (events.filter fun e => !(e matches .recordSystem _))).httpMetrics =
        (start.run events).httpMetrics ∧
      (start.run (events.filter fun e => !(e matches .recordHttp _))).systemMetrics =
        (start.run events).systemMetrics := by
  intro start
  have requested := httpMetrics_run http system events
  have sampled := systemMetrics_run http system events
  refine ⟨⟨requested, ?_, sampled, ?_, .summarize _, rfl⟩, ?_, ?_⟩
  · rw [requested, length_rtake]
  · rw [sampled, length_rtake]
  · rw [requested, httpMetrics_run, requests_filter]
  · rw [sampled, systemMetrics_run, samples_filter]

/-- One request at a time is retained at least, and clearing the samples leaves it alone. -/
example (first second : HttpMetric) (sample : SystemMetric) :
    ((withCapacity 0 5).run [.recordHttp first, .recordSystem sample, .recordHttp second,
      .clearSystem]).httpMetrics = [second] :=
  rfl

end HttpService.Collector

import HttpService.Limit.Limiter
import HttpService.Proofs.Table

/-!
# The sliding window

A limiter remembers, for each client, the times of the allowed requests that may still count. On
times in ascending order, forgetting the old ones from the front keeps exactly the recent ones, and
what was forgotten would not count at any later time either.
-/

namespace HttpService

/-- Whether a request was let through. -/
def Decision.isAllowed : Decision → Bool
  | .allowed _ => true
  | _ => false

namespace RequestLog

/-- The remembered times of a client. -/
def times (log : RequestLog) (key : String) : List Nat :=
  (log.find? key).getD []

/-- The times since which less than a window has passed. -/
def recent (window : Span) (now : Nat) (times : List Nat) : List Nat :=
  times.filter fun t => now - t < window.nanos

theorem recent_append (window : Span) (now : Nat) (first second : List Nat) :
    recent window now (first ++ second) = recent window now first ++ recent window now second :=
  List.filter_append ..

/-- A time that is recent later on is recent now. -/
theorem recent_recent (window : Span) {now later : Nat} (passed : now ≤ later)
    (times : List Nat) :
    recent window later (recent window now times) = recent window later times := by
  unfold recent
  rw [List.filter_filter]
  apply List.filter_congr
  intro t _
  by_cases soon : later - t < window.nanos
  · have sooner : now - t < window.nanos := by omega
    simp [soon, sooner]
  · simp [soon]

theorem prune_eq_recent {times : List Nat} (sorted : times.Pairwise (· ≤ ·)) (now : Nat)
    (window : Span) : prune times now window = recent window now times := by
  induction times with
  | nil => rfl
  | cons oldest rest ih =>
      obtain ⟨least, tail⟩ := List.pairwise_cons.mp sorted
      by_cases old : window.nanos ≤ now - oldest
      · have dropped : prune (oldest :: rest) now window = prune rest now window := by
          simp [prune, old]
        have skipped : recent window now (oldest :: rest) = recent window now rest := by
          simp [recent, old]
        rw [dropped, ih tail, skipped]
      · -- Nothing is dropped: every later time is at least as recent as the oldest one.
        have kept : prune (oldest :: rest) now window = oldest :: rest := by
          simp [prune, old]
        have all : recent window now (oldest :: rest) = oldest :: rest := by
          apply List.filter_eq_self.mpr
          intro t member
          have notEarlier : oldest ≤ t := by
            rcases List.mem_cons.mp member with same | inside
            · exact same ▸ Nat.le_refl _
            · exact least t inside
          simp only [decide_eq_true_eq]
          omega
        rw [kept, all]

/-! ## What one operation does to the log -/

/-- What is decided on a request, given the times that count. -/
def verdict (r : RateLimit) (now : Nat) (counted : List Nat) : Decision :=
  if r.limit ≤ counted.length then refuse ⟨r.window.nanos - (now - counted.headD now)⟩
  else .allowed (r.limit - (counted.length + 1))

theorem isAllowed_verdict (r : RateLimit) (now : Nat) (counted : List Nat) :
    (verdict r now counted).isAllowed = decide (counted.length < r.limit) := by
  unfold verdict
  split
  · next full =>
      have refused : ∀ wait, (refuse wait).isAllowed = false := by
        intro wait
        unfold refuse
        split <;> rfl
      simp [refused, Nat.not_lt.mpr full]
  · next room => simp [Decision.isAllowed, Nat.lt_of_not_le room]

theorem verdict_eq_allowed {r : RateLimit} {now remaining : Nat} {counted : List Nat}
    (allowed : verdict r now counted = .allowed remaining) :
    remaining + counted.length + 1 = r.limit := by
  unfold verdict at allowed
  split at allowed
  · unfold refuse at allowed
    split at allowed <;> cases allowed
  · cases allowed
    omega

theorem check_decision (r : RateLimit) (log : RequestLog) (now : Nat) (key : String) :
    (check r log now key).1 = verdict r now (prune (log.times key) now r.window) := by
  unfold check verdict times
  dsimp only
  split
  · cases prune ((log.find? key).getD []) now r.window <;> simp
  · simp

theorem times_insert (log : RequestLog) (key other : String) (ts : List Nat) :
    times (log.insert key ts) other = if key = other then ts else log.times other := by
  unfold times
  rw [Table.find?_insert]
  split <;> rfl

/-- A request drops old times of its own client, and adds its own time if it is allowed. -/
theorem check_log (r : RateLimit) (log : RequestLog) (now : Nat) (key : String) :
    (check r log now key).2 = log.insert key (prune (log.times key) now r.window ++
      if (check r log now key).1.isAllowed then [now] else []) := by
  rw [check_decision, isAllowed_verdict]
  unfold check times
  dsimp only
  split
  · next full => simp [Nat.not_lt.mpr full]
  · next room => simp [Nat.lt_of_not_le room]

/-- The times that are left of a client's, if any are. -/
def leftOver (now : Nat) (window : Span) (times : List Nat) : Option (List Nat) :=
  if (prune times now window).isEmpty then none else some (prune times now window)

theorem sweep_eq_filterMap (log : RequestLog) (now : Nat) (window : Span) :
    sweep log now window =
      log.filterMap fun entry => (leftOver now window entry.2).map fun ts => (entry.1, ts) := by
  induction log with
  | nil => rfl
  | cons entry rest ih =>
      obtain ⟨key, ts⟩ := entry
      cases empty : (prune ts now window).isEmpty with
      | true =>
          have gone : leftOver now window ts = none := by simp only [leftOver, empty, if_true]
          rw [List.filterMap_cons_none (by rw [gone]; rfl), ← ih]
          simp [sweep, empty]
      | false =>
          have left : leftOver now window ts = some (prune ts now window) := by
            simp only [leftOver, empty, Bool.false_eq_true, if_false]
          rw [List.filterMap_cons_some (by rw [left]; rfl), ← ih]
          simp [sweep, empty]

theorem find?_sweep {log : RequestLog} (ascending : log.Ascending) (now : Nat) (window : Span)
    (key : String) :
    (sweep log now window).find? key = (log.find? key).bind (leftOver now window) := by
  rw [sweep_eq_filterMap]
  exact Table.find?_filterMap_values ascending.nodup _ _

/-- A sweep drops the old times of every client. -/
theorem times_sweep {log : RequestLog} (ascending : log.Ascending) (now : Nat) (window : Span)
    (key : String) : times (sweep log now window) key = prune (log.times key) now window := by
  unfold times
  rw [find?_sweep ascending]
  cases log.find? key with
  | none => rfl
  | some ts =>
      by_cases empty : prune ts now window = []
      · simp [leftOver, empty]
      · simp [leftOver, empty]

theorem mem_keys_sweep {log : RequestLog} (ascending : log.Ascending) (now : Nat) (window : Span)
    (key : String) :
    key ∈ (sweep log now window).keys ↔ prune (log.times key) now window ≠ [] := by
  rw [Table.mem_keys_iff_isSome, find?_sweep ascending]
  unfold times
  cases log.find? key with
  | none => simp [prune]
  | some ts =>
      by_cases empty : prune ts now window = []
      · simp [leftOver, empty]
      · simp [leftOver, empty]

theorem ascending_sweep {log : RequestLog} (ascending : log.Ascending) (now : Nat)
    (window : Span) : (sweep log now window).Ascending := by
  have mapped : Table.keys (log.map fun e => (e.1, prune e.2 now window)) = log.keys := by
    simp [Table.keys, Function.comp_def]
  have sub : ((sweep log now window).keys).Sublist log.keys := by
    rw [← mapped]
    exact List.filter_sublist.map Prod.fst
  exact List.Pairwise.sublist sub ascending

end RequestLog

end HttpService

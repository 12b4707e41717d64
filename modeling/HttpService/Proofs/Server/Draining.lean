import HttpService.Proofs.Concat
import HttpService.Proofs.Signal.Caller
import HttpService.Server.Shutdown
import Mathlib.Data.List.Induction

/-!
# Waiting for the last connection

Connections open, and their guards are dropped in two steps, with anything in between: the connection
is counted out, and if it was the last one a notice is given. Any number of waiters take their own
steps meanwhile.
-/

namespace HttpService

/-- How far a connection's guard has got. -/
inductive ConnectionStage
  | live
  /-- Has counted out the last connection and is to give notice. -/
  | owing
  | gone
  deriving DecidableEq, Repr

/-- A tracker with the guards that it has given out and those who wait for it. -/
structure Draining where
  tracker : ConnectionTracker := {}
  guards : List ConnectionStage := []
  waiters : List Waiter := []
  deriving DecidableEq, Repr

inductive DrainMove
  | acquire
  /-- The next step of the drop of a guard. -/
  | drop (i : Nat)
  | wait
  /-- The next step of a waiter. -/
  | turn (i : Nat)
  deriving DecidableEq, Repr

namespace Draining

def drop (d : Draining) (i : Nat) : Draining :=
  match d.guards[i]? with
  | some .live =>
      { d with
        tracker := d.tracker.decrement.1
        guards := d.guards.set i (if d.tracker.decrement.2 then .owing else .gone) }
  | some .owing => { d with tracker := d.tracker.notify, guards := d.guards.set i .gone }
  | _ => d

def move (d : Draining) : DrainMove → Draining
  | .acquire => { d with tracker := d.tracker.acquire, guards := d.guards ++ [.live] }
  | .drop i => d.drop i
  | .wait => { d with waiters := d.waiters ++ [.fresh] }
  | .turn i =>
      { d with waiters := d.waiters.modify i (Waiter.step d.tracker.drained d.tracker.notices) }

def after (moves : List DrainMove) : Draining :=
  moves.foldl move {}

/-- How many connections are live. -/
def live (d : Draining) : Nat :=
  d.guards.countP (· = .live)

/-- How many notices are still to be given. -/
def owing (d : Draining) : Nat :=
  d.guards.countP (· = .owing)

variable {d : Draining} {moves : List DrainMove} {i : Nat}

theorem after_concat (moves : List DrainMove) (m : DrainMove) :
    after (moves ++ [m]) = (after moves).move m := by
  rw [after, List.foldl_append]
  rfl

/-- With nothing in between, the two steps of a drop are one. -/
theorem drop_drop (here : d.guards[i]? = some .live) :
    ((d.drop i).drop i).tracker = d.tracker.release := by
  obtain ⟨inside, -⟩ := List.getElem?_eq_some_iff.mp here
  have first : d.drop i = { d with
      tracker := d.tracker.decrement.1
      guards := d.guards.set i (if d.tracker.decrement.2 then .owing else .gone) } := by
    simp only [drop, here]
  rw [first]
  cases counted : d.tracker.decrement with
  | mk t last => cases last <;> simp [drop, ConnectionTracker.release, inside, counted]

/-! ## The invariant -/

/-- The tracker counts the live connections, and nobody who sleeps is forgotten. -/
structure Sound (d : Draining) : Prop where
  active : d.tracker.active = d.live
  attended : ∀ (i : Nat) (w : Waiter), d.waiters[i]? = some w →
    w.Attended d.tracker.drained d.tracker.notices d.owing

theorem drained_iff (t : ConnectionTracker) : t.drained = true ↔ t.active = 0 :=
  decide_eq_true_iff

/-- What is done to the tracker keeps everybody attended if it gives a notice, leaves connections
open or leaves a notice owed. -/
theorem Sound.others {d' : Draining} (sound : Sound d) (waiters : d'.waiters = d.waiters)
    (active : d'.tracker.active = d'.live)
    (later : d.tracker.notices ≤ d'.tracker.notices)
    (told : d'.tracker.active = 0 → d.tracker.notices < d'.tracker.notices ∨ 0 < d'.owing) :
    Sound d' := by
  refine ⟨active, fun i w here => ?_⟩
  rw [waiters] at here
  refine (sound.attended i w here).shift later fun drained => ?_
  exact (told ((drained_iff _).mp drained)).imp_right .inl

theorem Sound.acquire (sound : Sound d) : Sound (d.move .acquire) := by
  refine sound.others rfl ?_ (Nat.le_refl _) fun none => absurd none (Nat.succ_ne_zero _)
  change d.tracker.active + 1 = _
  simp [sound.active, live, move]

theorem Sound.drop (sound : Sound d) (i : Nat) : Sound (d.drop i) := by
  unfold Draining.drop
  split
  · next here =>
      let stage : ConnectionStage := if d.tracker.decrement.2 then .owing else .gone
      have closed : stage ≠ .live := by
        unfold stage
        split <;> decide
      have counts : (d.guards.set i stage).countP (· = .live) + 1 = d.tracker.active := by
        rw [sound.active, live]
        simpa [closed] using countP_set_add (· = .live) here stage
      refine sound.others rfl ?_ (Nat.le_refl _) fun none => .inr ?_
      · change d.tracker.active - 1 = (d.guards.set i stage).countP (· = .live)
        omega
      · -- If none is left this was the last one, so a notice is owed.
        have last : d.tracker.decrement.2 = true := by
          change d.tracker.active - 1 = 0 at none
          exact decide_eq_true (by omega)
        refine List.countP_pos_iff.mpr ⟨.owing, ?_, rfl⟩
        rw [last, if_pos rfl]
        exact List.mem_set (List.getElem?_eq_some_iff.mp here).1 _
  · next here =>
      have counts := countP_set_add (· = .live) here .gone
      refine sound.others rfl ?_ (Nat.le_succ _) fun _ => .inl (Nat.lt_succ_self _)
      exact sound.active.trans counts.symm
  · exact sound

theorem Sound.concat (sound : Sound d) (m : DrainMove) : Sound (d.move m) := by
  cases m with
  | acquire => exact sound.acquire
  | drop i => exact sound.drop i
  | wait =>
      refine ⟨sound.active, fun i w here => ?_⟩
      obtain old | ⟨-, rfl⟩ := getElem?_concat_cases here
      · exact sound.attended i w old
      · trivial
  | turn j =>
      refine ⟨sound.active, fun i w here => ?_⟩
      obtain old | ⟨-, w, old, rfl⟩ := getElem?_modify_cases here
      · exact sound.attended i w old
      · exact (sound.attended i w old).step

theorem sound_after (moves : List DrainMove) : Sound (after moves) := by
  induction moves using List.reverseRecOn with
  | nil => exact ⟨rfl, fun i w here => by simp [after] at here⟩
  | append_singleton moves m ih =>
      rw [after_concat]
      exact ih.concat m

/-! ## How a waiter gets done -/

theorem done_of_move (d : Draining) (m : DrainMove)
    (finished : (d.move m).waiters[i]? = some .done) :
    d.waiters[i]? = some .done ∨
      m = .turn i ∧ (∃ seen, d.waiters[i]? = some (.listening seen)) ∧ d.tracker.drained = true := by
  cases m with
  | acquire => exact .inl finished
  | drop j =>
      refine .inl ?_
      have same : (d.drop j).waiters = d.waiters := by
        unfold drop
        split <;> rfl
      exact same ▸ finished
  | wait =>
      obtain old | ⟨-, fresh⟩ := getElem?_concat_cases finished
      · exact .inl old
      · cases fresh
  | turn j =>
      obtain old | ⟨rfl, w, here, step⟩ := getElem?_modify_cases finished
      · exact .inl old
      · obtain rfl | ⟨seen, rfl, drained⟩ := Waiter.step_eq_done.mp step
        · exact .inl here
        · exact .inr ⟨rfl, ⟨seen, here⟩, drained⟩

/-- A waiter that is done has looked when no connection was live. -/
theorem seen_of_done (finished : (after moves).waiters[i]? = some .done) :
    ∃ before rest seen, moves = before ++ .turn i :: rest ∧
      (after before).waiters[i]? = some (.listening seen) ∧ .live ∉ (after before).guards := by
  obtain ⟨before, m, rest, rfl, rfl, ⟨seen, here⟩, drained⟩ := split_of_cause (by simp [after])
    (fun before m now => (after before).done_of_move m (after_concat before m ▸ now)) finished
  refine ⟨before, rest, seen, rfl, here, fun live => ?_⟩
  have none := (sound_after before).active.symm.trans ((drained_iff _).mp drained)
  have all := List.countP_eq_zero.mp none _ live
  simp at all

/-- What those who wait for the last connection can rely on after some moves. -/
structure Wakes (moves : List DrainMove) (d : Draining) : Prop where
  active : d.tracker.active = d.live
  /-- Whoever sleeps has been given a notice, when no connection is live and no notice is owed. -/
  told : d.tracker.active = 0 → .owing ∉ d.guards → ∀ seen, .parked seen ∈ d.waiters →
    seen < d.tracker.notices
  wakes : d.tracker.active = 0 → .owing ∉ d.guards → ∀ w ∈ d.waiters, d.tracker.settle w = .done
  /-- Whoever is done has looked when no connection was live. -/
  seen : ∀ i, d.waiters[i]? = some .done → ∃ before rest seen,
    moves = before ++ .turn i :: rest ∧
      (after before).waiters[i]? = some (.listening seen) ∧ .live ∉ (after before).guards

theorem wakes_after (moves : List DrainMove) : Wakes moves (after moves) := by
  have sound := sound_after moves
  have attended (none : (after moves).tracker.active = 0) (settled : .owing ∉ (after moves).guards)
      (w : Waiter) (member : w ∈ (after moves).waiters) :
      w.Attended true (after moves).tracker.notices 0 := by
    obtain ⟨i, here⟩ := List.getElem?_of_mem member
    have owing : (after moves).owing = 0 :=
      List.countP_eq_zero.mpr fun stage member owes => settled (of_decide_eq_true owes ▸ member)
    exact (drained_iff _).mpr none ▸ owing ▸ sound.attended i w here
  refine ⟨sound.active, fun none settled seen member => ?_, fun none settled w member => ?_,
    fun i finished => seen_of_done finished⟩
  · exact (attended none settled _ member).told
  · rw [ConnectionTracker.settle, (drained_iff _).mpr none]
    exact (attended none settled w member).settle

end Draining

namespace Waiter

/-- No wake-up is lost, whoever takes which step when: once no connection is live, or a signal is
cancelled, and nobody is halfway between that and the notice, all who sleep have been given one. Who
is done has seen what it waited for. -/
theorem no_wakeup_lost (drains : List DrainMove) (cancels : List CancelMove) :
    Draining.Wakes drains (Draining.after drains) ∧
      Cancelling.Wakes cancels (Cancelling.after cancels) :=
  ⟨Draining.wakes_after drains, Cancelling.wakes_after cancels⟩

/-- A waiter sleeps while the last connection is counted out, and a new one opens before the notice.
When that is gone too the waiter gets done with the notice of either. -/
example :
    let asleep : List DrainMove := [.acquire, .wait, .turn 0, .turn 0, .turn 0, .drop 0, .acquire]
    (Draining.after asleep).waiters = [.parked 0] ∧
      (Draining.after (asleep ++ [.drop 0, .drop 1])).guards = [.gone, .owing] ∧
      (Draining.after (asleep ++ [.drop 0, .drop 1, .turn 0, .turn 0, .turn 0])).waiters =
        [.done] := by
  decide

end Waiter

end HttpService

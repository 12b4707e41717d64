import HttpService.Proofs.Concat
import HttpService.Proofs.Signal.Derivation
import HttpService.Proofs.Signal.Waiting
import Mathlib.Data.List.Induction

/-!
# Cancelling with others in between

A cancellation is made of small tasks: the mark on a signal, the notice to those who wait for it, the
children that are taken from it, and for each child the attempt to get hold of it and to go on there.
Any number of callers do their tasks in any order between them, and others wait, derive signals and
let go of them meanwhile. A caller that is alone does what `Signals.cancel` does at once.
-/

namespace HttpService

namespace Signals

/-- The mark on a signal, without what follows from it. -/
def raise (f : Signals) (id : Nat) : Signals :=
  f.setNode id { f.node id with cancelled := true }

/-- Takes the children from a signal. -/
def disown (f : Signals) (id : Nat) : Signals :=
  f.setNode id { f.node id with children := [] }

end Signals

/-- What a caller that cancels a signal, or derives one, still has to do. -/
inductive CancelTask
  /-- Takes hold of a signal to cancel it, if it is alive. -/
  | reach (id : Nat)
  /-- Marks a signal, unless somebody else has. -/
  | mark (id : Nat)
  | notify (id : Nat)
  /-- Takes the children, to go on with each of them. -/
  | spread (id : Nat)
  | release (id : Nat)
  /-- Looks at the parent of a signal that has just been derived. -/
  | inherit (parent id : Nat)
  deriving DecidableEq, Repr

/-- What a task makes of the signals, the notices that it gives, and the tasks that it adds. -/
def CancelTask.perform (f : Signals) : CancelTask → Signals × List Nat × List CancelTask
  | .reach id => if f.isAlive id then (f.hold id, [], [.mark id, .release id]) else (f, [], [])
  | .mark id => if f.isCancelled id then (f, [], []) else (f.raise id, [], [.notify id, .spread id])
  | .notify id => (f, [id], [])
  | .spread id => (f.disown id, [], (f.node id).children.map .reach)
  | .release id => (f.release id, [], [])
  | .inherit p id => (f, [], if f.isCancelled p then [.reach id] else [])

/-- Signals with those who are busy with them and those who wait for them. -/
structure Cancelling where
  signals : Signals := {}
  /-- Every notice, by the signal for whose waiters it was. -/
  notified : List Nat := []
  callers : List (List CancelTask) := []
  waiters : List (Nat × Waiter) := []
  deriving DecidableEq, Repr

inductive CancelMove
  | create
  | child (p : Nat)
  | hold (id : Nat)
  | release (id : Nat)
  | cancel (id : Nat)
  /-- The next task of a caller. -/
  | go (i : Nat)
  | wait (id : Nat)
  /-- The next step of a waiter. -/
  | turn (i : Nat)
  deriving DecidableEq, Repr

namespace Cancelling

def go (c : Cancelling) (i : Nat) : Cancelling :=
  match c.callers[i]? with
  | some (task :: rest) =>
      { c with
        signals := (task.perform c.signals).1
        notified := (task.perform c.signals).2.1 ++ c.notified
        callers := c.callers.set i ((task.perform c.signals).2.2 ++ rest) }
  | _ => c

/-- One step of a waiter, which looks at its own signal. -/
def look (c : Cancelling) : Nat × Waiter → Nat × Waiter
  | (x, w) => (x, w.step (c.signals.isCancelled x) (c.notified.count x))

def move (c : Cancelling) : CancelMove → Cancelling
  | .create => { c with signals := c.signals.create.1 }
  | .child p =>
      { c with
        signals := c.signals.attach p
        callers := c.callers ++ [[.inherit p c.signals.nodes.length]] }
  | .hold id => { c with signals := c.signals.hold id }
  | .release id => { c with signals := c.signals.release id }
  | .cancel id => { c with callers := c.callers ++ [[.reach id]] }
  | .go i => c.go i
  | .wait id => { c with waiters := c.waiters ++ [(id, .fresh)] }
  | .turn i => { c with waiters := c.waiters.modify i c.look }

def after (moves : List CancelMove) : Cancelling :=
  moves.foldl move {}

/-- How many notices are still to be given to those who wait for a signal. -/
def owed (c : Cancelling) (x : Nat) : Nat :=
  c.callers.flatten.count (.notify x)

theorem after_concat (moves : List CancelMove) (m : CancelMove) :
    after (moves ++ [m]) = (after moves).move m := by
  rw [after, List.foldl_append]
  rfl

end Cancelling

/-! ## What changes in the marks -/

namespace Signals

variable {f : Signals} {id : Nat}

theorem isCancelled_setNode (f : Signals) (id : Nat) (n : SignalNode)
    (same : n.cancelled = f.isCancelled id) (i : Nat) :
    (f.setNode id n).isCancelled i = f.isCancelled i := by
  unfold isCancelled
  rw [node_setNode]
  split
  · next here => rw [here.1, same, isCancelled]
  · rfl

@[simp]
theorem isCancelled_hold (f : Signals) (id i : Nat) : (f.hold id).isCancelled i = f.isCancelled i :=
  isCancelled_setNode f id _ (by rfl) i

@[simp]
theorem isCancelled_release (f : Signals) (id i : Nat) :
    (f.release id).isCancelled i = f.isCancelled i :=
  isCancelled_setNode f id _ (by rfl) i

@[simp]
theorem isCancelled_disown (f : Signals) (id i : Nat) :
    (f.disown id).isCancelled i = f.isCancelled i :=
  isCancelled_setNode f id _ (by rfl) i

theorem isCancelled_raise (within : id < f.nodes.length) (i : Nat) :
    (f.raise id).isCancelled i = (decide (i = id) || f.isCancelled i) := by
  unfold raise isCancelled
  rw [node_setNode]
  by_cases same : i = id <;> simp [same, within]

end Signals

namespace CancelTask

variable {f : Signals} {task : CancelTask}

theorem length_perform (f : Signals) (task : CancelTask) :
    (task.perform f).1.nodes.length = f.nodes.length := by
  cases task with
  | reach id => by_cases alive : f.isAlive id <;> simp [perform, alive, Signals.hold]
  | mark id => by_cases open' : f.isCancelled id <;> simp [perform, open', Signals.raise]
  | notify | inherit => rfl
  | spread id => exact Signals.length_setNode ..
  | release id => exact Signals.length_setNode ..

/-- Whoever is about to mark a signal has got hold of it. -/
theorem within_of_mark {x : Nat} (next : .mark x ∈ (task.perform f).2.2) : x < f.nodes.length := by
  cases task with
  | reach id =>
      by_cases alive : f.isAlive id <;> simp [perform, alive] at next
      exact next ▸ Signals.lt_of_isAlive alive
  | mark id => by_cases open' : f.isCancelled id <;> simp [perform, open'] at next
  | notify | release => cases next
  | spread id => simp [perform] at next
  | inherit p id => by_cases cancelled : f.isCancelled p <;> simp [perform, cancelled] at next

/-- A mark makes one notice due, and a notice settles it. -/
theorem balance (within : ∀ id, task = .mark id → id < f.nodes.length) (x : Nat) :
    (task.perform f).2.1.count x + (task.perform f).2.2.count (.notify x) +
        (f.isCancelled x).toNat =
      [task].count (.notify x) + ((task.perform f).1.isCancelled x).toNat := by
  cases task with
  | reach id =>
      by_cases alive : f.isAlive id <;> simp [perform, alive]
  | mark id =>
      by_cases marked : f.isCancelled id
      · simp [perform, marked]
      · have raised := Signals.isCancelled_raise (within id rfl) x
        by_cases same : id = x
        · subst same
          simp [perform, marked, raised]
        · simp [perform, marked, raised, same, Ne.symm same]
  | notify id => simp [perform, List.count_singleton]
  | spread id =>
      have none : ((f.node id).children.map reach).count (.notify x) = 0 :=
        List.count_eq_zero.mpr (by simp)
      simp [perform, none]
  | release id => simp [perform]
  | inherit p id => by_cases cancelled : f.isCancelled p <;> simp [perform, cancelled]

end CancelTask

namespace Cancelling

variable {c c' : Cancelling} {moves : List CancelMove} {i x : Nat}

/-! ## The invariant -/

/-- A signal that is cancelled has had its one notice, or somebody is about to give it, and nobody
who sleeps is forgotten. -/
structure Sound (c : Cancelling) : Prop where
  within : ∀ tasks ∈ c.callers, ∀ id, .mark id ∈ tasks → id < c.signals.nodes.length
  once : ∀ x, c.notified.count x + c.owed x = (c.signals.isCancelled x).toNat
  attended : ∀ (i x : Nat) (w : Waiter), c.waiters[i]? = some (x, w) →
    w.Attended (c.signals.isCancelled x) (c.notified.count x) (c.owed x)

namespace Sound

/-- As long as marks and notices stay in balance, nobody who sleeps gets forgotten. -/
theorem others (sound : Sound c) (waiters : c'.waiters = c.waiters)
    (within : ∀ tasks ∈ c'.callers, ∀ id, .mark id ∈ tasks → id < c'.signals.nodes.length)
    (once : ∀ x, c'.notified.count x + c'.owed x = (c'.signals.isCancelled x).toNat)
    (later : ∀ x, c.notified.count x ≤ c'.notified.count x) : Sound c' := by
  refine ⟨within, once, fun i x w here => ?_⟩
  rw [waiters] at here
  refine (sound.attended i x w here).shift (later x) fun cancelled => ?_
  have before := sound.once x
  have now := once x
  rw [cancelled, Bool.toNat_true] at now
  cases already : c.signals.isCancelled x with
  | false =>
      rw [already, Bool.toNat_false] at before
      omega
  | true =>
      rw [already, Bool.toNat_true] at before
      by_cases owes : 0 < c'.owed x
      · exact .inr (.inl owes)
      · by_cases given : 0 < c.notified.count x
        · exact .inr (.inr ⟨rfl, fun owed => by omega⟩)
        · exact .inl (by omega)

/-- What gives no notice, marks nothing and starts nobody off but one who has nothing to mark yet. -/
theorem keeps (sound : Sound c) (waiters : c'.waiters = c.waiters)
    (notified : c'.notified = c.notified)
    (size : c.signals.nodes.length ≤ c'.signals.nodes.length)
    (marks : ∀ x, c'.signals.isCancelled x = c.signals.isCancelled x) (more : List (List CancelTask))
    (callers : c'.callers = c.callers ++ more)
    (idle : ∀ id, .mark id ∉ more.flatten ∧ .notify id ∉ more.flatten) : Sound c' := by
  refine sound.others waiters (fun tasks member id next => ?_) (fun x => ?_) fun x => ?_
  · rw [callers, List.mem_append] at member
    obtain old | new := member
    · exact Nat.lt_of_lt_of_le (sound.within tasks old id next) size
    · exact absurd (List.mem_flatten.mpr ⟨tasks, new, next⟩) (idle id).1
  · have none : more.flatten.count (.notify x) = 0 := List.count_eq_zero.mpr (idle x).2
    have owed : c'.owed x = c.owed x := by
      rw [Cancelling.owed, callers, List.flatten_append, List.count_append, none]
      rfl
    rw [owed, notified, marks]
    exact sound.once x
  · exact Nat.le_of_eq (by rw [notified])

theorem go (sound : Sound c) (i : Nat) : Sound (c.go i) := by
  unfold Cancelling.go
  split
  · next task rest here =>
      have member : task :: rest ∈ c.callers := List.mem_of_getElem? here
      have within := sound.within _ member
      have inside : ∀ id, task = .mark id → id < c.signals.nodes.length :=
        fun id same => within id (same ▸ List.mem_cons_self ..)
      refine sound.others rfl (fun tasks changed id next => ?_) (fun x => ?_) fun x => ?_
      · rw [CancelTask.length_perform]
        obtain old | rfl := List.mem_or_eq_of_mem_set changed
        · exact sound.within tasks old id next
        · obtain new | old := List.mem_append.mp next
          · exact CancelTask.within_of_mark new
          · exact within id (List.mem_cons_of_mem _ old)
      · -- The caller's list has lost its first task and has gained what that has added.
        have counts := count_flatten_set here ((task.perform c.signals).2.2 ++ rest) (.notify x)
        have once : c.notified.count x + c.callers.flatten.count (.notify x) = _ := sound.once x
        have balanced := CancelTask.balance inside x
        rw [List.count_append, ← List.singleton_append, List.count_append] at counts
        change ((task.perform c.signals).2.1 ++ c.notified).count x +
          (c.callers.set i ((task.perform c.signals).2.2 ++ rest)).flatten.count (.notify x) =
            ((task.perform c.signals).1.isCancelled x).toNat
        rw [List.count_append]
        omega
      · change c.notified.count x ≤ ((task.perform c.signals).2.1 ++ c.notified).count x
        rw [List.count_append]
        exact Nat.le_add_left ..
  · exact sound

theorem concat (sound : Sound c) (m : CancelMove) : Sound (c.move m) := by
  cases m with
  | create =>
      refine sound.keeps rfl rfl ?_ (Signals.isCancelled_create c.signals) []
        (List.append_nil _).symm (by simp)
      simp [move, Signals.create]
  | child p =>
      refine sound.keeps rfl rfl ?_ (fun x => ?_) _ rfl (by simp)
      · exact (Signals.length_attach c.signals p).symm ▸ Nat.le_succ _
      · exact (Signals.isCancelled_setNode _ _ _ (by rfl) x).trans
          (Signals.isCancelled_create c.signals x)
  | hold id =>
      exact sound.keeps rfl rfl (Nat.le_of_eq (Signals.length_setNode ..).symm)
        (Signals.isCancelled_hold c.signals id) [] (List.append_nil _).symm (by simp)
  | release id =>
      exact sound.keeps rfl rfl (Nat.le_of_eq (Signals.length_setNode ..).symm)
        (Signals.isCancelled_release c.signals id) [] (List.append_nil _).symm (by simp)
  | cancel id => exact sound.keeps rfl rfl (Nat.le_refl _) (fun _ => rfl) _ rfl (by simp)
  | go i => exact sound.go i
  | wait id =>
      refine ⟨sound.within, sound.once, fun i x w here => ?_⟩
      obtain old | ⟨-, new⟩ := getElem?_concat_cases here
      · exact sound.attended i x w old
      · cases new
        trivial
  | turn j =>
      refine ⟨sound.within, sound.once, fun i x w here => ?_⟩
      obtain old | ⟨-, ⟨y, w⟩, old, step⟩ := getElem?_modify_cases here
      · exact sound.attended i x w old
      · obtain ⟨rfl, rfl⟩ := Prod.mk.inj step
        exact (sound.attended i _ w old).step

end Sound

theorem sound_after (moves : List CancelMove) : Sound (after moves) := by
  induction moves using List.reverseRecOn with
  | nil =>
      exact ⟨fun tasks member => by simp [after] at member, fun x => rfl,
        fun i x w here => by simp [after] at here⟩
  | append_singleton moves m ih =>
      rw [after_concat]
      exact ih.concat m

/-! ## How a waiter gets done -/

theorem waiters_go (c : Cancelling) (i : Nat) : (c.go i).waiters = c.waiters := by
  unfold go
  split <;> rfl

theorem done_of_move (c : Cancelling) (m : CancelMove)
    (finished : (c.move m).waiters[i]? = some (x, .done)) :
    c.waiters[i]? = some (x, .done) ∨ m = .turn i ∧
      (∃ seen, c.waiters[i]? = some (x, .listening seen)) ∧ c.signals.isCancelled x = true := by
  cases m with
  | create | child | hold | release | cancel => exact .inl finished
  | go j => exact .inl (c.waiters_go j ▸ finished)
  | wait id =>
      obtain old | ⟨-, fresh⟩ := getElem?_concat_cases finished
      · exact .inl old
      · cases fresh
  | turn j =>
      obtain old | ⟨rfl, ⟨y, w⟩, here, step⟩ := getElem?_modify_cases finished
      · exact .inl old
      · obtain ⟨rfl, stepped⟩ := Prod.mk.inj step
        obtain rfl | ⟨seen, rfl, cancelled⟩ := Waiter.step_eq_done.mp stepped
        · exact .inl here
        · exact .inr ⟨rfl, ⟨seen, here⟩, cancelled⟩

/-- A waiter that is done has looked when its signal was cancelled. -/
theorem seen_of_done (finished : (after moves).waiters[i]? = some (x, .done)) :
    ∃ before rest seen, moves = before ++ .turn i :: rest ∧
      (after before).waiters[i]? = some (x, .listening seen) ∧
      (after before).signals.isCancelled x = true := by
  obtain ⟨before, m, rest, rfl, rfl, ⟨seen, here⟩, cancelled⟩ := split_of_cause (by simp [after])
    (fun before m now => (after before).done_of_move m (after_concat before m ▸ now)) finished
  exact ⟨before, rest, seen, rfl, here, cancelled⟩

/-- What those who wait for signals can rely on after some moves. -/
structure Wakes (moves : List CancelMove) (c : Cancelling) : Prop where
  /-- Each cancelled signal has had one notice, unless it is still owed. -/
  once : ∀ x, c.notified.count x + c.owed x = if c.signals.isCancelled x then 1 else 0
  /-- Whoever sleeps has been given a notice, when the signal is cancelled and no notice is owed. -/
  told : ∀ x, c.signals.isCancelled x = true → c.owed x = 0 → ∀ seen,
    (x, .parked seen) ∈ c.waiters → seen < c.notified.count x
  wakes : ∀ x, c.signals.isCancelled x = true → c.owed x = 0 → ∀ w, (x, w) ∈ c.waiters →
    w.settle true (c.notified.count x) = .done
  /-- Whoever is done has looked when the signal was cancelled. -/
  seen : ∀ i x, c.waiters[i]? = some (x, .done) → ∃ before rest seen,
    moves = before ++ .turn i :: rest ∧
      (after before).waiters[i]? = some (x, .listening seen) ∧
      (after before).signals.isCancelled x = true

theorem wakes_after (moves : List CancelMove) : Wakes moves (after moves) := by
  have sound := sound_after moves
  have attended (x : Nat) (w : Waiter) (cancelled : (after moves).signals.isCancelled x = true)
      (settled : (after moves).owed x = 0) (member : (x, w) ∈ (after moves).waiters) :
      w.Attended true ((after moves).notified.count x) 0 := by
    obtain ⟨i, here⟩ := List.getElem?_of_mem member
    exact cancelled ▸ settled ▸ sound.attended i x w here
  refine ⟨fun x => ?_, fun x cancelled settled seen member => ?_,
    fun x cancelled settled w member => ?_, fun i x finished => seen_of_done finished⟩
  · rw [sound.once]
    cases (after moves).signals.isCancelled x <;> rfl
  · exact (attended x _ cancelled settled member).told
  · exact (attended x w cancelled settled member).settle

end Cancelling

end HttpService

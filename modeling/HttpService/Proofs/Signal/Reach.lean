import HttpService.Proofs.Signal.Derivation
import Mathlib.Data.List.Induction
import Mathlib.Data.List.Perm.Basic

/-!
# What cancelling reaches

Runs of those who hold signals: they make them, derive them, copy and drop handles, cancel, and make,
drop and disarm guards. A held signal is cancelled exactly if a signal was cancelled from which an
unbroken line leads down to it: everything on the line that had been made by then was still held.
A line that is broken hides what lies below it.
-/

namespace HttpService

inductive SignalStep
  | create
  | child (parent : Nat)
  | clone (id : Nat)
  | cancel (id : Nat)
  | drop (id : Nat)
  | guard (id : Nat)
  | dropGuard (g : CancelGuard)
  | disarm (g : CancelGuard)
  deriving DecidableEq, Repr

namespace SignalStep

/-- Whether a step cancels a signal, by a handle or by an armed guard. -/
def Cancels : SignalStep → Nat → Prop
  | .cancel id, a => id = a
  | .dropGuard g, a => g.armed = true ∧ g.signal = a
  | _, _ => False

/-- The parents of the signals that a step makes. -/
def births : SignalStep → Parents
  | .create => [none]
  | .child p => [some p]
  | _ => []

end SignalStep

/-- Signals with the handles and the guards that are in use. -/
structure SignalHolders where
  signals : Signals := {}
  parents : Parents := []
  handles : List Nat := []
  guards : List CancelGuard := []
  deriving DecidableEq, Repr

namespace SignalHolders

variable {h : SignalHolders} {s : SignalStep} {i x : Nat}

def Held (h : SignalHolders) (i : Nat) : Prop :=
  i ∈ h.handles ∨ i ∈ h.guards.map CancelGuard.signal

instance (h : SignalHolders) (i : Nat) : Decidable (h.Held i) :=
  inferInstanceAs (Decidable (_ ∨ _))

/-- A step takes a handle or a guard that is in use. -/
def Allows (h : SignalHolders) : SignalStep → Prop
  | .create => True
  | .child id | .clone id | .cancel id | .drop id | .guard id => id ∈ h.handles
  | .dropGuard g | .disarm g => g ∈ h.guards

instance (h : SignalHolders) : (s : SignalStep) → Decidable (h.Allows s)
  | .create => inferInstanceAs (Decidable True)
  | .child _ | .clone _ | .cancel _ | .drop _ | .guard _ | .dropGuard _ | .disarm _ =>
      inferInstanceAs (Decidable (_ ∈ _))

def step (h : SignalHolders) : SignalStep → SignalHolders
  | .create =>
      let (f, id) := h.signals.create
      { h with signals := f, parents := h.parents ++ [none], handles := id :: h.handles }
  | .child p =>
      let (f, id) := h.signals.child p
      { h with signals := f, parents := h.parents ++ [some p], handles := id :: h.handles }
  | .clone id => { h with signals := h.signals.hold id, handles := id :: h.handles }
  | .cancel id => { h with signals := h.signals.cancel id }
  | .drop id => { h with signals := h.signals.release id, handles := h.handles.erase id }
  | .guard id =>
      let (f, g) := CancelGuard.make h.signals id
      { h with signals := f, guards := g :: h.guards }
  | .dropGuard g =>
      { h with signals := CancelGuard.drop h.signals g, guards := h.guards.erase g }
  | .disarm g =>
      { h with signals := CancelGuard.disarm h.signals g, guards := h.guards.erase g }

/-- Every step of a run is allowed where it is taken. -/
def AllowsAll (h : SignalHolders) : List SignalStep → Prop
  | [] => True
  | s :: rest => h.Allows s ∧ (h.step s).AllowsAll rest

instance decidableAllowsAll : (h : SignalHolders) → (steps : List SignalStep) →
    Decidable (h.AllowsAll steps)
  | _, [] => inferInstanceAs (Decidable True)
  | h, s :: rest =>
      have := decidableAllowsAll (h.step s) rest
      inferInstanceAs (Decidable (_ ∧ _))

def run (h : SignalHolders) (steps : List SignalStep) : SignalHolders :=
  steps.foldl step h

theorem run_append (h : SignalHolders) (first second : List SignalStep) :
    h.run (first ++ second) = (h.run first).run second :=
  List.foldl_append

theorem allowsAll_append (first second : List SignalStep) :
    h.AllowsAll (first ++ second) ↔ h.AllowsAll first ∧ (h.run first).AllowsAll second := by
  induction first generalizing h with
  | nil => simp [AllowsAll, run]
  | cons s rest ih => simp only [List.cons_append, AllowsAll, ih, and_assoc]; rfl

/-! ## The invariant -/

/-- The signals count exactly the handles and guards in use, and living children of cancelled signals
are cancelled. -/
structure Sound (h : SignalHolders) : Prop where
  family : Signals.Family h.parents h.signals
  inherits : Signals.Inherits h.parents (fun _ => False) h.signals
  counts : ∀ i, (h.signals.node i).handles =
    h.handles.count i + (h.guards.map CancelGuard.signal).count i
  armed : ∀ g ∈ h.guards, g.armed = true

theorem sound_start : Sound {} where
  family :=
    { size := rfl
      older := fun _ _ born => by simp at born
      own := fun _ _ member => by simp [Signals.node] at member
      linked := fun _ _ born => by simp at born }
  inherits _ _ born := by simp at born
  counts _ := rfl
  armed _ member := by cases member

namespace Sound

theorem isAlive_iff (sound : Sound h) (i : Nat) : h.signals.isAlive i = true ↔ h.Held i := by
  unfold Signals.isAlive Held
  rw [decide_eq_true_eq, sound.counts, ← List.count_pos_iff, ← List.count_pos_iff]
  omega

theorem within (sound : Sound h) (held : h.Held i) : i < h.signals.nodes.length :=
  Signals.lt_of_isAlive ((sound.isAlive_iff i).mpr held)

theorem within_of_handle (sound : Sound h) (member : i ∈ h.handles) : i < h.signals.nodes.length :=
  sound.within (.inl member)

theorem within_of_guard (sound : Sound h) {g : CancelGuard} (member : g ∈ h.guards) :
    g.signal < h.signals.nodes.length :=
  sound.within (.inr (List.mem_map_of_mem member))

theorem unused (sound : Sound h) (beyond : h.signals.nodes.length ≤ i) :
    h.handles.count i = 0 ∧ (h.guards.map CancelGuard.signal).count i = 0 := by
  have counted := sound.counts i
  rw [Signals.node_beyond beyond] at counted
  dsimp only at counted
  omega

theorem create (sound : Sound h) : Sound (h.step .create) where
  family := sound.family.create
  inherits := sound.inherits.create sound.family.size
  counts i := by
    have unused := sound.unused (i := i)
    have counted := sound.counts i
    refine (Signals.handles_create h.signals i).trans ?_
    simp only [step, Signals.create, List.count_cons, beq_iff_eq, eq_comm (a := h.signals.nodes.length)]
    split
    · next new =>
        have none := unused (Nat.le_of_eq new.symm)
        omega
    · omega
  armed := sound.armed

theorem child {p : Nat} (sound : Sound h) (held : p ∈ h.handles) : Sound (h.step (.child p)) where
  family := sound.family.child (sound.within_of_handle held)
  inherits := sound.inherits.child sound.family (sound.within_of_handle held)
  counts i := by
    have unused := sound.unused (i := i)
    have counted := sound.counts i
    refine (Signals.handles_child sound.family (sound.within_of_handle held) i).trans ?_
    simp only [step, Signals.child_eq, List.count_cons, beq_iff_eq,
      eq_comm (a := h.signals.nodes.length)]
    split
    · next new =>
        have none := unused (Nat.le_of_eq new.symm)
        omega
    · omega
  armed := sound.armed

theorem cancel {id : Nat} (sound : Sound h) (held : h.Held id) :
    Sound { h with signals := h.signals.cancel id } where
  family := sound.family.marks (Signals.cancel_marks sound.family (sound.within held))
  inherits := (Signals.cancelFrom_inherits _ sound.family (sound.within held) (by omega)
    sound.inherits).1
  counts i := by
    rw [(Signals.cancel_marks sound.family (sound.within held)).handles]
    exact sound.counts i
  armed := sound.armed

/-- Taking and giving back handles keeps the invariant if they are counted. -/
theorem fades {f : Signals} {handles : List Nat} {guards : List CancelGuard} (sound : Sound h)
    (fades : Signals.Fades h.signals f)
    (counts : ∀ i, (f.node i).handles =
      handles.count i + (guards.map CancelGuard.signal).count i)
    (armed : ∀ g ∈ guards, g.armed = true) :
    Sound { signals := f, parents := h.parents, handles := handles, guards := guards } where
  family := sound.family.fades fades
  inherits := sound.inherits.fades fades
  counts := counts
  armed := armed

/-- The order of the handles is of no account. -/
theorem recounted {handles : List Nat} (sound : Sound h)
    (same : ∀ i, handles.count i = h.handles.count i) : Sound { h with handles := handles } :=
  { sound with counts := fun i => by rw [same]; exact sound.counts i }

theorem clone {id : Nat} (sound : Sound h) (held : id ∈ h.handles) :
    Sound (h.step (.clone id)) := by
  refine sound.fades (Signals.fades_hold ((sound.isAlive_iff id).mpr (.inl held))) (fun i => ?_)
    sound.armed
  rw [Signals.handles_hold (sound.within_of_handle held), sound.counts, List.count_cons]
  simp only [beq_iff_eq, eq_comm (a := id)]
  omega

theorem drop {id : Nat} (sound : Sound h) (held : id ∈ h.handles) : Sound (h.step (.drop id)) := by
  refine sound.fades (Signals.fades_release ..) (fun i => ?_) sound.armed
  have counted := (List.perm_cons_erase held).count_eq i
  rw [List.count_cons] at counted
  rw [Signals.handles_release (sound.within_of_handle held), sound.counts, counted]
  simp only [beq_iff_eq, eq_comm (a := id)]
  omega

theorem guard {id : Nat} (sound : Sound h) (held : id ∈ h.handles) :
    Sound (h.step (.guard id)) := by
  refine sound.fades (Signals.fades_hold ((sound.isAlive_iff id).mpr (.inl held))) (fun i => ?_) ?_
  · rw [Signals.handles_hold (sound.within_of_handle held), sound.counts]
    simp only [List.map_cons, List.count_cons, beq_iff_eq, eq_comm (a := id)]
    omega
  · intro g member
    obtain rfl | old := List.mem_cons.mp member
    · rfl
    · exact sound.armed g old

theorem disarm {g : CancelGuard} (sound : Sound h) (held : g ∈ h.guards) :
    Sound (h.step (.disarm g)) := by
  have released : CancelGuard.disarm h.signals g = h.signals.release g.signal :=
    if_pos (sound.armed g held)
  refine sound.fades (released ▸ Signals.fades_release ..) (fun i => ?_)
    fun other member => sound.armed other (List.mem_of_mem_erase member)
  have counted := ((List.perm_cons_erase held).map CancelGuard.signal).count_eq i
  rw [List.map_cons, List.count_cons] at counted
  rw [released, Signals.handles_release (sound.within_of_guard held), sound.counts, counted]
  simp only [beq_iff_eq, eq_comm (a := g.signal)]
  omega

/-- Dropping an armed guard cancels its signal and then gives the guard's handle back. -/
theorem dropGuard_eq {g : CancelGuard} (sound : Sound h) (held : g ∈ h.guards) :
    h.step (.dropGuard g) =
      { h with signals := h.signals.cancel g.signal }.step (.disarm g) := by
  have armed := sound.armed g held
  simp [SignalHolders.step, CancelGuard.drop, CancelGuard.disarm, armed]

protected theorem step (sound : Sound h) (allowed : h.Allows s) : Sound (h.step s) := by
  cases s with
  | create => exact sound.create
  | child p => exact sound.child allowed
  | clone id => exact sound.clone allowed
  | cancel id => exact sound.cancel (.inl allowed)
  | drop id => exact sound.drop allowed
  | guard id => exact sound.guard allowed
  | dropGuard g =>
      rw [sound.dropGuard_eq allowed]
      exact (sound.cancel (.inr (List.mem_map_of_mem allowed))).disarm allowed
  | disarm g => exact sound.disarm allowed

theorem run {steps : List SignalStep} (sound : Sound h) (allowed : h.AllowsAll steps) :
    Sound (h.run steps) := by
  induction steps generalizing h with
  | nil => exact sound
  | cons s rest ih => exact ih (sound.step allowed.1) allowed.2

end Sound

/-! ## What one step does -/

theorem parents_step (h : SignalHolders) (s : SignalStep) :
    (h.step s).parents = h.parents ++ s.births := by
  cases s <;> simp [step, SignalStep.births]

theorem born_step {p : Nat} :
    (h.step s).parents[x]? = some (some p) ↔
      h.parents[x]? = some (some p) ∨ x = h.parents.length ∧ s = .child p := by
  rw [parents_step]
  cases s <;> simp [SignalStep.births, Parents.born_snoc]

theorem parents_run (h : SignalHolders) (steps : List SignalStep) :
    h.parents.length ≤ (h.run steps).parents.length := by
  induction steps generalizing h with
  | nil => exact Nat.le_refl _
  | cons s rest ih =>
      have grown := ih (h.step s)
      rw [parents_step, List.length_append] at grown
      exact Nat.le_trans (Nat.le_add_right ..) grown

/-- A signal that nobody holds is never held again. -/
theorem held_of_step (sound : Sound h) (allowed : h.Allows s) (old : i < h.parents.length)
    (held : (h.step s).Held i) : h.Held i := by
  rw [sound.family.size] at old
  cases s with
  | create =>
      refine held.imp_left fun member => (List.mem_cons.mp member).resolve_left fun same => ?_
      exact absurd old (same ▸ Nat.lt_irrefl _)
  | child p =>
      refine held.imp_left fun member => (List.mem_cons.mp member).resolve_left fun same => ?_
      exact absurd old (same ▸ Nat.lt_irrefl _)
  | clone id =>
      refine held.imp_left fun member => (List.mem_cons.mp member).elim (fun same => ?_) fun h => h
      exact same ▸ allowed
  | cancel id => exact held
  | drop id => exact held.imp_left List.mem_of_mem_erase
  | guard id =>
      obtain handle | guarded := held
      · exact .inl handle
      · obtain same | other := List.mem_cons.mp guarded
        · exact .inl (same ▸ allowed)
        · exact .inr other
  | dropGuard g => exact held.imp_right fun member => (List.erase_sublist.map _).subset member
  | disarm g => exact held.imp_right fun member => (List.erase_sublist.map _).subset member

theorem isCancelled_cancel {id : Nat} (sound : Sound h) (held : h.Held id) (x : Nat) :
    (h.signals.cancel id).isCancelled x = true ↔
      h.signals.isCancelled x = true ∨ Descends h.parents h.Held id x := by
  have living : (fun i => h.signals.isAlive i = true) = h.Held :=
    funext fun i => propext (sound.isAlive_iff i)
  rw [Signals.isCancelled_cancel sound.family (sound.within held) sound.inherits, living]

/-- What a step cancels: what descends through held signals from the one that it cancels, and a
signal that it derives from a cancelled one. -/
theorem isCancelled_step (sound : Sound h) (allowed : h.Allows s) (x : Nat) :
    (h.step s).signals.isCancelled x = true ↔
      h.signals.isCancelled x = true ∨
      (∃ a, s.Cancels a ∧ Descends h.parents h.Held a x) ∨
      ∃ p, s = .child p ∧ x = h.parents.length ∧ h.signals.isCancelled p = true := by
  cases s with
  | create => simp [step, Signals.isCancelled_create, SignalStep.Cancels]
  | child p =>
      have derived := Signals.isCancelled_child sound.family (sound.within_of_handle allowed)
        sound.inherits x
      have beyond := Signals.isCancelled_beyond (Nat.le_refl h.signals.nodes.length)
      simp only [step, SignalStep.Cancels, derived, sound.family.size, SignalStep.child.injEq,
        false_and, exists_false, false_or, exists_eq_left']
      by_cases new : x = h.signals.nodes.length
      · simp [new, beyond]
      · simp [new]
  | clone id =>
      have same := (Signals.fades_hold ((sound.isAlive_iff id).mpr (.inl allowed))).isCancelled x
      simp [step, SignalStep.Cancels, same]
  | cancel id =>
      simp [step, SignalStep.Cancels, isCancelled_cancel sound (.inl allowed)]
  | drop id =>
      have same := (Signals.fades_release h.signals id).isCancelled x
      simp [step, SignalStep.Cancels, same]
  | guard id =>
      have same := (Signals.fades_hold ((sound.isAlive_iff id).mpr (.inl allowed))).isCancelled x
      simp [step, SignalStep.Cancels, CancelGuard.make, same]
  | dropGuard g =>
      have armed := sound.armed g allowed
      have same := (Signals.fades_release (h.signals.cancel g.signal) g.signal).isCancelled x
      have cancelled := isCancelled_cancel sound (.inr (List.mem_map_of_mem allowed)) x
      simp [step, SignalStep.Cancels, CancelGuard.drop, armed, same, cancelled]
  | disarm g =>
      have armed := sound.armed g allowed
      have same := (Signals.fades_release h.signals g.signal).isCancelled x
      simp [step, SignalStep.Cancels, CancelGuard.disarm, armed, same]

/-! ## Runs -/

theorem descends_step {through : Nat → Prop} {a : Nat} (line : Descends h.parents through a x) :
    Descends (h.step s).parents through a x :=
  line.mono fun _ _ born passes => ⟨born_step.mpr (.inl born), passes⟩

/-- The line of descent of a signal that was there before a step. -/
theorem descends_of_step {through : Nat → Prop} {a : Nat} (sound : Sound (h.step s))
    (line : Descends (h.step s).parents through a x) (old : x < h.parents.length) :
    Descends h.parents through a x := by
  induction line with
  | refl => exact .refl
  | child _ born passes ih =>
      have older := sound.family.older _ _ born
      obtain born | ⟨new, -⟩ := born_step.mp born
      · exact .child (ih (Nat.lt_trans older old)) born passes
      · exact absurd old (new ▸ Nat.lt_irrefl _)

theorem run_snoc (h : SignalHolders) (steps : List SignalStep) (s : SignalStep) :
    h.run (steps ++ [s]) = (h.run steps).step s :=
  run_append h steps [s]

theorem allowsAll_snoc {steps : List SignalStep} :
    h.AllowsAll (steps ++ [s]) ↔ h.AllowsAll steps ∧ (h.run steps).Allows s := by
  simp [allowsAll_append, AllowsAll]

theorem births_of_cancels {a : Nat} (cancels : s.Cancels a) : s.births = [] := by
  cases s with
  | cancel | dropGuard => rfl
  | create | child | clone | drop | guard | disarm => cases cancels

theorem held_of_cancels {a : Nat} (allowed : h.Allows s) (cancels : s.Cancels a) : h.Held a := by
  cases s with
  | cancel id => exact .inl (cancels ▸ allowed)
  | dropGuard g => exact .inr (cancels.2 ▸ List.mem_map_of_mem allowed)
  | create | child | clone | drop | guard | disarm => cases cancels

/-- After a signal has been cancelled, whatever is held and leads up to it by an unbroken line is
cancelled, also what has been derived since. -/
theorem isCancelled_of_line {a : Nat} {after : List SignalStep} (sound : Sound h)
    (allowed : h.AllowsAll (s :: after)) (cancels : s.Cancels a)
    (line : Descends (h.run (s :: after)).parents (fun i => i < h.parents.length → h.Held i) a x)
    (held : (h.run (s :: after)).Held x) :
    (h.run (s :: after)).signals.isCancelled x = true := by
  induction after using List.reverseRecOn generalizing x with
  | nil =>
      have same : (h.step s).parents = h.parents := by
        rw [parents_step, births_of_cancels cancels, List.append_nil]
      have living : Descends h.parents h.Held a x := line.mono fun i p born passes => by
        rw [show (h.run [s]).parents = h.parents from same] at born
        exact ⟨born, passes (Parents.lt_of_born born)⟩
      exact (isCancelled_step sound allowed.1 x).mpr (.inr (.inl ⟨a, cancels, living⟩))
  | append_singleton after t ih =>
      rw [← List.cons_append] at allowed
      rw [← List.cons_append, run_snoc] at line held ⊢
      obtain ⟨allowedBefore, allowedLast⟩ := allowsAll_snoc.mp allowed
      have soundBefore := sound.run allowedBefore
      have soundAfter := soundBefore.step allowedLast
      rw [isCancelled_step soundBefore allowedLast]
      by_cases old : x < (h.run (s :: after)).parents.length
      · have heldBefore := held_of_step soundBefore allowedLast old held
        exact .inl (ih allowedBefore (descends_of_step soundAfter line old) heldBefore)
      · -- The last step has made the signal, so it has derived it from one on the line.
        cases line with
        | refl =>
            have there := sound.within (held_of_cancels allowed.1 cancels)
            rw [← sound.family.size] at there
            exact absurd (Nat.lt_of_lt_of_le there (parents_run h _)) old
        | @child p _ upper born passes =>
            have older := soundAfter.family.older x p born
            obtain born | ⟨new, rfl⟩ := born_step.mp born
            · exact absurd (Parents.lt_of_born born) old
            · rw [new] at older
              have upperBefore := descends_of_step soundAfter upper older
              exact .inr (.inr ⟨p, rfl, new, ih allowedBefore upperBefore (.inl allowedLast)⟩)

/-- A cancelled signal has been reached by a line from one that was cancelled. -/
theorem line_of_isCancelled {steps : List SignalStep} (allowed : AllowsAll {} steps)
    (cancelled : (run {} steps).signals.isCancelled x = true) :
    ∃ before s after a, steps = before ++ s :: after ∧ s.Cancels a ∧
      Descends (run {} steps).parents
        (fun i => i < (run {} before).parents.length → (run {} before).Held i) a x := by
  induction steps using List.reverseRecOn generalizing x with
  | nil => simp [run, Signals.isCancelled, Signals.node] at cancelled
  | append_singleton steps s ih =>
      obtain ⟨allowedBefore, allowedLast⟩ := allowsAll_snoc.mp allowed
      have sound := sound_start.run allowedBefore
      rw [run_snoc] at cancelled ⊢
      rw [isCancelled_step sound allowedLast] at cancelled
      obtain earlier | ⟨a, cancels, line⟩ | ⟨p, rfl, new, parentCancelled⟩ := cancelled
      · obtain ⟨before, t, after, a, rfl, cancels, line⟩ := ih allowedBefore earlier
        exact ⟨before, t, after ++ [s], a, by simp, cancels, descends_step line⟩
      · refine ⟨steps, s, [], a, rfl, cancels, ?_⟩
        exact (descends_step line).mono fun j p born held => ⟨born, fun _ => held⟩
      · obtain ⟨before, t, after, a, rfl, cancels, line⟩ := ih allowedBefore parentCancelled
        refine ⟨before, t, after ++ [.child p], a, by simp, cancels,
          (descends_step line).child ?_ ?_⟩
        · exact born_step.mpr (.inr ⟨new, rfl⟩)
        · intro old
          have grown := parents_run (run {} before) (t :: after)
          rw [← run_append] at grown
          omega

/-- A held signal is cancelled exactly if some step has cancelled a signal from which it descends, or
itself, and every signal on the line down that had been made by then was held by somebody. What has
been derived since from a signal on the line counts, and signals further up do not. -/
theorem isCancelled_iff_unbroken {steps : List SignalStep} (allowed : AllowsAll {} steps)
    (held : (run {} steps).Held x) :
    (run {} steps).signals.isCancelled x = true ↔
      ∃ before s after a, steps = before ++ s :: after ∧ s.Cancels a ∧
        Descends (run {} steps).parents
          (fun i => i < (run {} before).parents.length → (run {} before).Held i) a x := by
  constructor
  · exact line_of_isCancelled allowed
  · rintro ⟨before, s, after, a, rfl, cancels, line⟩
    obtain ⟨allowedBefore, allowedRest⟩ := (allowsAll_append ..).mp allowed
    rw [run_append] at line held ⊢
    exact isCancelled_of_line (sound_start.run allowedBefore) allowedRest cancels line held

/-- A signal is cancelled by a guard. The one below it is let go of afterwards, and what is derived
further down later on starts cancelled. -/
theorem isCancelled_iff_unbroken_late :
    let steps : List SignalStep :=
      [.create, .child 0, .child 1, .guard 0, .dropGuard ⟨0, true⟩, .drop 1, .child 2]
    AllowsAll {} steps ∧ (run {} steps).Held 3 ∧ (run {} steps).signals.isCancelled 3 = true := by
  intro steps
  let before : List SignalStep := [.create, .child 0, .child 1, .guard 0]
  have allowed : AllowsAll {} steps := by decide
  have held : (run {} steps).Held 3 := by decide
  have line : Descends (run {} steps).parents
      (fun i => i < (run {} before).parents.length → (run {} before).Held i) 0 3 := by
    refine .child (p := 2) (.child (p := 1) (.child (p := 0) .refl rfl ?_) rfl ?_) rfl ?_ <;> decide
  have cut : steps = before ++ .dropGuard ⟨0, true⟩ :: [.drop 1, .child 2] := rfl
  exact ⟨allowed, held, (isCancelled_iff_unbroken allowed held).mpr
    ⟨before, _, _, 0, cut, ⟨rfl, rfl⟩, line⟩⟩

/-- Not everything below a cancelled signal is cancelled: where a signal in between has been let go
of, what is held further down stays as it is. -/
theorem not_all_descendants_cancelled :
    ¬ ∀ steps before after : List SignalStep, ∀ s : SignalStep, ∀ a x : Nat,
      AllowsAll {} steps → steps = before ++ s :: after → s.Cancels a →
      Descends (run {} steps).parents (fun _ => True) a x → (run {} steps).Held x →
      (run {} steps).signals.isCancelled x = true := by
  intro all
  have claimed := all [.create, .child 0, .child 1, .drop 1, .cancel 0]
    [.create, .child 0, .child 1, .drop 1] [] (.cancel 0) 0 2 (by decide) rfl rfl
    (.child (p := 1) (.child (p := 0) .refl rfl trivial) rfl trivial) (by decide)
  revert claimed
  decide

end SignalHolders

end HttpService

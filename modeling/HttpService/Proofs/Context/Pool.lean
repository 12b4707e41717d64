import HttpService.Proofs.Concat
import HttpService.Proofs.Context.Sharing
import HttpService.Proofs.Signal.Confinement

/-!
# Contexts side by side

Runs of those who have contexts: they create them, clone them, bind new ones to children of their
signals, change them, cancel through them and drop them. What a context has been through can be read
off the steps alone: a clone goes on with the history of its original, and every other context starts
with none. The pool of all contexts mirrors the histories, and it counts the owners of every cell and
the holders of every signal.
-/

namespace HttpService

/-- Where a context comes from. -/
inductive ContextBirth
  | created
  | derived (parent : Nat)
  | cloned (original : Nat)

/-- Contexts go by their numbers in the order in which they were made. -/
inductive ContextStep
  | create
  | derive (i : Nat)
  | clone (i : Nat)
  | drop (i : Nat)
  | cancel (i : Nat)
  | change (i : Nat) (made : ContextChange)

namespace ContextStep

def birth? : ContextStep → Option ContextBirth
  | create => some .created
  | derive i => some (.derived i)
  | clone i => some (.cloned i)
  | drop _ | cancel _ | change .. => none

/-- The step is one on the context itself. -/
def Touches : ContextStep → Nat → Prop
  | change i _, j | drop i, j => i = j
  | _, _ => False

/-- What the step adds to the histories of contexts. -/
def record (histories : List (List ContextChange)) : ContextStep → List (List ContextChange)
  | create | derive _ => histories ++ [[]]
  | clone i => histories ++ [histories.getD i []]
  | change i made => histories.modify i (· ++ [made])
  | drop _ | cancel _ => histories

/-- The changes that each context or one that it was cloned from has been through. -/
def histories (steps : List ContextStep) : List (List ContextChange) :=
  steps.foldl record []

def births (steps : List ContextStep) : List ContextBirth :=
  steps.filterMap birth?

theorem histories_snoc (steps : List ContextStep) (s : ContextStep) :
    histories (steps ++ [s]) = s.record (histories steps) := by
  simp [histories]

theorem births_snoc (steps : List ContextStep) (s : ContextStep) :
    births (steps ++ [s]) = births steps ++ s.birth?.toList := by
  simp only [births, List.filterMap_append, List.filterMap_cons, List.filterMap_nil]
  cases s.birth? <;> rfl

end ContextStep

/-- A context that was made, and whether it has been dropped. -/
structure ContextSlot where
  context : SharedContext
  living : Bool := true

namespace ContextSlot

def signal (slot : ContextSlot) : Nat :=
  slot.context.plain.signal

/-- The handles on signals that the context holds. -/
def handles (slot : ContextSlot) : List Nat :=
  if slot.living then [slot.signal] else []

/-- The references to cells that the context has. -/
def references (slot : ContextSlot) : List Nat :=
  if slot.living then slot.context.refs.values else []

end ContextSlot

/-- All contexts that were ever made, the cells and the signals that they share. -/
structure ContextPool where
  signals : Signals := {}
  /-- The parents of the signals, in the order in which these were made. -/
  parents : Parents := []
  cells : Cells := []
  slots : List ContextSlot := []

namespace ContextPool

variable {d d' : ContextPool} {s : ContextStep} {i j : Nat} {c : SharedContext}

/-- A context that has not been dropped. -/
def context? (d : ContextPool) (i : Nat) : Option SharedContext :=
  d.slots[i]?.bind fun slot => if slot.living then some slot.context else none

/-- What the owner of a context sees of it. -/
def view? (d : ContextPool) (i : Nat) : Option Context :=
  (d.context? i).map (SharedContext.view d.cells)

/-- The signal of a context, dropped or not. -/
def signal? (d : ContextPool) (i : Nat) : Option Nat :=
  d.slots[i]?.map ContextSlot.signal

/-- The context's signal has fired. -/
def Cancelled (d : ContextPool) (i : Nat) : Prop :=
  ∃ x, d.signal? i = some x ∧ d.signals.isCancelled x = true

/-- A step takes a context that has not been dropped. -/
def Allows (d : ContextPool) : ContextStep → Prop
  | .create => True
  | .derive i | .clone i | .drop i | .cancel i | .change i _ => (d.context? i).isSome

instance (d : ContextPool) : (s : ContextStep) → Decidable (d.Allows s)
  | .create => inferInstanceAs (Decidable True)
  | .derive _ | .clone _ | .drop _ | .cancel _ | .change .. =>
      inferInstanceAs (Decidable (_ = true))

def step (d : ContextPool) : ContextStep → ContextPool
  | .create =>
      let (f, id) := d.signals.create
      { d with
        signals := f, parents := d.parents ++ [none],
        slots := d.slots ++ [⟨⟨.withSignal id, []⟩, true⟩] }
  | .derive i =>
      match d.context? i with
      | some c =>
          let (f, plain) := c.plain.derive d.signals
          { d with
            signals := f, parents := d.parents ++ [some c.plain.signal],
            slots := d.slots ++ [⟨⟨plain, []⟩, true⟩] }
      | none => d
  | .clone i =>
      match d.context? i with
      | some c =>
          let (f, plain) := c.plain.clone d.signals
          { d with
            signals := f, cells := d.cells.holdAll c.refs.values,
            slots := d.slots ++ [⟨⟨plain, c.refs⟩, true⟩] }
      | none => d
  | .drop i =>
      match d.context? i with
      | some c =>
          { d with
            signals := d.signals.release c.plain.signal,
            cells := d.cells.releaseAll c.refs.values, slots := d.slots.set i ⟨c, false⟩ }
      | none => d
  | .cancel i =>
      match d.context? i with
      | some c => { d with signals := d.signals.cancel c.plain.signal }
      | none => d
  | .change i made =>
      match d.context? i with
      | some c =>
          let (cells, c) := c.change d.cells made
          { d with cells := cells, slots := d.slots.set i ⟨c, true⟩ }
      | none => d

/-- Every step of a run is allowed where it is taken. -/
def AllowsAll (d : ContextPool) : List ContextStep → Prop
  | [] => True
  | s :: rest => d.Allows s ∧ (d.step s).AllowsAll rest

instance decidableAllowsAll : (d : ContextPool) → (steps : List ContextStep) →
    Decidable (d.AllowsAll steps)
  | _, [] => inferInstanceAs (Decidable True)
  | d, s :: rest =>
      have := decidableAllowsAll (d.step s) rest
      inferInstanceAs (Decidable (_ ∧ _))

def run (d : ContextPool) (steps : List ContextStep) : ContextPool :=
  steps.foldl step d

theorem context?_eq_some_iff : d.context? i = some c ↔ d.slots[i]? = some ⟨c, true⟩ := by
  unfold context?
  cases d.slots[i]? with
  | none => simp
  | some slot =>
      obtain ⟨context, living⟩ := slot
      cases living <;> simp

/-- The holders of the signals, as far as they are contexts. -/
def holders (d : ContextPool) : SignalHolders where
  signals := d.signals
  parents := d.parents
  handles := (d.slots.map ContextSlot.handles).flatten

/-- How a context's signal stands to those of the others. -/
inductive Bound (d : ContextPool) (x : Nat) : ContextBirth → Prop
  | created (born : d.parents[x]? = some none) : Bound d x .created
  | derived {parent p : Nat} (signal : d.signal? parent = some p)
      (born : d.parents[x]? = some (some p)) : Bound d x (.derived parent)
  | cloned {original : Nat} (signal : d.signal? original = some x) : Bound d x (.cloned original)

/-- Every context has the signal that its birth calls for. -/
structure Born (steps : List ContextStep) (d : ContextPool) : Prop where
  size : (ContextStep.births steps).length = d.slots.length
  bound : ∀ i birth, (ContextStep.births steps)[i]? = some birth →
    ∃ x, d.signal? i = some x ∧ d.Bound x birth

/-- The context stands for what the changes have made of a new one. -/
structure Stands (cells : Cells) (slot : ContextSlot) (changes : List ContextChange) : Prop where
  ascending : slot.context.refs.Ascending
  represents : slot.context.Represents cells
    (ContextChange.applyAll changes (.withSignal slot.signal))

theorem Stands.mono {cells cells' : Cells} {slot : ContextSlot} {changes : List ContextChange}
    (stands : Stands cells slot changes) (extend : cells.Extends cells') :
    Stands cells' slot changes :=
  ⟨stands.ascending, stands.represents.mono extend⟩

theorem stands_new (cells : Cells) (x : Nat) : Stands cells ⟨⟨.withSignal x, []⟩, true⟩ [] :=
  ⟨Table.ascending_nil, rfl, .nil⟩

/-- The pool that a run has led to: every count is right, and every context stands for its own
history. -/
structure Mirrors (steps : List ContextStep) (d : ContextPool) : Prop where
  holders : d.holders.Sound
  counts : ∀ id, d.cells.owners id = (d.slots.map ContextSlot.references).flatten.count id
  shows : List.Forall₂ (Stands d.cells) d.slots (ContextStep.histories steps)
  born : Born steps d

/-! ## Allowed steps -/

/-- What an allowed step leads to. -/
inductive Leads (d : ContextPool) : ContextStep → ContextPool → Prop
  | create : Leads d .create
      { d with
        signals := d.signals.create.1, parents := d.parents ++ [none],
        slots := d.slots ++ [⟨⟨.withSignal d.signals.create.2, []⟩, true⟩] }
  | derive {i : Nat} {c : SharedContext} (here : d.context? i = some c) : Leads d (.derive i)
      { d with
        signals := (c.plain.derive d.signals).1, parents := d.parents ++ [some c.plain.signal],
        slots := d.slots ++ [⟨⟨(c.plain.derive d.signals).2, []⟩, true⟩] }
  | clone {i : Nat} {c : SharedContext} (here : d.context? i = some c) : Leads d (.clone i)
      { d with
        signals := d.signals.hold c.plain.signal, cells := d.cells.holdAll c.refs.values,
        slots := d.slots ++ [⟨c, true⟩] }
  | drop {i : Nat} {c : SharedContext} (here : d.context? i = some c) : Leads d (.drop i)
      { d with
        signals := d.signals.release c.plain.signal, cells := d.cells.releaseAll c.refs.values,
        slots := d.slots.set i ⟨c, false⟩ }
  | cancel {i : Nat} {c : SharedContext} (here : d.context? i = some c) : Leads d (.cancel i)
      { d with signals := d.signals.cancel c.plain.signal }
  | change {i : Nat} {c : SharedContext} (here : d.context? i = some c) (made : ContextChange) :
      Leads d (.change i made)
        { d with
          cells := (c.change d.cells made).1,
          slots := d.slots.set i ⟨(c.change d.cells made).2, true⟩ }

theorem Leads.step_eq (leads : d.Leads s d') : d.step s = d' := by
  cases leads with
  | create => rfl
  | derive here | drop here | cancel here | change here => simp only [step, here]
  | clone here =>
      simp only [step, here]
      rfl

theorem leads_step (allowed : d.Allows s) : d.Leads s (d.step s) := by
  suffices leads : ∃ d', d.Leads s d' by
    obtain ⟨d', leads⟩ := leads
    rwa [leads.step_eq]
  cases s with
  | create => exact ⟨_, .create⟩
  | derive i =>
      obtain ⟨c, here⟩ := Option.isSome_iff_exists.mp allowed
      exact ⟨_, .derive here⟩
  | clone i =>
      obtain ⟨c, here⟩ := Option.isSome_iff_exists.mp allowed
      exact ⟨_, .clone here⟩
  | drop i =>
      obtain ⟨c, here⟩ := Option.isSome_iff_exists.mp allowed
      exact ⟨_, .drop here⟩
  | cancel i =>
      obtain ⟨c, here⟩ := Option.isSome_iff_exists.mp allowed
      exact ⟨_, .cancel here⟩
  | change i made =>
      obtain ⟨c, here⟩ := Option.isSome_iff_exists.mp allowed
      exact ⟨_, .change here made⟩

/-! ### Counting -/

theorem count_concat (held : ContextSlot → List Nat) (slots : List ContextSlot)
    (slot : ContextSlot) (x : Nat) :
    ((slots ++ [slot]).map held).flatten.count x =
      (held slot ++ (slots.map held).flatten).count x := by
  simp only [List.map_append, List.map_cons, List.map_nil, List.flatten_append, List.flatten_cons,
    List.flatten_nil, List.append_nil, List.count_append]
  exact Nat.add_comm ..

/-- A slot that is replaced holds something else than before. -/
theorem count_set (held : ContextSlot → List Nat) {slots : List ContextSlot} {old : ContextSlot}
    (here : slots[i]? = some old) (slot : ContextSlot) (x : Nat) :
    ((slots.set i slot).map held).flatten.count x + (held old).count x =
      (slots.map held).flatten.count x + (held slot).count x := by
  rw [List.map_set]
  exact count_flatten_set (by rw [List.getElem?_map, here]; rfl) _ x

theorem signal_mem_handles (here : d.context? i = some c) :
    c.plain.signal ∈ d.holders.handles := by
  have slot := List.mem_of_getElem? (context?_eq_some_iff.mp here)
  exact List.mem_flatten.mpr ⟨_, List.mem_map_of_mem slot, List.mem_singleton_self _⟩

theorem holders_step (sound : d.holders.Sound) (leads : d.Leads s d') : d'.holders.Sound := by
  cases leads with
  | create => exact sound.create.recounted (count_concat ContextSlot.handles d.slots _)
  | derive here =>
      exact (sound.child (signal_mem_handles here)).recounted
        (count_concat ContextSlot.handles d.slots _)
  | @clone i c here =>
      exact (sound.clone (signal_mem_handles here)).recounted
        (count_concat ContextSlot.handles d.slots ⟨c, true⟩)
  | @drop i c here =>
      refine (sound.drop (signal_mem_handles here)).recounted fun x => ?_
      have counted := count_set ContextSlot.handles (context?_eq_some_iff.mp here) ⟨c, false⟩ x
      have erased := (List.perm_cons_erase (signal_mem_handles here)).count_eq x
      rw [← List.singleton_append, List.count_append, Nat.add_comm] at erased
      exact Nat.add_right_cancel (counted.trans erased)
  | cancel here => exact sound.cancel (.inl (signal_mem_handles here))
  | @change i c here made =>
      refine sound.recounted fun x => ?_
      have counted := count_set ContextSlot.handles (context?_eq_some_iff.mp here)
        ⟨(c.change d.cells made).2, true⟩ x
      have same : ContextSlot.handles ⟨(c.change d.cells made).2, true⟩ = [c.plain.signal] :=
        congrArg (fun signal => [signal]) (SharedContext.signal_change ..)
      rw [same] at counted
      exact Nat.add_right_cancel counted

namespace Mirrors

variable {steps : List ContextStep}

/-- A context that has not been dropped stands for its history, and its cells are owned. -/
theorem stands (mirrors : Mirrors steps d) (here : d.context? i = some c) :
    ∃ changes, (ContextStep.histories steps)[i]? = some changes ∧
      Stands d.cells ⟨c, true⟩ changes ∧ ∀ id, c.refs.values.count id ≤ d.cells.owners id := by
  have slot := context?_eq_some_iff.mp here
  obtain ⟨changes, found, stands⟩ := forall₂_getElem? mirrors.shows slot
  refine ⟨changes, found, stands, fun id => ?_⟩
  have counted := count_set ContextSlot.references slot ⟨c, false⟩ id
  rw [mirrors.counts, ← Nat.add_zero (List.count id (List.flatten _))]
  exact Nat.le.intro ((Nat.add_comm ..).trans counted)

theorem counts_step (mirrors : Mirrors steps d) (leads : d.Leads s d') (id : Nat) :
    d'.cells.owners id = (d'.slots.map ContextSlot.references).flatten.count id := by
  have counted := mirrors.counts id
  cases leads with
  | create | derive =>
      exact counted.trans (count_concat ContextSlot.references d.slots ⟨⟨_, []⟩, true⟩ id).symm
  | @clone i c here =>
      obtain ⟨changes, -, ⟨-, represents⟩, -⟩ := mirrors.stands here
      refine Eq.trans ?_ (count_concat ContextSlot.references d.slots ⟨c, true⟩ id).symm
      rw [List.count_append, ← counted, Nat.add_comm]
      exact Cells.owners_holdAll represents.known id
  | @drop i c here =>
      obtain ⟨changes, -, ⟨-, represents⟩, covered⟩ := mirrors.stands here
      have replaced := count_set ContextSlot.references (context?_eq_some_iff.mp here)
        ⟨c, false⟩ id
      dsimp only
      rw [Cells.owners_releaseAll represents.known, counted]
      exact Nat.sub_eq_of_eq_add replaced.symm
  | cancel => exact counted
  | @change i c here made =>
      obtain ⟨changes, -, ⟨ascending, represents⟩, covered⟩ := mirrors.stands here
      have balanced := represents.owners_change ascending covered made id
      have replaced := count_set ContextSlot.references (context?_eq_some_iff.mp here)
        ⟨(c.change d.cells made).2, true⟩ id
      rw [counted] at balanced
      exact Nat.add_right_cancel (balanced.trans replaced.symm)

theorem shows_step (mirrors : Mirrors steps d) (leads : d.Leads s d') :
    List.Forall₂ (Stands d'.cells) d'.slots (ContextStep.histories (steps ++ [s])) := by
  rw [ContextStep.histories_snoc]
  have shows := mirrors.shows
  cases leads with
  | create | derive => exact forall₂_concat shows (stands_new ..)
  | @clone i c here =>
      obtain ⟨changes, found, stands, -⟩ := mirrors.stands here
      have extend := d.cells.extends_recountAll (· + 1) c.refs.values
      have same : (ContextStep.histories steps).getD i [] = changes := by
        rw [List.getD_eq_getElem?_getD, found, Option.getD_some]
      rw [ContextStep.record, same]
      exact forall₂_concat (shows.imp fun _ _ stands => stands.mono extend) (stands.mono extend)
  | @drop i c here =>
      obtain ⟨changes, found, stands, -⟩ := mirrors.stands here
      have extend := d.cells.extends_recountAll (· - 1) c.refs.values
      rw [ContextStep.record, ← List.modify_id i (ContextStep.histories steps)]
      have kept := shows.imp fun _ _ stands => stands.mono extend
      refine forall₂_set_modify kept fun other there => ?_
      cases found.symm.trans there
      exact ⟨stands.ascending, (stands.mono extend).represents⟩
  | cancel => exact shows
  | @change i c here made =>
      obtain ⟨changes, found, ⟨ascending, represents⟩, -⟩ := mirrors.stands here
      obtain ⟨extend, changed⟩ := represents.change made
      have kept := shows.imp fun _ _ stands => stands.mono extend
      refine forall₂_set_modify kept fun other there => ?_
      cases found.symm.trans there
      refine ⟨SharedContext.ascending_change ascending _ made, ?_⟩
      rw [ContextChange.applyAll_concat]
      have same : ContextSlot.signal ⟨(c.change d.cells made).2, true⟩ = c.plain.signal :=
        SharedContext.signal_change ..
      rw [same]
      exact changed

end Mirrors

/-! ### Signals and their parents -/

theorem signal?_of_context? (here : d.context? i = some c) : d.signal? i = some c.plain.signal := by
  rw [signal?, context?_eq_some_iff.mp here]
  rfl

/-- A context that is replaced keeps its signal. -/
theorem signal?_set (here : d.context? i = some c) {slot : ContextSlot}
    (same : slot.signal = c.plain.signal) (j : Nat) :
    (d.slots.set i slot)[j]?.map ContextSlot.signal = d.signal? j := by
  unfold signal?
  rw [List.getElem?_set]
  split
  · next turn =>
      subst turn
      obtain ⟨inside, -⟩ := List.getElem?_eq_some_iff.mp (context?_eq_some_iff.mp here)
      rw [if_pos inside, context?_eq_some_iff.mp here, Option.map_some, Option.map_some, same]
      rfl
  · rfl

theorem signal?_concat {slot : ContextSlot} {x : Nat} (there : d.signal? j = some x) :
    (d.slots ++ [slot])[j]?.map ContextSlot.signal = some x := by
  obtain ⟨old, found, same⟩ := Option.map_eq_some_iff.mp there
  rw [getElem?_concat_old found, Option.map_some, same]

/-- A context never changes its signal, and a signal never changes its parent. -/
theorem kin_step (leads : d.Leads s d') :
    (∀ j x, d.signal? j = some x → d'.signal? j = some x) ∧
      ∀ (x : Nat) (parent : Option Nat), d.parents[x]? = some parent →
        d'.parents[x]? = some parent := by
  cases leads with
  | create | derive => exact ⟨fun _ _ => signal?_concat, fun _ _ => getElem?_concat_old⟩
  | clone => exact ⟨fun _ _ => signal?_concat, fun _ _ born => born⟩
  | drop here =>
      exact ⟨fun j _ there => (signal?_set here rfl j).trans there, fun _ _ born => born⟩
  | cancel => exact ⟨fun _ _ there => there, fun _ _ born => born⟩
  | @change i c here made =>
      have same : ContextSlot.signal ⟨(c.change d.cells made).2, true⟩ = c.plain.signal :=
        SharedContext.signal_change ..
      exact ⟨fun j _ there => (signal?_set here same j).trans there, fun _ _ born => born⟩

theorem Bound.later (leads : d.Leads s d') {x : Nat} {birth : ContextBirth}
    (bound : d.Bound x birth) : d'.Bound x birth := by
  obtain ⟨signals, parents⟩ := kin_step leads
  cases bound with
  | created born => exact .created (parents _ _ born)
  | derived signal born => exact .derived (signals _ _ signal) (parents _ _ born)
  | cloned signal => exact .cloned (signals _ _ signal)

namespace Mirrors

variable {steps : List ContextStep}

theorem born_old (mirrors : Mirrors steps d) (leads : d.Leads s d') {birth : ContextBirth}
    (found : (ContextStep.births steps)[i]? = some birth) :
    ∃ x, d'.signal? i = some x ∧ d'.Bound x birth := by
  obtain ⟨x, signal, bound⟩ := mirrors.born.bound i birth found
  exact ⟨x, (kin_step leads).1 i x signal, bound.later leads⟩

theorem born_still (mirrors : Mirrors steps d) (leads : d.Leads s d') (none : s.birth? = none)
    (size : d'.slots.length = d.slots.length) : Born (steps ++ [s]) d' := by
  have same : ContextStep.births (steps ++ [s]) = ContextStep.births steps := by
    rw [ContextStep.births_snoc, none, Option.toList_none, List.append_nil]
  constructor
  · rw [same, size, mirrors.born.size]
  · intro i birth found
    exact mirrors.born_old leads (same ▸ found)

theorem born_concat (mirrors : Mirrors steps d) (leads : d.Leads s d') {birth : ContextBirth}
    {slot : ContextSlot} (born : s.birth? = some birth) (grown : d'.slots = d.slots ++ [slot])
    (bound : d'.Bound slot.signal birth) : Born (steps ++ [s]) d' := by
  have more : ContextStep.births (steps ++ [s]) = ContextStep.births steps ++ [birth] := by
    rw [ContextStep.births_snoc, born, Option.toList_some]
  constructor
  · rw [more, grown, List.length_append, List.length_append, mirrors.born.size]
    rfl
  · intro i other found
    rw [more] at found
    obtain earlier | ⟨rfl, rfl⟩ := getElem?_concat_cases found
    · exact mirrors.born_old leads earlier
    · refine ⟨slot.signal, ?_, bound⟩
      rw [signal?, grown, mirrors.born.size, List.getElem?_concat_length, Option.map_some]

theorem born_step (mirrors : Mirrors steps d) (leads : d.Leads s d') :
    Born (steps ++ [s]) d' := by
  -- The next signal is the one that gets the next parent.
  have next : d.signals.nodes.length = d.parents.length := mirrors.holders.family.size.symm
  have kept := (kin_step leads).1
  have led := leads
  cases leads with
  | create =>
      refine mirrors.born_concat led rfl rfl (.created ?_)
      exact (congrArg _ next).trans List.getElem?_concat_length
  | @derive i c here =>
      have fresh : (c.plain.derive d.signals).2.signal = d.signals.nodes.length := by
        rw [Context.derive, Signals.child_eq]
        rfl
      refine mirrors.born_concat led rfl rfl (.derived (kept i _ (signal?_of_context? here)) ?_)
      exact (congrArg _ (fresh.trans next)).trans List.getElem?_concat_length
  | @clone i c here =>
      exact mirrors.born_concat led rfl rfl (.cloned (kept i _ (signal?_of_context? here)))
  | drop | change => exact mirrors.born_still led rfl List.length_set
  | cancel => exact mirrors.born_still led rfl rfl

protected theorem step (mirrors : Mirrors steps d) (leads : d.Leads s d') :
    Mirrors (steps ++ [s]) d' where
  holders := holders_step mirrors.holders leads
  counts := mirrors.counts_step leads
  shows := mirrors.shows_step leads
  born := mirrors.born_step leads

/-- The pool mirrors what the whole run has done. -/
theorem run {before after : List ContextStep} (mirrors : Mirrors before d)
    (allowed : d.AllowsAll after) : Mirrors (before ++ after) (d.run after) := by
  induction after generalizing before d with
  | nil =>
      rw [List.append_nil]
      exact mirrors
  | cons s rest ih =>
      have later := ih (mirrors.step (leads_step allowed.1)) allowed.2
      rwa [List.append_assoc] at later

end Mirrors

theorem mirrors_start : Mirrors [] {} where
  holders := SignalHolders.sound_start
  counts _ := rfl
  shows := .nil
  born := ⟨rfl, nofun⟩

end ContextPool

end HttpService

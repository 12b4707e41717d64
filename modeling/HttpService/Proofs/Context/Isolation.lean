import HttpService.Proofs.Context.Deadline
import HttpService.Proofs.Context.Pool
import HttpService.Proofs.Stage.Endpoint
import Mathlib.Logic.Relation

/-!
# Isolated contexts

What is done to one context is seen in no other: each of them is what its own history makes of a new
one, whatever it was cloned from and whatever shares its values. Only a cancellation is shared. It
reaches the clones of a context, and none of those that it was derived from.
-/

namespace HttpService

/-! ## Deadlines -/

namespace ContextChange

def deadline? : ContextChange → Option Nat
  | deadline time => some time
  | _ => none

/-- The deadlines that have been set, in their order. -/
def deadlines (changes : List ContextChange) : List Nat :=
  changes.filterMap deadline?

/-- A deadline is the earliest of those that have been set. -/
theorem deadline_applyAll (changes : List ContextChange) (x : Nat) :
    (applyAll changes (.withSignal x)).deadline = (deadlines changes).min? := by
  induction changes using List.reverseRecOn with
  | nil => rfl
  | append_singleton changes change ih =>
      rw [applyAll_concat, deadlines, List.filterMap_append]
      cases change with
      | deadline time =>
          calc ((applyAll changes (.withSignal x)).setDeadline time).deadline
            _ = earliest (applyAll changes (.withSignal x)).deadline [time] :=
                Context.deadline_setDeadline _ time
            _ = earliest (earliest none (deadlines changes)) [time] :=
                congrArg (earliest · [time]) ih
            _ = _ := (earliest_append none (deadlines changes) [time]).symm
      | requestId | user | transactionId | param | remote | put | take =>
          refine ih.trans (congrArg List.min? ?_)
          exact (List.append_nil _).symm

end ContextChange

/-! ## Kinship -/

/-- One of the contexts was cloned from the other, or both go back to the same one by cloning. -/
def Clones (births : List ContextBirth) : Nat → Nat → Prop :=
  Relation.EqvGen fun i j => births[i]? = some (.cloned j)

/-- The first context, or one of its clones, was bound to a child of the signal of the second one or
of one of its clones. -/
def ChildOf (births : List ContextBirth) (i j : Nat) : Prop :=
  ∃ i' j', Clones births i i' ∧ births[i']? = some (.derived j') ∧ Clones births j' j

/-- The first context was derived as a child from the second one, at once or by others. -/
def DerivedFrom (births : List ContextBirth) : Nat → Nat → Prop :=
  Relation.TransGen (ChildOf births)

namespace ContextPool

variable {d d' : ContextPool} {s : ContextStep} {steps : List ContextStep} {i j : Nat}
  {c : SharedContext}

namespace Mirrors

theorem signal?_of_clones (mirrors : Mirrors steps d)
    (clones : Clones (ContextStep.births steps) i j) : d.signal? i = d.signal? j := by
  induction clones with
  | rel i j cloned =>
      obtain ⟨x, signal, bound⟩ := mirrors.born.bound i _ cloned
      cases bound with
      | cloned original => rw [signal, original]
  | refl => rfl
  | symm _ _ _ ih => exact ih.symm
  | trans _ _ _ _ _ first second => exact first.trans second

theorem born_of_childOf (mirrors : Mirrors steps d)
    (child : ChildOf (ContextStep.births steps) i j) :
    ∃ x p, d.signal? i = some x ∧ d.signal? j = some p ∧ d.parents[x]? = some (some p) := by
  obtain ⟨i', j', near, derived, far⟩ := child
  obtain ⟨x, signal, bound⟩ := mirrors.born.bound i' _ derived
  cases bound with
  | @derived _ p parent born =>
      refine ⟨x, p, ?_, ?_, born⟩
      · rw [mirrors.signal?_of_clones near, signal]
      · rw [← mirrors.signal?_of_clones far, parent]

/-- The signal of a context that another one was derived from is above that one's. -/
theorem above_of_derivedFrom (mirrors : Mirrors steps d)
    (derived : DerivedFrom (ContextStep.births steps) i j) :
    ∃ x p, d.signal? i = some x ∧ d.signal? j = some p ∧ p < x ∧
      Descends d.parents (fun _ => True) p x := by
  have older := mirrors.holders.family.older
  induction derived with
  | single child =>
      obtain ⟨x, p, signal, above, born⟩ := mirrors.born_of_childOf child
      exact ⟨x, p, signal, above, older x p born, .child .refl born trivial⟩
  | tail _ child ih =>
      obtain ⟨x, p, signal, middle, less, line⟩ := ih
      obtain ⟨p', q, middle', above, born⟩ := mirrors.born_of_childOf child
      cases middle.symm.trans middle'
      exact ⟨x, q, signal, above, (older p q born).trans less,
        Descends.trans (.child .refl born trivial) line⟩

/-- A context that has not been dropped reads as what its history makes of a new one. -/
theorem view?_eq (mirrors : Mirrors steps d) (here : d.context? i = some c) :
    ∃ changes, (ContextStep.histories steps)[i]? = some changes ∧
      d.view? i = some (ContextChange.applyAll changes (.withSignal c.plain.signal)) := by
  obtain ⟨changes, found, stands, covered⟩ := mirrors.stands here
  refine ⟨changes, found, ?_⟩
  have owned : ∀ id ∈ c.refs.values, 0 < d.cells.owners id := fun id member =>
    Nat.lt_of_lt_of_le (List.count_pos_iff.mpr member) (covered id)
  rw [view?, here, Option.map_some, stands.represents.view_eq owned]
  rfl

end Mirrors

/-! ## What is left alone -/

/-- A step leaves the context of a slot as it is unless it is one on that context. -/
theorem context?_step (leads : d.Leads s d') (untouched : ¬ s.Touches i)
    (here : d.context? i = some c) : d'.context? i = some c := by
  have slot := context?_eq_some_iff.mp here
  rw [context?_eq_some_iff]
  cases leads with
  | create | derive | clone => exact getElem?_concat_old slot
  | drop | change => exact (List.getElem?_set_ne untouched).trans slot
  | cancel => exact slot

theorem record_untouched {histories : List (List ContextChange)} {changes : List ContextChange}
    (untouched : ¬ s.Touches i) (found : histories[i]? = some changes) :
    (s.record histories)[i]? = some changes := by
  cases s with
  | create | derive | clone => exact getElem?_concat_old found
  | drop | cancel => exact found
  | change j made =>
      have other : j ≠ i := untouched
      rw [ContextStep.record, List.getElem?_modify_ne _ _ other, found]

/-- What the owner of a context sees changes by steps on that context only. -/
theorem view?_step (mirrors : Mirrors steps d) (leads : d.Leads s d') (untouched : ¬ s.Touches i)
    (here : d.context? i = some c) : d'.view? i = d.view? i := by
  obtain ⟨changes, found, view⟩ := mirrors.view?_eq here
  obtain ⟨changes', found', view'⟩ :=
    (mirrors.step leads).view?_eq (context?_step leads untouched here)
  rw [ContextStep.histories_snoc, record_untouched untouched found] at found'
  cases found'
  rw [view, view']

theorem view?_run {further : List ContextStep} (mirrors : Mirrors steps d)
    (allowed : d.AllowsAll further) (untouched : ∀ s ∈ further, ¬ s.Touches i)
    (here : d.context? i = some c) : (d.run further).view? i = d.view? i := by
  induction further generalizing steps d with
  | nil => rfl
  | cons s rest ih =>
      obtain ⟨first, later⟩ := List.forall_mem_cons.mp untouched
      have leads := leads_step allowed.1
      refine (ih (mirrors.step leads) allowed.2 later (context?_step leads first here)).trans ?_
      exact view?_step mirrors leads first here

/-- A clone reads as its original. -/
theorem view?_clone (mirrors : Mirrors steps d) (here : d.context? i = some c)
    (leads : d.Leads (.clone i) d') :
    d'.context? d.slots.length = some c ∧ d'.view? d.slots.length = d.view? i := by
  have new : d'.context? d.slots.length = some c := by
    rw [← leads.step_eq, Leads.step_eq (.clone here), context?_eq_some_iff]
    exact List.getElem?_concat_length
  obtain ⟨changes, found, view⟩ := mirrors.view?_eq here
  obtain ⟨changes', found', view'⟩ := (mirrors.step leads).view?_eq new
  have size : (ContextStep.histories steps).length = d.slots.length := mirrors.shows.length_eq.symm
  have same : (ContextStep.histories steps).getD i [] = changes := by
    rw [List.getD_eq_getElem?_getD, found, Option.getD_some]
  rw [ContextStep.histories_snoc, ContextStep.record, same, ← size,
    List.getElem?_concat_length] at found'
  cases found'
  exact ⟨new, view'.trans view.symm⟩

/-- A change is seen by the owner of the context as the same change to a context of its own. -/
theorem view?_change (mirrors : Mirrors steps d) (here : d.context? i = some c)
    {made : ContextChange} (leads : d.Leads (.change i made) d') :
    d'.view? i = (d.view? i).map made.apply := by
  have slot := context?_eq_some_iff.mp here
  have new : d'.context? i = some (c.change d.cells made).2 := by
    rw [← leads.step_eq, Leads.step_eq (.change here made), context?_eq_some_iff]
    exact List.getElem?_set_self (List.getElem?_eq_some_iff.mp slot).1
  obtain ⟨changes, found, view⟩ := mirrors.view?_eq here
  obtain ⟨changes', found', view'⟩ := (mirrors.step leads).view?_eq new
  rw [ContextStep.histories_snoc, ContextStep.record, List.getElem?_modify_eq, found] at found'
  cases found'
  rw [view', view, ContextChange.applyAll_concat, SharedContext.signal_change]
  rfl

/-! ## Cancellations -/

/-- What a step does to the signals is what one of those who hold them does. -/
theorem signals_step (leads : d.Leads s d') :
    d'.signals = d.signals ∨ ∃ t, d.holders.Allows t ∧
      d'.signals = (d.holders.step t).signals ∧ ∀ a, t.Cancels a → ∃ i, s = .cancel i := by
  cases leads with
  | create => exact .inr ⟨.create, trivial, rfl, nofun⟩
  | @derive i c here => exact .inr ⟨.child c.plain.signal, signal_mem_handles here, rfl, nofun⟩
  | @clone i c here => exact .inr ⟨.clone c.plain.signal, signal_mem_handles here, rfl, nofun⟩
  | @drop i c here => exact .inr ⟨.drop c.plain.signal, signal_mem_handles here, rfl, nofun⟩
  | @cancel i c here =>
      exact .inr ⟨.cancel c.plain.signal, signal_mem_handles here, rfl, fun _ _ => ⟨i, rfl⟩⟩
  | change => exact .inl rfl

theorem isCancelled_step {x : Nat} (sound : d.holders.Sound) (leads : d.Leads s d')
    (cancelled : d.signals.isCancelled x = true) : d'.signals.isCancelled x = true := by
  rcases signals_step leads with same | ⟨t, held, same, -⟩
  · rw [same]
    exact cancelled
  · rw [same]
    exact SignalHolders.isCancelled_of_step sound held cancelled

theorem cancelled_step (sound : d.holders.Sound) (leads : d.Leads s d')
    (cancelled : d.Cancelled i) : d'.Cancelled i := by
  obtain ⟨x, signal, fired⟩ := cancelled
  exact ⟨x, (kin_step leads).1 i x signal, isCancelled_step sound leads fired⟩

theorem cancelled_run {further : List ContextStep} (mirrors : Mirrors steps d)
    (allowed : d.AllowsAll further) (cancelled : d.Cancelled i) : (d.run further).Cancelled i := by
  induction further generalizing steps d with
  | nil => exact cancelled
  | cons s rest ih =>
      have leads := leads_step allowed.1
      exact ih (mirrors.step leads) allowed.2 (cancelled_step mirrors.holders leads cancelled)

/-- The context that is cancelled through is cancelled. -/
theorem cancelled_self (sound : d.holders.Sound) (leads : d.Leads (.cancel i) d') :
    d'.Cancelled i := by
  cases leads with
  | @cancel _ c here =>
      refine ⟨c.plain.signal, signal?_of_context? here, ?_⟩
      have held : d.holders.Held c.plain.signal := .inl (signal_mem_handles here)
      exact (SignalHolders.isCancelled_cancel sound held _).mpr (.inr .refl)

/-- A cancellation leaves the signals above alone. -/
theorem cancelled_above (mirrors : Mirrors steps d) (leads : d.Leads (.cancel i) d')
    (derived : DerivedFrom (ContextStep.births steps) i j) : d'.Cancelled j ↔ d.Cancelled j := by
  have sound := mirrors.holders
  obtain ⟨x, p, signal, above, less, line⟩ := mirrors.above_of_derivedFrom derived
  cases leads with
  | @cancel _ c here =>
      cases signal.symm.trans (signal?_of_context? here)
      have apart : Apart d.parents c.plain.signal p := .ancestor (Nat.ne_of_lt less) line
      have same : (d.signals.cancel c.plain.signal).node p = d.signals.node p :=
        Signals.cancel_node sound.family (sound.within_of_handle (signal_mem_handles here))
          (apart.not_descends sound.family.older)
      refine exists_congr fun q => and_congr_right fun signal => ?_
      cases above.symm.trans signal
      rw [Signals.isCancelled, same, Signals.isCancelled]

/-- Nothing but a cancellation cancels a context. -/
theorem cancelled_other (sound : d.holders.Sound) (leads : d.Leads s d')
    (other : ∀ i, s ≠ .cancel i) (here : d.context? j = some c) :
    d'.Cancelled j ↔ d.Cancelled j := by
  have signal := signal?_of_context? here
  have signal' := (kin_step leads).1 j _ signal
  have still : d'.signals.isCancelled c.plain.signal = true ↔
      d.signals.isCancelled c.plain.signal = true := by
    rcases signals_step leads with same | ⟨t, held, same, cancels⟩
    · rw [same]
    · have old : c.plain.signal < d.holders.parents.length := by
        rw [sound.family.size]
        exact sound.within_of_handle (signal_mem_handles here)
      rw [same]
      exact SignalHolders.isCancelled_step_old sound held old fun a cancel =>
        have ⟨i, same⟩ := cancels a cancel
        other i same
  constructor
  · rintro ⟨x, found, fired⟩
    cases signal'.symm.trans found
    exact ⟨_, signal, still.mp fired⟩
  · rintro ⟨x, found, fired⟩
    cases signal.symm.trans found
    exact ⟨_, signal', still.mpr fired⟩

/-! ## The whole -/

/-- What those who have contexts can rely on after a run. -/
structure Isolated (steps : List ContextStep) (d : ContextPool) : Prop where
  /-- A context is what its own history has made of a new one, and its deadline is the earliest that
  has been set there. -/
  history : ∀ i c, d.context? i = some c → ∃ changes,
    (ContextStep.histories steps)[i]? = some changes ∧
      d.view? i = some (ContextChange.applyAll changes (.withSignal c.plain.signal)) ∧
      (ContextChange.applyAll changes (.withSignal c.plain.signal)).deadline =
        (ContextChange.deadlines changes).min?
  changed : ∀ i made, d.Allows (.change i made) →
    (d.step (.change i made)).view? i = (d.view? i).map made.apply
  /-- What is done to others is not seen in a context. -/
  frame : ∀ i further, (d.context? i).isSome → d.AllowsAll further →
    (∀ s ∈ further, ¬ s.Touches i) → (d.run further).view? i = d.view? i
  /-- A clone has what its original had, whatever becomes of that one. -/
  cloned : ∀ i further, d.AllowsAll (.clone i :: further) →
    (∀ s ∈ further, ¬ s.Touches d.slots.length) →
    (d.run (.clone i :: further)).view? d.slots.length = d.view? i
  /-- A value is there for as long as a context refers to it. -/
  owned : ∀ id, d.cells.owners id = (d.slots.map ContextSlot.references).flatten.count id
  /-- A cancellation reaches the clones, also those that are made later. -/
  shared : ∀ i j further, d.AllowsAll (.cancel i :: further) →
    Clones (ContextStep.births (steps ++ .cancel i :: further)) i j →
    (d.run (.cancel i :: further)).Cancelled j
  above : ∀ i j, d.Allows (.cancel i) → DerivedFrom (ContextStep.births steps) i j →
    ((d.step (.cancel i)).Cancelled j ↔ d.Cancelled j)
  others : ∀ s j, d.Allows s → (∀ i, s ≠ .cancel i) → (d.context? j).isSome →
    ((d.step s).Cancelled j ↔ d.Cancelled j)

theorem Mirrors.isolated (mirrors : Mirrors steps d) : Isolated steps d where
  history i c here := by
    obtain ⟨changes, found, view⟩ := mirrors.view?_eq here
    exact ⟨changes, found, view, ContextChange.deadline_applyAll changes _⟩
  changed i made allowed := by
    obtain ⟨c, here⟩ := Option.isSome_iff_exists.mp allowed
    exact view?_change mirrors here (leads_step allowed)
  frame i further living allowed untouched := by
    obtain ⟨c, here⟩ := Option.isSome_iff_exists.mp living
    exact view?_run mirrors allowed untouched here
  cloned i further allowed untouched := by
    obtain ⟨c, here⟩ := Option.isSome_iff_exists.mp allowed.1
    have leads := leads_step allowed.1
    obtain ⟨new, same⟩ := view?_clone mirrors here leads
    exact (view?_run (mirrors.step leads) allowed.2 untouched new).trans same
  owned := mirrors.counts
  shared i j further allowed clones := by
    have leads := leads_step allowed.1
    obtain ⟨x, signal, fired⟩ := cancelled_run (mirrors.step leads) allowed.2
      (cancelled_self mirrors.holders leads)
    have same := (mirrors.run allowed).signal?_of_clones clones
    exact ⟨x, same.symm.trans signal, fired⟩
  above i j allowed derived := cancelled_above mirrors (leads_step allowed) derived
  others s j allowed other living := by
    obtain ⟨c, here⟩ := Option.isSome_iff_exists.mp living
    exact cancelled_other mirrors.holders (leads_step allowed) other here

/-- Contexts are isolated after every run. Around a handler the context is the one that it was called
with, whatever the handler has done to its own, and the signals are as the handler has left them. -/
theorem contexts_isolated {steps : List ContextStep} (allowed : AllowsAll {} steps) :
    Isolated steps (run {} steps) ∧
      ∀ (handler : Handler) (request : Request) (flow : Flow),
        ((Next.endpoint handler).run request flow).2.context = flow.context ∧
        ((Next.endpoint handler).run request flow).2.site.signals =
          (handler flow.context request flow.site).2.signals := by
  constructor
  · exact (mirrors_start.run allowed).isolated
  · exact Next.endpoint_keeps

/-- A clone keeps a value that its original has given up, and has a deadline of its own. A context is
bound to a child of the clone's signal: cancelling through that one leaves both alone, and cancelling
through the original reaches the clone. -/
theorem contexts_isolated_value_given_up :
    let steps : List ContextStep := [.create, .change 0 (.put "quota" (Json.ofNat 5)),
      .change 0 (.deadline 50), .clone 0, .derive 1, .change 0 (.take "quota"),
      .change 1 (.deadline 20), .change 1 (.deadline 70)]
    let d : ContextPool := run {} steps
    AllowsAll {} steps ∧ d.view? 0 = some { deadline := some 50, signal := 0 } ∧
      d.view? 1 = some { deadline := some 20, signal := 0,
                         extensions := [("quota", Json.ofNat 5)] } ∧
      ((d.step (.cancel 2)).Cancelled 0 ↔ d.Cancelled 0) ∧ (d.step (.cancel 0)).Cancelled 1 := by
  intro steps d
  have allowed : AllowsAll {} steps := by decide
  have isolated := (contexts_isolated allowed).1
  have original : d.view? 0 = some { deadline := some 50, signal := 0 } := by
    obtain ⟨changes, found, view, -⟩ :=
      isolated.history 0 ⟨{ deadline := some 50, signal := 0 }, []⟩ rfl
    cases found
    exact view
  have clone : d.view? 1 = some { deadline := some 20, signal := 0,
                                  extensions := [("quota", Json.ofNat 5)] } := by
    obtain ⟨changes, found, view, -⟩ :=
      isolated.history 1 ⟨{ deadline := some 20, signal := 0 }, [("quota", 0)]⟩ rfl
    cases found
    exact view
  have kin : Clones (ContextStep.births steps) 1 0 := .rel 1 0 rfl
  have derived : DerivedFrom (ContextStep.births steps) 2 0 :=
    .single ⟨2, 1, .refl 2, rfl, kin⟩
  have cancels : AllowsAll d [.cancel 0] := by decide
  exact ⟨allowed, original, clone, isolated.above 2 0 (by decide) derived,
    isolated.shared 0 1 [] cancels (.symm _ _ kin)⟩

end ContextPool

end HttpService

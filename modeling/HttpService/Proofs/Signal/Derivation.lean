import HttpService.Proofs.Signal.Propagation

/-!
# Making signals and holding them

What making a signal, deriving one, and taking or giving back a handle do to the cancellations and to
the lines of descent. A derived signal starts as its parent is; nothing else is cancelled by any of
them.
-/

namespace HttpService

theorem Parents.born_snoc {parents : Parents} {last : Option Nat} {x p : Nat} :
    (parents ++ [last])[x]? = some (some p) ↔
      parents[x]? = some (some p) ∨ x = parents.length ∧ last = some p := by
  rw [List.getElem?_append]
  by_cases old : x < parents.length
  · simp [old, Nat.ne_of_lt old]
  · by_cases new : x = parents.length
    · simp [new]
    · have beyond : x - parents.length ≠ 0 := by omega
      simp [old, new, beyond]

theorem Parents.lt_of_born {parents : Parents} {x p : Nat} (born : parents[x]? = some (some p)) :
    x < parents.length :=
  (List.getElem?_eq_some_iff.mp born).1

namespace Signals

variable {f g : Signals} {parents : Parents} {id i p : Nat} {unfinished : Nat → Prop}

theorem isCancelled_beyond (beyond : f.nodes.length ≤ i) : f.isCancelled i = false := by
  unfold isCancelled
  rw [node_beyond beyond]

/-! ## Handles -/

/-- Two states that differ in handles alone, the second with no more living signals. -/
structure Fades (f g : Signals) : Prop where
  size : g.nodes.length = f.nodes.length
  isCancelled : ∀ i, g.isCancelled i = f.isCancelled i
  children : ∀ i, (g.node i).children = (f.node i).children
  isAlive : ∀ i, g.isAlive i = true → f.isAlive i = true

theorem Family.fades (family : Family parents f) (fades : Fades f g) : Family parents g where
  size := family.size.trans fades.size.symm
  older := family.older
  own p x member := family.own p x (fades.children p ▸ member)
  linked p x born alive open' := by
    rw [fades.children p]
    rw [fades.isCancelled p] at open'
    exact family.linked p x born (fades.isAlive x alive) open'

theorem Inherits.fades (inherits : Inherits parents unfinished f) (fades : Fades f g) :
    Inherits parents unfinished g := by
  intro p x born alive cancelled finished
  rw [fades.isCancelled] at cancelled ⊢
  exact inherits p x born (fades.isAlive x alive) cancelled finished

/-- Gives a signal another number of handles. -/
def withHandles (f : Signals) (id handles : Nat) : Signals :=
  f.setNode id { f.node id with handles := handles }

theorem handles_withHandles (within : id < f.nodes.length) (handles i : Nat) :
    ((f.withHandles id handles).node i).handles =
      if i = id then handles else (f.node i).handles := by
  unfold withHandles
  rw [node_setNode]
  by_cases same : i = id <;> simp [same, within]

theorem fades_withHandles (id handles : Nat) (held : 0 < handles → f.isAlive id = true) :
    Fades f (f.withHandles id handles) where
  size := length_setNode ..
  isCancelled i := by
    unfold withHandles isCancelled
    rw [node_setNode]
    split
    · next same => rw [same.1]
    · rfl
  children i := by
    unfold withHandles
    rw [node_setNode]
    split
    · next same => rw [same.1]
    · rfl
  isAlive i alive := by
    unfold withHandles Signals.isAlive at alive
    rw [node_setNode] at alive
    split at alive
    · next same => exact same.1 ▸ held (of_decide_eq_true alive)
    · exact alive

theorem fades_hold (alive : f.isAlive id = true) : Fades f (f.hold id) :=
  fades_withHandles id _ fun _ => alive

theorem fades_release (f : Signals) (id : Nat) : Fades f (f.release id) :=
  fades_withHandles id _ fun left => decide_eq_true (Nat.lt_of_lt_of_le left (Nat.sub_le _ 1))

theorem handles_hold (within : id < f.nodes.length) (i : Nat) :
    ((f.hold id).node i).handles = (f.node i).handles + if i = id then 1 else 0 := by
  refine (handles_withHandles within _ i).trans ?_
  by_cases same : i = id <;> simp [same]

theorem handles_release (within : id < f.nodes.length) (i : Nat) :
    ((f.release id).node i).handles = (f.node i).handles - if i = id then 1 else 0 := by
  refine (handles_withHandles within _ i).trans ?_
  by_cases same : i = id <;> simp [same]

/-! ## New signals -/

theorem handles_create (f : Signals) (i : Nat) :
    (f.create.1.node i).handles = if i = f.nodes.length then 1 else (f.node i).handles := by
  rw [node_create]
  split <;> rfl

theorem isCancelled_create (f : Signals) (i : Nat) : f.create.1.isCancelled i = f.isCancelled i := by
  unfold isCancelled
  rw [node_create]
  split
  · next new => rw [node_beyond (Nat.le_of_eq new.symm)]
  · rfl

theorem isAlive_create (i : Nat) (old : i ≠ f.nodes.length) : f.create.1.isAlive i = f.isAlive i := by
  unfold isAlive
  rw [node_create, if_neg old]

theorem Family.create (family : Family parents f) : Family (parents ++ [none]) f.create.1 where
  size := by simp [Signals.create, family.size]
  older x p born := by
    obtain born | ⟨-, none⟩ := Parents.born_snoc.mp born
    · exact family.older x p born
    · cases none
  own p x member := by
    rw [node_create] at member
    split at member
    · cases member
    · exact Parents.born_snoc.mpr (.inl (family.own p x member))
  linked p x born alive open' := by
    obtain born | ⟨-, none⟩ := Parents.born_snoc.mp born
    · have within := Parents.lt_of_born born
      have olderOne := family.older x p born
      rw [family.size] at within
      rw [isAlive_create x (by omega)] at alive
      rw [isCancelled_create] at open'
      rw [node_create, if_neg (by omega)]
      exact family.linked p x born alive open'
    · cases none

theorem Inherits.create (size : parents.length = f.nodes.length)
    (inherits : Inherits parents unfinished f) :
    Inherits (parents ++ [none]) unfinished f.create.1 := by
  intro p x born alive cancelled finished
  obtain born | ⟨-, none⟩ := Parents.born_snoc.mp born
  · have within := Parents.lt_of_born born
    rw [isAlive_create x (by omega)] at alive
    rw [isCancelled_create] at cancelled ⊢
    exact inherits p x born alive cancelled finished
  · cases none

/-! ## Derived signals -/

/-- A new signal among the children of its parent, before the parent's state is looked at. -/
def attach (f : Signals) (p : Nat) : Signals :=
  f.create.1.setNode p { f.create.1.node p with
    children := (f.create.1.node p).children.filter f.create.1.isAlive ++ [f.nodes.length] }

theorem child_eq (f : Signals) (p : Nat) :
    f.child p =
      (if (f.attach p).isCancelled p then (f.attach p).cancel f.nodes.length else f.attach p,
        f.nodes.length) :=
  rfl

theorem length_attach (f : Signals) (p : Nat) : (f.attach p).nodes.length = f.nodes.length + 1 := by
  simp [attach, create]

theorem node_attach (within : p < f.nodes.length) (i : Nat) :
    (f.attach p).node i =
      if i = p then { f.node p with
        children := (f.node p).children.filter f.create.1.isAlive ++ [f.nodes.length] }
      else f.create.1.node i := by
  have longer : p < f.create.1.nodes.length := by simp [create]; omega
  have old : f.create.1.node p = f.node p := by rw [node_create, if_neg (by omega)]
  unfold attach
  rw [node_setNode, old]
  by_cases same : i = p <;> simp [same, longer]

theorem isCancelled_attach (within : p < f.nodes.length) (i : Nat) :
    (f.attach p).isCancelled i = f.isCancelled i := by
  unfold isCancelled
  rw [node_attach within]
  split
  · next same => rw [same]
  · exact isCancelled_create f i

theorem handles_attach (within : p < f.nodes.length) (i : Nat) :
    ((f.attach p).node i).handles = if i = f.nodes.length then 1 else (f.node i).handles := by
  rw [node_attach within]
  split
  · next same => rw [same, if_neg (by omega)]
  · exact handles_create f i

theorem isAlive_attach (within : p < f.nodes.length) (old : i ≠ f.nodes.length) :
    (f.attach p).isAlive i = f.isAlive i := by
  unfold isAlive
  rw [handles_attach within, if_neg old]

theorem Family.attach (family : Family parents f) (within : p < f.nodes.length) :
    Family (parents ++ [some p]) (f.attach p) where
  size := by simp [length_attach, family.size]
  older x q born := by
    obtain born | ⟨rfl, same⟩ := Parents.born_snoc.mp born
    · exact family.older x q born
    · cases same
      rw [family.size]
      exact within
  own q x member := by
    rw [node_attach within] at member
    split at member
    · next same =>
        subst same
        obtain old | new := List.mem_append.mp member
        · exact Parents.born_snoc.mpr (.inl (family.own q x (List.mem_of_mem_filter old)))
        · rw [List.mem_singleton.mp new, ← family.size]
          exact Parents.born_snoc.mpr (.inr ⟨rfl, rfl⟩)
    · obtain born | ⟨-, none⟩ := Parents.born_snoc.mp (family.create.own q x member)
      · exact Parents.born_snoc.mpr (.inl born)
      · cases none
  linked q x born alive open' := by
    rw [isCancelled_attach within] at open'
    rw [node_attach within]
    obtain born | ⟨rfl, same⟩ := Parents.born_snoc.mp born
    · have young := Parents.lt_of_born born
      have olderOne := family.older x q born
      rw [family.size] at young
      rw [isAlive_attach within (by omega)] at alive
      have stored := family.linked q x born alive open'
      split
      · next same =>
          subst same
          have kept : f.create.1.isAlive x = true := by rw [isAlive_create x (by omega), alive]
          exact List.mem_append_left _ (List.mem_filter.mpr ⟨stored, kept⟩)
      · rw [node_create, if_neg (by omega)]
        exact stored
    · cases same
      rw [if_pos rfl, family.size]
      exact List.mem_append_right _ (List.mem_singleton_self _)

/-- The new child may not have what its parent has. -/
theorem Inherits.attach (size : parents.length = f.nodes.length) (within : p < f.nodes.length)
    (inherits : Inherits parents (fun _ => False) f) :
    Inherits (parents ++ [some p]) (· = p) (f.attach p) := by
  intro q x born alive cancelled other
  obtain born | ⟨-, same⟩ := Parents.born_snoc.mp born
  · have young := Parents.lt_of_born born
    rw [isAlive_attach within (by omega)] at alive
    rw [isCancelled_attach within] at cancelled ⊢
    exact inherits q x born alive cancelled not_false
  · cases same
    exact absurd rfl other

/-- Deriving changes nothing but the new signal. -/
theorem child_marks (family : Family parents f) (within : p < f.nodes.length) :
    Marks (· = f.nodes.length) (f.attach p) (f.child p).1 := by
  rw [child_eq]
  split
  · have attached := family.attach within
    have new : f.nodes.length < (f.attach p).nodes.length := by rw [length_attach]; omega
    refine (cancel_marks attached new).weaken fun i line => ?_
    cases line with
    | refl => rfl
    | @child q _ upper born _ =>
        -- Nothing descends from the signal that was made last.
        have young := Parents.lt_of_born born
        have bottom : f.nodes.length ≤ q := by
          clear born young
          induction upper with
          | refl => exact Nat.le_refl _
          | child _ born _ ih => exact Nat.le_trans ih (Nat.le_of_lt (attached.older _ _ born))
        have older := attached.older _ _ born
        rw [attached.size, length_attach] at young
        omega
  · exact .refl ..

theorem handles_child (family : Family parents f) (within : p < f.nodes.length) (i : Nat) :
    ((f.child p).1.node i).handles = if i = f.nodes.length then 1 else (f.node i).handles := by
  rw [(child_marks family within).handles, handles_attach within]

/-- A derived signal starts cancelled if its parent is, and no other changes. -/
theorem isCancelled_child (family : Family parents f) (within : p < f.nodes.length)
    (inherits : Inherits parents (fun _ => False) f) (i : Nat) :
    (f.child p).1.isCancelled i = if i = f.nodes.length then f.isCancelled p else f.isCancelled i := by
  have marks := child_marks family within
  by_cases new : i = f.nodes.length
  · subst new
    rw [if_pos rfl, child_eq]
    cases cancelled : f.isCancelled p with
    | true =>
        rw [if_pos (by rw [isCancelled_attach within, cancelled])]
        refine (cancelFrom_inherits _ (family.attach within) ?_ ?_
          (inherits.attach family.size within)).2 <;> rw [length_attach] <;> omega
    | false =>
        rw [if_neg (by rw [isCancelled_attach within, cancelled]; decide), isCancelled_attach within,
          isCancelled_beyond (Nat.le_refl _)]
  · rw [if_neg new, ← isCancelled_attach within]
    refine Bool.eq_iff_iff.mpr ⟨fun after => ?_, marks.kept i⟩
    exact (marks.fresh i after).resolve_right new

theorem Family.child (family : Family parents f) (within : p < f.nodes.length) :
    Family (parents ++ [some p]) (f.child p).1 :=
  (family.attach within).marks (child_marks family within)

theorem Inherits.child (family : Family parents f) (within : p < f.nodes.length)
    (inherits : Inherits parents (fun _ => False) f) :
    Inherits (parents ++ [some p]) (fun _ => False) (f.child p).1 := by
  intro q x born alive cancelled _
  obtain born | ⟨rfl, same⟩ := Parents.born_snoc.mp born
  · have young := Parents.lt_of_born born
    have older := family.older x q born
    rw [family.size] at young
    rw [(child_marks family within).isAlive, isAlive_attach within (by omega)] at alive
    rw [isCancelled_child family within inherits, if_neg (by omega)] at cancelled ⊢
    exact inherits q x born alive cancelled not_false
  · cases same
    rw [isCancelled_child family within inherits, if_neg (by omega)] at cancelled
    rw [isCancelled_child family within inherits, family.size, if_pos rfl]
    exact cancelled

end Signals

end HttpService

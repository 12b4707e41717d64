import HttpService.Context
import HttpService.Proofs.Table
import Mathlib.Data.Nat.SuccPred

/-!
# Extensions that contexts share

A copy of a context does not copy the values of its extensions. Both refer to the same cells, and a
cell counts its owners: the value is gone when the last of them lets go of it. A context in this form
represents one that has its values itself, and every change keeps it so.
-/

namespace HttpService

/-! ## Cells -/

/-- A value that contexts share, and how many of them own it. -/
structure Cell where
  content : Json
  owners : Nat

/-- All cells that were ever made, by number. -/
abbrev Cells := List Cell

namespace Cells

variable {cs cs' : Cells} {id i : Nat} {value : Json}

/-- A new cell with one owner. -/
def allocate (cs : Cells) (value : Json) : Cells × Nat :=
  (cs ++ [⟨value, 1⟩], cs.length)

/-- Another number of owners for a cell. -/
def recount (cs : Cells) (f : Nat → Nat) (id : Nat) : Cells :=
  cs.modify id fun c => { c with owners := f c.owners }

def recountAll (cs : Cells) (f : Nat → Nat) (ids : List Nat) : Cells :=
  ids.foldl (fun cs id => cs.recount f id) cs

/-- One more owner for each of some cells. -/
def holdAll (cs : Cells) (ids : List Nat) : Cells :=
  cs.recountAll (· + 1) ids

/-- One owner less for each of some cells. -/
def releaseAll (cs : Cells) (ids : List Nat) : Cells :=
  cs.recountAll (· - 1) ids

def owners (cs : Cells) (id : Nat) : Nat :=
  (cs[id]?.map Cell.owners).getD 0

/-- The value of a cell that is owned. -/
def value? (cs : Cells) (id : Nat) : Option Json :=
  cs[id]?.bind fun c => if c.owners = 0 then none else some c.content

/-- What was put into a cell, owned or not. -/
def content? (cs : Cells) (id : Nat) : Option Json :=
  cs[id]?.map Cell.content

theorem value?_of_owned (content : cs.content? id = some value) (owned : 0 < cs.owners id) :
    cs.value? id = some value := by
  unfold value? content? owners at *
  cases found : cs[id]? with
  | none => simp [found] at content
  | some c =>
      simp only [found, Option.map_some, Option.some.injEq, Option.getD_some] at content owned
      rw [Option.bind_some, if_neg (Nat.ne_of_gt owned), content]

/-- Cells are never filled again: what was put into one stays there. -/
def Extends (cs cs' : Cells) : Prop :=
  ∀ id value, cs.content? id = some value → cs'.content? id = some value

theorem Extends.refl (cs : Cells) : Extends cs cs :=
  fun _ _ content => content

theorem Extends.trans {cs'' : Cells} (first : Extends cs cs') (second : Extends cs' cs'') :
    Extends cs cs'' :=
  fun id value content => second id value (first id value content)

theorem extends_allocate (cs : Cells) (value : Json) : Extends cs (cs.allocate value).1 := by
  intro id content found
  unfold content? at *
  obtain ⟨c, here, same⟩ := Option.map_eq_some_iff.mp found
  rw [allocate, List.getElem?_append_left (List.getElem?_eq_some_iff.mp here).1, here, ← same]
  rfl

theorem content?_allocate (cs : Cells) (value : Json) :
    (cs.allocate value).1.content? (cs.allocate value).2 = some value := by
  simp [allocate, content?]

/-- Counting the owners leaves what is in the cells. -/
theorem content?_recount (cs : Cells) (f : Nat → Nat) (id i : Nat) :
    (cs.recount f id).content? i = cs.content? i := by
  unfold content? recount
  rw [List.getElem?_modify]
  split <;> cases cs[i]? <;> simp

theorem content?_recountAll (cs : Cells) (f : Nat → Nat) (ids : List Nat) (i : Nat) :
    (cs.recountAll f ids).content? i = cs.content? i := by
  induction ids generalizing cs with
  | nil => rfl
  | cons id ids ih => exact (ih _).trans (content?_recount cs f id i)

theorem extends_recountAll (cs : Cells) (f : Nat → Nat) (ids : List Nat) :
    Extends cs (cs.recountAll f ids) :=
  fun i _ content => (content?_recountAll cs f ids i).trans content

theorem owners_recount (f : Nat → Nat) (known : (cs.content? id).isSome) (i : Nat) :
    (cs.recount f id).owners i = if id = i then f (cs.owners i) else cs.owners i := by
  unfold owners recount
  unfold content? at known
  rw [List.getElem?_modify]
  split
  · next same =>
      subst same
      cases found : cs[id]? with
      | none => simp [found] at known
      | some c => simp
  · cases cs[i]? <;> simp

theorem owners_allocate (cs : Cells) (value : Json) (i : Nat) :
    (cs.allocate value).1.owners i = cs.owners i + [(cs.allocate value).2].count i := by
  unfold owners allocate
  rw [List.getElem?_append]
  split
  · next old => simp [Nat.ne_of_gt old]
  · next beyond =>
      have none : cs[i]? = none := List.getElem?_eq_none (Nat.le_of_not_lt beyond)
      by_cases new : cs.length = i
      · subst new
        simp
      · have after : i - cs.length ≠ 0 := by omega
        simp [none, new, after]

theorem owners_recountAll (f : Nat → Nat) {ids : List Nat}
    (known : ∀ id ∈ ids, (cs.content? id).isSome) (i : Nat) :
    (cs.recountAll f ids).owners i = f^[ids.count i] (cs.owners i) := by
  induction ids generalizing cs with
  | nil => rfl
  | cons id ids ih =>
      obtain ⟨here, later⟩ := List.forall_mem_cons.mp known
      refine (ih fun other member => ?_).trans ?_
      · rw [content?_recount]
        exact later other member
      · rw [owners_recount f here, List.count_cons]
        by_cases same : id = i
        · simp [same]
        · simp [same]

theorem owners_holdAll {ids : List Nat} (known : ∀ id ∈ ids, (cs.content? id).isSome) (i : Nat) :
    (cs.holdAll ids).owners i = cs.owners i + ids.count i :=
  (owners_recountAll _ known i).trans (Nat.succ_iterate ..)

theorem owners_releaseAll {ids : List Nat} (known : ∀ id ∈ ids, (cs.content? id).isSome)
    (i : Nat) : (cs.releaseAll ids).owners i = cs.owners i - ids.count i :=
  (owners_recountAll _ known i).trans (Nat.pred_iterate ..)

end Cells

/-! ## Changes to a context -/

inductive ContextChange
  | requestId (id : String)
  | user (u : User)
  | transactionId (id : String)
  | param (name value : String)
  | deadline (time : Nat)
  | remote (a : SocketAddress)
  | put (kind : String) (value : Json)
  | take (kind : String)

namespace ContextChange

def apply : ContextChange → Context → Context
  | requestId id, c => c.setRequestId id
  | user u, c => c.setUser u
  | transactionId id, c => c.setTransactionId id
  | param name value, c => c.insertParam name value
  | deadline time, c => c.setDeadline time
  | remote a, c => c.withRemote a
  | put kind value, c => c.putExtension kind value
  | take kind, c => (c.takeExtension kind).2

/-- One change after the other. -/
def applyAll (changes : List ContextChange) (c : Context) : Context :=
  changes.foldl (fun c change => change.apply c) c

theorem applyAll_concat (changes : List ContextChange) (change : ContextChange) (c : Context) :
    applyAll (changes ++ [change]) c = change.apply (applyAll changes c) := by
  simp [applyAll]

end ContextChange

/-! ## Contexts that refer to cells -/

/-- A context whose extensions are cells, by their kinds. -/
structure SharedContext where
  /-- All but the extensions. -/
  plain : Context
  refs : Table Nat

namespace SharedContext

/-- The context as its owner sees it. -/
def view (cs : Cells) (s : SharedContext) : Context :=
  { s.plain with
    extensions := s.refs.filterMap fun ref => (cs.value? ref.2).map fun value => (ref.1, value) }

/-- What a change does to a context and to the cells. A value that is put in gets a cell of its own,
and the cell that it takes the place of has one owner less. -/
def change (cs : Cells) (s : SharedContext) : ContextChange → Cells × SharedContext
  | .put kind value =>
      let (cs, id) := cs.allocate value
      (cs.releaseAll (s.refs.find? kind).toList, { s with refs := s.refs.insert kind id })
  | .take kind =>
      (cs.releaseAll (s.refs.find? kind).toList, { s with refs := s.refs.erase kind })
  | other => (cs, { s with plain := other.apply s.plain })

theorem signal_change (cs : Cells) (s : SharedContext) (change : ContextChange) :
    (s.change cs change).2.plain.signal = s.plain.signal := by
  cases change <;> rfl

/-- The context stands for one that has its values itself. -/
structure Represents (cs : Cells) (s : SharedContext) (c : Context) : Prop where
  plain_eq : s.plain = { c with extensions := [] }
  values : Table.Alike (fun id value => cs.content? id = some value) s.refs c.extensions

variable {cs cs' : Cells} {s : SharedContext} {c : Context}

theorem Represents.mono (represents : s.Represents cs c) (extend : cs.Extends cs') :
    s.Represents cs' c where
  plain_eq := represents.plain_eq
  values := represents.values.mono extend

/-- Cells that are owned are read as what was put into them. -/
theorem read_of_alike {refs : Table Nat} {entries : Table Json}
    (alike : refs.Alike (fun id value => cs.content? id = some value) entries)
    (owned : ∀ id ∈ refs.values, 0 < cs.owners id) :
    (refs.filterMap fun ref => (cs.value? ref.2).map fun value => (ref.1, value)) = entries := by
  induction alike with
  | nil => rfl
  | @cons ref entry refs entries here later ih =>
      obtain ⟨first, rest⟩ := List.forall_mem_cons.mp owned
      rw [List.filterMap_cons, Cells.value?_of_owned here.2 first, Option.map_some, here.1]
      exact congrArg (entry :: ·) (ih rest)

theorem Represents.view_eq (represents : s.Represents cs c)
    (owned : ∀ id ∈ s.refs.values, 0 < cs.owners id) : s.view cs = c := by
  unfold view
  rw [read_of_alike represents.values owned, represents.plain_eq]

/-- The cells of a context are known. -/
theorem Represents.known (represents : s.Represents cs c) :
    ∀ id ∈ s.refs.values, (cs.content? id).isSome := by
  intro id member
  obtain ⟨value, content⟩ := represents.values.related_of_mem member
  rw [content]
  rfl

/-- A change keeps what a context stands for, and nothing that was put into a cell is lost. -/
theorem Represents.change (represents : s.Represents cs c) (change : ContextChange) :
    cs.Extends (s.change cs change).1 ∧
      (s.change cs change).2.Represents (s.change cs change).1 (change.apply c) := by
  obtain ⟨plain, refs⟩ := s
  obtain ⟨rfl, values⟩ := represents
  cases change with
  | put kind value =>
      have grown := cs.extends_allocate value
      have released := (cs.allocate value).1.extends_recountAll (· - 1) (refs.find? kind).toList
      refine ⟨grown.trans released, rfl, ?_⟩
      exact (values.mono (grown.trans released)).insert kind
        (released _ _ (cs.content?_allocate value))
  | take kind =>
      have released := cs.extends_recountAll (· - 1) (refs.find? kind).toList
      exact ⟨released, rfl, (values.mono released).erase kind⟩
  | requestId | user | transactionId | param | deadline | remote => exact ⟨.refl cs, rfl, values⟩

theorem ascending_change (ascending : s.refs.Ascending) (cs : Cells) (change : ContextChange) :
    (s.change cs change).2.refs.Ascending := by
  cases change with
  | put kind value => exact ascending.insert kind _
  | take kind => exact ascending.erase kind
  | requestId | user | transactionId | param | deadline | remote => exact ascending

section

variable (ascending : s.refs.Ascending) (kind : String)

include ascending

/-- The cell under a kind is among those of the context. -/
theorem count_found_le (i : Nat) :
    (s.refs.find? kind).toList.count i ≤ s.refs.values.count i := by
  rw [← ascending.count_erase kind i]
  exact Nat.le_add_left ..

theorem known_found (represents : s.Represents cs c) :
    ∀ id ∈ (s.refs.find? kind).toList, (cs.content? id).isSome := by
  intro id member
  have counted := List.count_pos_iff.mpr member
  exact represents.known id
    (List.count_pos_iff.mp (Nat.lt_of_lt_of_le counted (count_found_le ascending kind id)))

end

/-- The owners that a change adds to a cell or takes from it are what the context has more or less of
references to it. -/
theorem Represents.owners_change (represents : s.Represents cs c) (ascending : s.refs.Ascending)
    (covered : ∀ id, s.refs.values.count id ≤ cs.owners id) (change : ContextChange) (i : Nat) :
    (s.change cs change).1.owners i + s.refs.values.count i =
      cs.owners i + (s.change cs change).2.refs.values.count i := by
  have enough := covered i
  cases change with
  | put kind value =>
      have known := known_found ascending kind (represents.mono (cs.extends_allocate value))
      have released := Cells.owners_releaseAll known i
      have allocated := cs.owners_allocate value i
      have inserted := ascending.count_insert kind (cs.allocate value).2 i
      have within := count_found_le ascending kind i
      change ((cs.allocate value).1.releaseAll _).owners i + _ =
        _ + (s.refs.insert kind (cs.allocate value).2).values.count i
      omega
  | take kind =>
      have released := Cells.owners_releaseAll (known_found ascending kind represents) i
      have erased := ascending.count_erase kind i
      have within := count_found_le ascending kind i
      change (cs.releaseAll _).owners i + _ = _ + (s.refs.erase kind).values.count i
      omega
  | requestId | user | transactionId | param | deadline | remote => rfl

end SharedContext

end HttpService

import HttpService.Table
import Mathlib.Data.List.Forall2
import Mathlib.Data.List.Induction
import Mathlib.Data.String.Basic

/-!
# Ascending tables

Insertion keeps the names of a table in strictly ascending order. In such a table a name stands at
most once, so an entry is found exactly if it is in the list.
-/

namespace HttpService.Table

variable {α β : Type}

/-- The names stand in strictly ascending order. -/
def Ascending (t : Table α) : Prop :=
  t.keys.Pairwise (· < ·)

theorem ascending_nil : Ascending ([] : Table α) :=
  List.Pairwise.nil

theorem ascending_cons {k : String} {v : α} {t : Table α} :
    Ascending ((k, v) :: t) ↔ (∀ k' ∈ t.keys, k < k') ∧ Ascending t :=
  List.pairwise_cons

theorem Ascending.nodup {t : Table α} (ascending : Ascending t) : t.keys.Nodup :=
  List.Pairwise.imp (fun smaller => ne_of_lt smaller) ascending

theorem mem_keys_insert {t : Table α} {key name : String} {value : α} :
    name ∈ (t.insert key value).keys ↔ name = key ∨ name ∈ t.keys := by
  induction t with
  | nil => simp [insert, keys]
  | cons entry rest ih =>
      obtain ⟨k, v⟩ := entry
      unfold insert
      split
      · simp [keys]
      · split
        · next same =>
            subst same
            simp [keys]
        · have step : name ∈ keys ((k, v) :: insert rest key value) ↔
              name = k ∨ name ∈ keys (insert rest key value) := List.mem_cons
          have whole : name ∈ keys ((k, v) :: rest) ↔ name = k ∨ name ∈ keys rest := List.mem_cons
          rw [step, ih, whole]
          exact or_left_comm

theorem Ascending.insert {t : Table α} (ascending : Ascending t) (key : String) (value : α) :
    Ascending (t.insert key value) := by
  induction t with
  | nil => simp [Table.insert, Ascending, keys]
  | cons entry rest ih =>
      obtain ⟨k, v⟩ := entry
      obtain ⟨above, tail⟩ := ascending_cons.mp ascending
      unfold Table.insert
      split
      · next before =>
          refine ascending_cons.mpr ⟨?_, ascending⟩
          intro name member
          rcases List.mem_cons.mp member with same | inside
          · exact same ▸ before
          · exact before.trans (above name inside)
      · next notBefore =>
          split
          · next same =>
              subst same
              exact ascending_cons.mpr ⟨above, tail⟩
          · next different =>
              have after : k < key := lt_of_le_of_ne (not_lt.mp notBefore) different
              refine ascending_cons.mpr ⟨?_, ih tail⟩
              intro name member
              rcases mem_keys_insert.mp member with same | inside
              · exact same ▸ after
              · exact above name inside

theorem length_insert {t : Table α} {key : String} (new : t.find? key = none) (value : α) :
    (t.insert key value).length = t.length + 1 := by
  induction t with
  | nil => rfl
  | cons entry rest ih =>
      obtain ⟨k, v⟩ := entry
      rw [find?] at new
      split at new
      · cases new
      · next other =>
          rw [insert, if_neg other]
          split
          · rfl
          · rw [List.length_cons, ih new, List.length_cons]

theorem ofList_snoc (entries : List (String × α)) (entry : String × α) :
    ofList (entries ++ [entry]) = (ofList entries).insert entry.1 entry.2 := by
  simp [ofList]

theorem ascending_ofList (entries : List (String × α)) : Ascending (ofList entries) := by
  induction entries using List.reverseRecOn with
  | nil => exact ascending_nil
  | append_singleton entries entry ih =>
      rw [ofList_snoc]
      exact ih.insert entry.1 entry.2

theorem insert_of_forall_lt {t : Table α} {key : String} (above : ∀ k ∈ t.keys, k < key)
    (value : α) : t.insert key value = t ++ [(key, value)] := by
  induction t with
  | nil => rfl
  | cons entry rest ih =>
      obtain ⟨k, v⟩ := entry
      obtain ⟨smaller, later⟩ := List.forall_mem_cons.mp above
      have same : k ≠ key := ne_of_lt smaller
      rw [insert, if_neg (lt_asymm smaller), if_neg same, ih later, List.cons_append]

/-- Setting the entries of an ascending table one after the other gives the table. -/
theorem ofList_of_ascending {t : Table α} (ascending : Ascending t) : ofList t = t := by
  induction t using List.reverseRecOn with
  | nil => rfl
  | append_singleton entries entry ih =>
      unfold Ascending keys at ascending
      rw [List.map_append, List.pairwise_append] at ascending
      obtain ⟨before, -, above⟩ := ascending
      rw [ofList_snoc, ih before]
      exact insert_of_forall_lt (fun k member => above k member entry.1 (by simp)) entry.2

theorem mem_keys_ofList {entries : List (String × α)} {name : String} :
    name ∈ (ofList entries).keys ↔ name ∈ entries.map Prod.fst := by
  induction entries using List.reverseRecOn with
  | nil => simp [ofList, keys]
  | append_singleton entries entry ih =>
      rw [ofList_snoc, mem_keys_insert, ih]
      simp [or_comm]

theorem keys_ofList_perm {entries : List (String × α)} (distinct : (entries.map Prod.fst).Nodup) :
    (ofList entries).keys.Perm (entries.map Prod.fst) :=
  (List.perm_ext_iff_of_nodup (ascending_ofList entries).nodup distinct).mpr
    fun _ => mem_keys_ofList

theorem find?_ofList {entries : List (String × α)} (distinct : (entries.map Prod.fst).Nodup)
    {entry : String × α} (member : entry ∈ entries) :
    (ofList entries).find? entry.1 = some entry.2 := by
  induction entries using List.reverseRecOn with
  | nil => cases member
  | append_singleton entries last ih =>
      rw [List.map_append, List.nodup_append] at distinct
      obtain ⟨before, -, apart⟩ := distinct
      rw [ofList_snoc, find?_insert]
      rcases List.mem_append.mp member with earlier | atEnd
      · have other : last.1 ≠ entry.1 := fun same =>
          apart entry.1 (List.mem_map_of_mem earlier) last.1 (by simp) same.symm
        rw [if_neg other]
        exact ih before earlier
      · rw [List.mem_singleton.mp atEnd, if_pos rfl]

theorem find?_eq_none_iff {t : Table α} {key : String} : t.find? key = none ↔ key ∉ t.keys := by
  induction t with
  | nil => simp [find?, keys]
  | cons entry rest ih =>
      obtain ⟨k, v⟩ := entry
      by_cases same : k = key
      · simp [find?, keys, same]
      · have other : key ≠ k := fun e => same e.symm
        rw [find?, if_neg same, ih]
        simp [keys, other]

theorem mem_keys_iff_isSome {t : Table α} {key : String} :
    key ∈ t.keys ↔ (t.find? key).isSome := by
  rw [← not_iff_not, ← find?_eq_none_iff]
  simp

/-- Replacing values and dropping some of the entries acts on each name alone. -/
theorem find?_filterMap_values {t : Table α} (nodup : t.keys.Nodup) (f : α → Option β)
    (key : String) :
    find? (t.filterMap fun entry => (f entry.2).map fun v => (entry.1, v)) key =
      (t.find? key).bind f := by
  induction t with
  | nil => rfl
  | cons entry rest ih =>
      obtain ⟨k, v⟩ := entry
      obtain ⟨fresh, tail⟩ := List.nodup_cons.mp nodup
      by_cases same : k = key
      · subst same
        have absent : find? rest k = none := find?_eq_none_iff.mpr fresh
        cases image : f v with
        | none => simp [find?, image, ih tail, absent]
        | some w => simp [find?, image]
      · cases image : f v with
        | none => simp [find?, image, ih tail, same]
        | some w => simp [find?, image, ih tail, same]

theorem Ascending.erase {t : Table α} (ascending : Ascending t) (key : String) :
    Ascending (t.erase key) :=
  List.Pairwise.sublist (List.filter_sublist.map Prod.fst) ascending

theorem erase_of_notMem {t : Table α} {key : String} (absent : key ∉ t.keys) :
    t.erase key = t := by
  refine List.filter_eq_self.mpr fun entry member => decide_eq_true fun same => absent ?_
  exact List.mem_map.mpr ⟨entry, member, same⟩

/-! ## Values that are counted -/

section

variable [DecidableEq α]

/-- Setting a name puts its value in the place of the one that it had. -/
theorem Ascending.count_insert {t : Table α} (ascending : Ascending t) (key : String)
    (value x : α) :
    (t.insert key value).values.count x + (t.find? key).toList.count x =
      t.values.count x + [value].count x := by
  induction t with
  | nil => simp [Table.insert, values, find?]
  | cons entry rest ih =>
      obtain ⟨k, v⟩ := entry
      obtain ⟨above, tail⟩ := ascending_cons.mp ascending
      unfold Table.insert
      split
      · next before =>
          have absent : find? ((k, v) :: rest) key = none := by
            refine find?_eq_none_iff.mpr fun member => ?_
            rcases List.mem_cons.mp member with same | inside
            · exact absurd before (same ▸ lt_irrefl _)
            · exact lt_asymm before (above key inside)
          rw [absent]
          simp only [values, List.map_cons, List.count_cons, List.count_nil, Option.toList_none]
          omega
      · split
        · next same =>
            subst same
            simp only [find?, if_true, values, List.map_cons, List.count_cons, List.count_nil,
              Option.toList_some]
            omega
        · next different =>
            have later := ih tail
            simp only [find?, if_neg different, values, List.map_cons, List.count_cons] at later ⊢
            omega

theorem Ascending.count_erase {t : Table α} (ascending : Ascending t) (key : String) (x : α) :
    (t.erase key).values.count x + (t.find? key).toList.count x = t.values.count x := by
  induction t with
  | nil => rfl
  | cons entry rest ih =>
      obtain ⟨k, v⟩ := entry
      obtain ⟨fresh, -⟩ := List.nodup_cons.mp ascending.nodup
      have tail := (ascending_cons.mp ascending).2
      by_cases same : k = key
      · subst same
        have gone : Table.erase ((k, v) :: rest) k = rest := by
          rw [Table.erase, List.filter_cons_of_neg (by simp)]
          exact erase_of_notMem fresh
        rw [gone]
        simp [find?, values, List.count_cons]
      · have kept : Table.erase ((k, v) :: rest) key = (k, v) :: Table.erase rest key :=
          List.filter_cons_of_pos (by simpa using same)
        have later := ih tail
        rw [kept]
        simp only [find?, if_neg same, values, List.map_cons, List.count_cons] at later ⊢
        omega

end

/-! ## Tables side by side -/

/-- The tables have the same names, and related values under them. -/
def Alike (R : α → β → Prop) (t : Table α) (u : Table β) : Prop :=
  List.Forall₂ (fun entry other => entry.1 = other.1 ∧ R entry.2 other.2) t u

namespace Alike

variable {R : α → β → Prop} {t : Table α} {u : Table β}

theorem mono {R' : α → β → Prop} (alike : Alike R t u) (weaker : ∀ v w, R v w → R' v w) :
    Alike R' t u :=
  alike.imp fun _ _ here => ⟨here.1, weaker _ _ here.2⟩

theorem related_of_mem (alike : Alike R t u) {v : α} (member : v ∈ t.values) : ∃ w, R v w := by
  induction alike with
  | nil => cases member
  | @cons entry other t u here later ih =>
      rcases List.mem_cons.mp member with rfl | inside
      · exact ⟨other.2, here.2⟩
      · exact ih inside

theorem insert (alike : Alike R t u) (key : String) {v : α} {w : β} (related : R v w) :
    Alike R (t.insert key v) (u.insert key w) := by
  induction alike with
  | nil => exact .cons ⟨rfl, related⟩ .nil
  | @cons entry other t u here later ih =>
      obtain ⟨k, v'⟩ := entry
      obtain ⟨k', w'⟩ := other
      obtain ⟨rfl, relatedHere⟩ : k = k' ∧ R v' w' := here
      unfold Table.insert
      split
      · exact .cons ⟨rfl, related⟩ (.cons ⟨rfl, relatedHere⟩ later)
      · split
        · exact .cons ⟨rfl, related⟩ later
        · exact .cons ⟨rfl, relatedHere⟩ ih

theorem erase (alike : Alike R t u) (key : String) : Alike R (t.erase key) (u.erase key) := by
  induction alike with
  | nil => exact .nil
  | @cons entry other t u here later ih =>
      obtain ⟨same, related⟩ := here
      unfold Table.erase
      by_cases gone : entry.1 = key
      · rw [List.filter_cons_of_neg (by simpa using gone),
          List.filter_cons_of_neg (by simpa using same ▸ gone)]
        exact ih
      · rw [List.filter_cons_of_pos (by simpa using gone),
          List.filter_cons_of_pos (by simpa using same ▸ gone)]
        exact .cons ⟨same, related⟩ ih

end Alike

end HttpService.Table

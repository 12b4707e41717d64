import HttpService.Proofs.Json.Real

/-!
# Records are read back

A record's object gives each field the document of the value that was written under its name, and an
open record skips the members that it does not know.
-/

namespace HttpService.Json

theorem read_render {α : Type} (r : Reader α) (j : Json) :
    read r j.render = r depthLimit j.document := by
  rw [read, render, String.toList_ofList, parse?_renderChars j.legible]

theorem Reader.bool_bool (level : Nat) (b : Bool) : bool level (document (.bool b)) = .ok b :=
  rfl

theorem Reader.string_text (level : Nat) (s : String) :
    string level (document (.text s)) = .ok s :=
  pieces_writtenPieces s

theorem Reader.option_text (level : Nat) (s : String) :
    option string level (document (.text s)) = .ok (some s) := by
  have read : option string level (document (.text s)) =
      (string level (document (.text s))).map some := rfl
  rw [read, string_text]
  rfl

/-- A number that fits in a word is read back by whoever takes it. -/
theorem Reader.natUpTo_ofNat {bound n : Nat} (level : Nat) (fits : n ≤ bound)
    (word : bound < Nat.pow 2 64) : natUpTo bound level (document (ofNat n)) = .ok n := by
  have value : (plain false n).value? = some (.natural n) :=
    value?_plain_of_lt false (Nat.lt_of_le_of_lt fits word)
  exact filterMap_eq_ok_iff.mpr ⟨.natural n, number_eq_ok_iff.mpr value, if_pos fits⟩

theorem Reader.items_texts (level : Nat) (ss : List String) :
    items string level (documents (ss.map .text)) = .ok ss := by
  induction ss with
  | nil => rfl
  | cons s ss ih =>
      rw [List.map_cons, documents, items, string_text, ih]
      rfl

theorem Reader.list_texts (level : Nat) (ss : List String) :
    list string (level + 1) (document (.array (ss.map .text))) = .ok ss :=
  items_texts level ss

/-- The document of each member of an object. -/
def written (ms : List (String × Json)) : List (String × Document) :=
  ms.map fun m => (m.1, m.2.document)

/-- The members that a record knows; an open record skips the others. -/
def known (names : List String) (ms : List (String × Json)) : List (String × Json) :=
  ms.filter fun m => m.1 ∈ names

theorem Fields.collect_memberDocuments {names : List String} {closed : Bool}
    {ms : List (String × Json)} (fits : closed = true → ∀ m ∈ ms, m.1 ∈ names)
    (distinct : ((known names ms).map Prod.fst).Nodup) :
    collect names closed (memberDocuments ms) = .ok (written (known names ms)) := by
  induction ms with
  | nil => rfl
  | cons m ms ih =>
      obtain ⟨k, v⟩ := m
      have rest := ih fun only m member => fits only m (List.mem_cons_of_mem _ member)
      by_cases member : k ∈ names
      · have kept : known names ((k, v) :: ms) = (k, v) :: known names ms := by
          simp [known, member]
        rw [kept, List.map_cons, List.nodup_cons] at distinct
        have once : ((written (known names ms)).any fun entry => entry.1 == k) = false := by
          simp only [List.any_eq_false, written, List.mem_map, beq_iff_eq]
          rintro entry ⟨m, inside, rfl⟩ same
          exact distinct.1 (List.mem_map.mpr ⟨m, inside, same⟩)
        rw [kept]
        simp only [memberDocuments, collect, pieces_writtenPieces, rest distinct.2, bind,
          Except.bind, member, once, Bool.false_eq_true, ↓reduceIte]
        rfl
      · have skipped : known names ((k, v) :: ms) = known names ms := by
          simp [known, member]
        have loose : closed = false :=
          Bool.eq_false_iff.mpr fun only => member (fits only (k, v) List.mem_cons_self)
        subst loose
        rw [skipped] at distinct ⊢
        simp only [memberDocuments, collect, pieces_writtenPieces, rest distinct, bind, Except.bind,
          member, Bool.false_eq_true, ↓reduceIte]

theorem Reader.record_known {α : Type} {names : List String} {build : Fields → Except Fault α}
    {ms : List (String × Json)} (level : Nat)
    (distinct : ((known names ms).map Prod.fst).Nodup) :
    record names false build (level + 1) (document (.object ms)) =
      build ⟨level, true, written (known names ms)⟩ := by
  have collected : Fields.collect names false (memberDocuments ms) =
      .ok (written (known names ms)) :=
    Fields.collect_memberDocuments (by simp) distinct
  rw [document, record, enter, collected]
  rfl

theorem Reader.record_object {α : Type} {names : List String} {closed : Bool}
    {build : Fields → Except Fault α} {ms : List (String × Json)} (level : Nat)
    (fits : ∀ m ∈ ms, m.1 ∈ names) (distinct : (ms.map Prod.fst).Nodup) :
    record names closed build (level + 1) (document (.object ms)) =
      build ⟨level, true, written ms⟩ := by
  have all : known names ms = ms :=
    List.filter_eq_self.mpr fun m member => decide_eq_true (fits m member)
  have collected : Fields.collect names closed (memberDocuments ms) =
      .ok (written (known names ms)) :=
    Fields.collect_memberDocuments (fun _ => fits) (all.symm ▸ distinct)
  rw [document, record, enter, collected, all]
  rfl

end HttpService.Json

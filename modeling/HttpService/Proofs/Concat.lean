import Mathlib.Data.List.Basic
import Mathlib.Data.List.Forall2
import Mathlib.Data.List.Induction

/-!
# Lists that change at one place

Histories, routes and groups are lists to which one entry after the other is appended. An entry of
such a list is an old one at its old place, or the new one at the end. Where many take turns, each of
them is the entry that is replaced when its turn has come.
-/

namespace HttpService

variable {α : Type} {entries : List α} {e x : α} {i : Nat}

theorem getElem?_concat_old (found : entries[i]? = some x) : (entries ++ [e])[i]? = some x := by
  rw [List.getElem?_append_left (List.getElem?_eq_some_iff.mp found).1, found]

theorem getElem?_concat_cases (found : (entries ++ [e])[i]? = some x) :
    entries[i]? = some x ∨ i = entries.length ∧ e = x := by
  rw [List.getElem?_append] at found
  split at found
  · exact .inl found
  · next beyond =>
      obtain ⟨inside, same⟩ := List.getElem?_eq_some_iff.mp found
      rw [List.length_singleton] at inside
      exact .inr ⟨by omega, by simpa using same⟩

theorem split_concat {before after : List α} (split : entries ++ [e] = before ++ x :: after) :
    (e = x ∧ entries = before) ∨ ∃ rest, entries = before ++ x :: rest := by
  obtain rfl | ⟨rest, last, rfl⟩ := List.eq_nil_or_concat after
  · obtain ⟨same, here⟩ := List.append_inj' split rfl
    exact .inl ⟨(List.cons.inj here).1, same⟩
  · rw [List.concat_eq_append, ← List.cons_append, ← List.append_assoc] at split
    exact .inr ⟨rest, (List.append_inj' split rfl).1⟩

/-- What has come to be true of a history came with one of its entries. -/
theorem split_of_cause {holds : List α → Prop} {cause : List α → α → Prop} (never : ¬ holds [])
    (only : ∀ before x, holds (before ++ [x]) → holds before ∨ cause before x)
    (now : holds entries) :
    ∃ before x after, entries = before ++ x :: after ∧ cause before x := by
  induction entries using List.reverseRecOn with
  | nil => exact absurd now never
  | append_singleton entries x ih =>
      obtain earlier | here := only entries x now
      · obtain ⟨before, y, after, rfl, caused⟩ := ih earlier
        exact ⟨before, y, after ++ [x], by simp, caused⟩
      · exact ⟨entries, x, [], rfl, here⟩

/-! ## An entry that is replaced -/

/-- What is counted in a list changes by the entry that is replaced. -/
theorem countP_set_add (p : α → Bool) (here : entries[i]? = some x) (e : α) :
    (entries.set i e).countP p + (p x).toNat = entries.countP p + (p e).toNat := by
  obtain ⟨inside, rfl⟩ := List.getElem?_eq_some_iff.mp here
  rw [List.countP_set inside]
  cases holds : p entries[i] with
  | false => cases p e <;> simp
  | true =>
      have counted : 0 < entries.countP p :=
        List.countP_pos_iff.mpr ⟨_, List.getElem_mem inside, holds⟩
      cases p e <;> simp only [Bool.false_eq_true, if_true, if_false, Bool.toNat_true,
        Bool.toNat_false] <;> omega

/-- An entry of a list that was changed at one place is an old one or the changed one. -/
theorem getElem?_modify_cases {j : Nat} {f : α → α} (found : (entries.modify j f)[i]? = some x) :
    entries[i]? = some x ∨ j = i ∧ ∃ y, entries[i]? = some y ∧ f y = x := by
  rw [List.getElem?_modify] at found
  obtain ⟨y, here, same⟩ := Option.map_eq_some_iff.mp found
  split at same
  · next turn => exact .inr ⟨turn, y, here, same⟩
  · exact .inl (same ▸ here)

/-- Of many lists one is replaced. -/
theorem count_flatten_set [BEq α] {lists : List (List α)} (here : lists[i]? = some entries)
    (new : List α) (x : α) :
    (lists.set i new).flatten.count x + entries.count x = lists.flatten.count x + new.count x := by
  induction lists generalizing i with
  | nil => cases here
  | cons first rest ih =>
      cases i with
      | zero =>
          obtain rfl : first = entries := Option.some.inj here
          simp only [List.set_cons_zero, List.flatten_cons, List.count_append]
          omega
      | succ i =>
          have later := ih here
          simp only [List.set_cons_succ, List.flatten_cons, List.count_append]
          omega

/-! ## Lists side by side -/

section

variable {β : Type} {R : α → β → Prop} {others : List β} {y : β}

theorem forall₂_getElem? (alike : List.Forall₂ R entries others) (here : entries[i]? = some x) :
    ∃ y, others[i]? = some y ∧ R x y := by
  induction alike generalizing i with
  | nil => cases here
  | @cons a b l m related later ih =>
      cases i with
      | zero =>
          obtain rfl : a = x := Option.some.inj here
          exact ⟨b, rfl, related⟩
      | succ i => exact ih here

theorem forall₂_concat (alike : List.Forall₂ R entries others) (related : R e y) :
    List.Forall₂ R (entries ++ [e]) (others ++ [y]) :=
  List.rel_append alike (.cons related .nil)

/-- Both lists change at the same place. -/
theorem forall₂_set_modify (alike : List.Forall₂ R entries others) {f : β → β}
    (related : ∀ y, others[i]? = some y → R e (f y)) :
    List.Forall₂ R (entries.set i e) (others.modify i f) := by
  induction alike generalizing i with
  | nil => cases i <;> exact .nil
  | @cons a b l m here later ih =>
      cases i with
      | zero => exact .cons (related b rfl) later
      | succ i => exact .cons here (ih related)

end

end HttpService

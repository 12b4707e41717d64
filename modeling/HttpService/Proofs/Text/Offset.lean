import Mathlib.Data.List.Basic

/-!
# Offsets in bytes

Text is cut at offsets that count bytes, and a cut must not fall into a character. It does not where
a kind of character first stands, nor after a character of one byte.
-/

namespace HttpService.Text

variable {p : Char → Bool} {before after cs : List Char} {c : Char} {n : Nat}

/-- How many bytes the characters take. -/
def byteLength : List Char → Nat
  | [] => 0
  | c :: cs => c.utf8Size + byteLength cs

/-- The offset of the first character of a kind. -/
def offset? (p : Char → Bool) : List Char → Option Nat
  | [] => none
  | c :: cs => if p c then some 0 else (offset? p cs).map (c.utf8Size + ·)

/-- What stands before an offset and what stands after it. There is no such offset inside a
character, nor behind the end. -/
def cutAt? : Nat → List Char → Option (List Char × List Char)
  | n, [] => if n = 0 then some ([], []) else none
  | n, c :: cs =>
      if n = 0 then some ([], c :: cs)
      else if c.utf8Size ≤ n then
        (cutAt? (n - c.utf8Size) cs).map fun (before, after) => (c :: before, after)
      else none

theorem byteLength_concat (cs : List Char) (c : Char) :
    byteLength (cs ++ [c]) = byteLength cs + c.utf8Size := by
  induction cs with
  | nil => simp [byteLength]
  | cons d cs ih => rw [List.cons_append, byteLength, ih, byteLength, Nat.add_assoc]

/-! ## Looking for a character -/

theorem offset?_eq_none (absent : ∀ c ∈ cs, p c = false) : offset? p cs = none := by
  induction cs with
  | nil => rfl
  | cons c cs ih =>
      obtain ⟨here, later⟩ := List.forall_mem_cons.mp absent
      rw [offset?, here, ih later]
      rfl

theorem offset?_append (absent : ∀ c ∈ before, p c = false) (found : p c = true) :
    offset? p (before ++ c :: after) = some (byteLength before) := by
  induction before with
  | nil =>
      rw [List.nil_append, offset?, found]
      rfl
  | cons d before ih =>
      obtain ⟨here, later⟩ := List.forall_mem_cons.mp absent
      rw [List.cons_append, offset?, here, ih later]
      rfl

/-! ## Cutting -/

theorem cutAt?_append (before after : List Char) :
    cutAt? (byteLength before) (before ++ after) = some (before, after) := by
  induction before with
  | nil => cases after <;> rfl
  | cons c before ih =>
      have wide := c.utf8Size_pos
      rw [List.cons_append, byteLength, cutAt?, if_neg (by omega), if_pos (Nat.le_add_right _ _),
        Nat.add_sub_cancel_left, ih]
      rfl

/-- After a character of one byte. -/
theorem cutAt?_succ (single : c.utf8Size = 1) (before after : List Char) :
    cutAt? (byteLength before + 1) (before ++ c :: after) = some (before ++ [c], after) := by
  have whole : before ++ c :: after = (before ++ [c]) ++ after := by simp
  rw [whole, ← single, ← byteLength_concat, cutAt?_append]

theorem length_le_of_cutAt? (cut : cutAt? n cs = some (before, after)) :
    after.length ≤ cs.length := by
  induction cs generalizing n before with
  | nil =>
      rw [cutAt?] at cut
      split at cut
      · cases cut
        exact Nat.le_refl _
      · cases cut
  | cons c cs ih =>
      rw [cutAt?] at cut
      split at cut
      · cases cut
        exact Nat.le_refl _
      · split at cut
        · obtain ⟨pieces, inner, same⟩ := Option.map_eq_some_iff.mp cut
          cases same
          exact Nat.le_succ_of_le (ih inner)
        · cases cut

/-- Behind the start there is less left. -/
theorem length_lt_of_cutAt? (behind : n ≠ 0) (cut : cutAt? n cs = some (before, after)) :
    after.length < cs.length := by
  cases cs with
  | nil =>
      rw [cutAt?, if_neg behind] at cut
      cases cut
  | cons c cs =>
      rw [cutAt?, if_neg behind] at cut
      split at cut
      · obtain ⟨pieces, inner, same⟩ := Option.map_eq_some_iff.mp cut
        cases same
        exact Nat.lt_succ_of_le (length_le_of_cutAt? inner)
      · cases cut

end HttpService.Text

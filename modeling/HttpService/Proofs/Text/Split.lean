import HttpService.Text.Split
import Mathlib.Data.List.Infix

/-!
# Pieces of a text

The pieces are free of the separator, and nothing but the pieces of a text is free of it and joins
to the text. A text is cut at its first separator.
-/

namespace HttpService.Text

theorem intercalate_append {sep : Char} {xs ys : List (List Char)} (left : xs ≠ [])
    (right : ys ≠ []) :
    [sep].intercalate (xs ++ ys) = [sep].intercalate xs ++ sep :: [sep].intercalate ys := by
  induction xs with
  | nil => exact absurd rfl left
  | cons x xs ih =>
      cases xs with
      | nil => simp [List.intercalate_cons_of_ne_nil right]
      | cons y xs =>
          have inner := ih (List.cons_ne_nil y xs)
          rw [List.cons_append] at inner
          simp only [List.cons_append, List.intercalate_cons_cons, inner, List.append_assoc]

theorem splitChars_free {sep : Char} {cs : List Char} (free : sep ∉ cs) :
    splitChars sep cs = [cs] := by
  induction cs with
  | nil => rfl
  | cons c rest ih =>
      have other : c ≠ sep := fun same => free (same ▸ List.mem_cons_self)
      have tail : sep ∉ rest := fun member => free (List.mem_cons_of_mem c member)
      rw [splitChars, if_neg other, ih tail]

theorem split_free {sep : Char} {s : String} (free : sep ∉ s.toList) : split sep s = [s] := by
  rw [split, splitChars_free free, List.map_singleton, String.ofList_toList]

/-- A separator ends a piece, whatever stands on its two sides. -/
theorem splitChars_separator (sep : Char) (left right : List Char) :
    splitChars sep (left ++ sep :: right) = splitChars sep left ++ splitChars sep right := by
  induction left with
  | nil => simp [splitChars]
  | cons c rest ih =>
      by_cases same : c = sep
      · rw [List.cons_append, splitChars, if_pos same, splitChars, if_pos same, ih,
          List.cons_append]
      · rw [List.cons_append, splitChars, if_neg same, splitChars, if_neg same, ih]
        cases pieces : splitChars sep rest with
        | nil => exact absurd pieces (splitChars_ne_nil sep rest)
        | cons piece more => rfl

theorem splitChars_append {sep : Char} {piece : List Char} (free : sep ∉ piece)
    (rest : List Char) : splitChars sep (piece ++ sep :: rest) = piece :: splitChars sep rest := by
  rw [splitChars_separator, splitChars_free free, List.cons_append, List.nil_append]

/-- A piece has characters of the text, and not the separator. -/
theorem of_mem_splitChars {sep : Char} {cs piece : List Char} (member : piece ∈ splitChars sep cs) :
    ∀ ch ∈ piece, ch ∈ cs ∧ ch ≠ sep := by
  induction cs generalizing piece with
  | nil =>
      rw [splitChars, List.mem_singleton] at member
      rw [member]
      intro ch inside
      cases inside
  | cons c rest ih =>
      have later (piece : List Char) (among : piece ∈ splitChars sep rest) :
          ∀ ch ∈ piece, ch ∈ c :: rest ∧ ch ≠ sep := fun ch inside =>
        ⟨List.mem_cons_of_mem c (ih among ch inside).1, (ih among ch inside).2⟩
      rw [splitChars] at member
      split at member
      · rcases List.mem_cons.mp member with rfl | among
        · intro ch inside
          cases inside
        · exact later piece among
      · next other =>
          cases pieces : splitChars sep rest with
          | nil => exact absurd pieces (splitChars_ne_nil sep rest)
          | cons head tail =>
              rw [pieces] at member
              rcases List.mem_cons.mp member with rfl | among
              · intro ch inside
                rcases List.mem_cons.mp inside with rfl | deeper
                · exact ⟨List.mem_cons_self, other⟩
                · exact later head (pieces ▸ List.mem_cons_self) ch deeper
              · exact later piece (pieces ▸ List.mem_cons_of_mem head among)

theorem free_of_mem_splitChars {sep : Char} {cs piece : List Char}
    (member : piece ∈ splitChars sep cs) : sep ∉ piece :=
  fun inside => (of_mem_splitChars member sep inside).2 rfl

/-- The three pieces of a text are free of the separator and make it up. -/
theorem splitChars_eq_three_iff {sep : Char} {cs a b c : List Char} :
    splitChars sep cs = [a, b, c] ↔
      cs = a ++ sep :: b ++ sep :: c ∧ sep ∉ a ∧ sep ∉ b ∧ sep ∉ c := by
  constructor
  · intro pieces
    have joined := intercalate_splitChars sep cs
    rw [pieces] at joined
    refine ⟨?_, ?_, ?_, ?_⟩
    · rw [← joined]
      simp [List.intercalate]
    all_goals exact free_of_mem_splitChars (pieces ▸ by simp : _ ∈ splitChars sep cs)
  · rintro ⟨whole, freeA, freeB, freeC⟩
    rw [whole, List.append_assoc, List.cons_append, splitChars_append freeA,
      splitChars_append freeB, splitChars_free freeC]

/-- The pieces of a text begin with those of another if and only if the text is the other one, or
goes on after it with a separator. -/
theorem splitChars_prefix_iff {sep : Char} {start cs : List Char} :
    splitChars sep start <+: splitChars sep cs ↔ cs = start ∨ start ++ [sep] <+: cs := by
  constructor
  · rintro ⟨more, pieces⟩
    have joined := intercalate_splitChars sep cs
    rw [← pieces] at joined
    cases more with
    | nil =>
        rw [List.append_nil, intercalate_splitChars] at joined
        exact .inl joined.symm
    | cons piece more =>
        right
        rw [intercalate_append (splitChars_ne_nil sep start) (List.cons_ne_nil piece more),
          intercalate_splitChars] at joined
        exact ⟨_, (List.append_assoc ..).trans joined⟩
  · rintro (rfl | ⟨rest, rfl⟩)
    · exact List.prefix_rfl
    · rw [List.append_assoc, List.cons_append, List.nil_append, splitChars_separator]
      exact List.prefix_append _ _

theorem split_prefix_iff {sep : Char} {start s : String} :
    split sep start <+: split sep s ↔
      splitChars sep start.toList <+: splitChars sep s.toList :=
  List.prefix_map_iff_of_injective fun _ _ same => String.ofList_injective same

/-! ## Cutting -/

theorem cutChars_eq_some_iff {sep : Char} {cs left right : List Char} :
    cutChars sep cs = (left, some right) ↔ cs = left ++ sep :: right ∧ sep ∉ left := by
  induction cs generalizing left with
  | nil => simp [cutChars]
  | cons c rest ih =>
      by_cases same : c = sep
      · rw [cutChars, if_pos same, same]
        cases left with
        | nil => simp
        | cons d more =>
            simp only [Prod.mk.injEq, List.cons_append, List.cons.injEq, List.mem_cons]
            grind
      · rw [cutChars, if_neg same]
        cases left with
        | nil => simp [same]
        | cons d more =>
            simp only [Prod.mk.injEq, List.cons_append, List.cons.injEq, List.mem_cons]
            grind

theorem cut_eq_some_iff {sep : Char} {s left right : String} :
    cut sep s = (left, some right) ↔
      s.toList = left.toList ++ sep :: right.toList ∧ sep ∉ left.toList := by
  rw [← cutChars_eq_some_iff, cut]
  constructor
  · intro halves
    obtain ⟨rfl, after⟩ := Prod.mk.inj halves
    obtain ⟨chars, found, rfl⟩ := Option.map_eq_some_iff.mp after
    rw [String.toList_ofList, String.toList_ofList, ← found]
  · intro halves
    simp only [halves, Option.map_some, String.ofList_toList]

end HttpService.Text

import HttpService.Text.Blank
import Mathlib.Data.List.TakeWhile

/-!
# What trimming leaves

Trimming leaves the part of a text that neither starts nor ends with what is trimmed off, and takes
the rest away. A text that is not blank is not blank after it.
-/

namespace HttpService.Text

section Characters

variable {drop : Char → Bool} {cs left kept right : List Char}

theorem dropWhile_eq_self (start : ∀ c ∈ cs.head?, drop c = false) : cs.dropWhile drop = cs := by
  cases cs with
  | nil => rfl
  | cons c rest =>
      rw [List.dropWhile_cons_of_neg]
      rw [start c rfl]
      exact Bool.false_ne_true

theorem not_drop_head?_dropWhile : ∀ c ∈ (cs.dropWhile drop).head?, drop c = false := by
  intro c first
  have stops := List.head?_dropWhile_not drop cs
  rw [Option.mem_def.mp first] at stops
  exact stops

/-- What is taken off a text ends where it is said to. -/
theorem takeWhile_append_of_stop (taken : ∀ c ∈ left, drop c = true)
    (stop : ∀ c ∈ right.head?, drop c = false) : (left ++ right).takeWhile drop = left := by
  rw [List.takeWhile_append_of_pos taken]
  cases right with
  | nil => simp
  | cons c rest =>
      rw [List.takeWhile_cons, stop c rfl]
      simp

/-- A text in what is trimmed off: the two sides go, and the middle, which neither starts nor ends
so, stays. -/
structure Surrounded (drop : Char → Bool) (left kept right : List Char) : Prop where
  before : ∀ c ∈ left, drop c = true
  after : ∀ c ∈ right, drop c = true
  start : ∀ c ∈ kept.head?, drop c = false
  stop : ∀ c ∈ kept.getLast?, drop c = false

theorem Surrounded.trimMatches_eq (surrounded : Surrounded drop left kept right) :
    trimMatches drop (left ++ kept ++ right) = kept := by
  obtain ⟨before, after, start, stop⟩ := surrounded
  rw [trimMatches, List.append_assoc, List.dropWhile_append_of_pos before]
  have last : ∀ c ∈ kept.reverse.head?, drop c = false := by rwa [List.head?_reverse]
  cases kept with
  | nil =>
      rw [List.nil_append, (dropWhile_eq_nil_iff_all drop right).mpr after]
      rfl
  | cons c rest =>
      have begun : ((c :: rest) ++ right).dropWhile drop = (c :: rest) ++ right :=
        dropWhile_eq_self start
      rw [begun, List.reverse_append,
        List.dropWhile_append_of_pos fun c member => after c (List.mem_reverse.mp member),
        dropWhile_eq_self last, List.reverse_reverse]

theorem exists_surrounded (drop : Char → Bool) (cs : List Char) :
    ∃ left right, cs = left ++ trimMatches drop cs ++ right ∧
      Surrounded drop left (trimMatches drop cs) right := by
  let right := ((cs.dropWhile drop).reverse.takeWhile drop).reverse
  have begun : cs.dropWhile drop = trimMatches drop cs ++ right := by
    rw [trimMatches, ← List.reverse_append, List.takeWhile_append_dropWhile, List.reverse_reverse]
  refine ⟨cs.takeWhile drop, right, ?_, ?_⟩
  · rw [List.append_assoc, ← begun, List.takeWhile_append_dropWhile]
  · constructor
    · exact fun c => List.mem_takeWhile_imp
    · exact fun c member => List.mem_takeWhile_imp (List.mem_reverse.mp member)
    · intro c first
      have whole : c ∈ (cs.dropWhile drop).head? := by
        rw [begun, List.head?_append, Option.mem_def.mp first]
        rfl
      exact not_drop_head?_dropWhile c whole
    · rw [trimMatches, List.getLast?_reverse]
      exact not_drop_head?_dropWhile

theorem trimMatches_eq_iff :
    trimMatches drop cs = kept ↔
      ∃ left right, cs = left ++ kept ++ right ∧ Surrounded drop left kept right := by
  constructor
  · rintro rfl
    exact exists_surrounded drop cs
  · rintro ⟨left, right, rfl, surrounded⟩
    exact surrounded.trimMatches_eq

end Characters

/-! ## Blanks -/

theorem trim_eq_iff {s kept : String} :
    trim s = kept ↔ ∃ left right, s = left ++ kept ++ right ∧
      Surrounded isBlank left.toList kept.toList right.toList := by
  have chars : (trim s).toList = trimMatches isBlank s.toList := String.toList_ofList
  rw [← String.toList_inj, chars, trimMatches_eq_iff]
  constructor
  · rintro ⟨left, right, whole, surrounded⟩
    refine ⟨String.ofList left, String.ofList right, ?_, ?_⟩
    · rw [← String.toList_inj, whole]
      simp only [String.toList_append, String.toList_ofList]
    · rwa [String.toList_ofList, String.toList_ofList]
  · rintro ⟨left, right, rfl, surrounded⟩
    exact ⟨_, _, by simp only [String.toList_append], surrounded⟩

theorem trim_eq_self_iff {s : String} :
    trim s = s ↔
      (∀ c ∈ s.toList.head?, isBlank c = false) ∧ ∀ c ∈ s.toList.getLast?, isBlank c = false := by
  rw [trim_eq_iff]
  constructor
  · rintro ⟨_, _, -, surrounded⟩
    exact ⟨surrounded.start, surrounded.stop⟩
  · rintro ⟨start, stop⟩
    exact ⟨"", "", by simp, by simp, by simp, start, stop⟩

theorem blank_trim (s : String) : blank (trim s) = blank s := by
  obtain ⟨left, right, whole, surrounded⟩ := trim_eq_iff.mp (Eq.refl (trim s))
  have before : left.toList.all isBlank = true := List.all_eq_true.mpr surrounded.before
  have after : right.toList.all isBlank = true := List.all_eq_true.mpr surrounded.after
  have parts : blank s = blank (left ++ trim s ++ right) := congrArg blank whole
  rw [parts]
  simp only [blank, String.toList_append, List.all_append, before, after, Bool.true_and,
    Bool.and_true]

end HttpService.Text

import HttpService.Proofs.Text.Blank
import HttpService.Uuid
import Mathlib.Data.Nat.Notation

/-!
# The text of identifiers

The canonical text of an identifier has thirty-two hexadecimal digits and no blank, and reading it
gives the identifier.
-/

namespace HttpService.Uuid

theorem hexValue?_digitChar {n : Nat} (h : n < 16) : hexValue? (Nat.digitChar n) = some n := by
  revert n
  decide

theorem hexDigits_length (n value : Nat) : (hexDigits n value).length = n := by
  induction n generalizing value with
  | zero => rfl
  | succ n ih => rw [hexDigits, List.length_append, ih, List.length_singleton]

theorem hyphen_notMem_hexDigits (n value : Nat) : '-' ∉ hexDigits n value := by
  induction n generalizing value with
  | zero => exact List.not_mem_nil
  | succ n ih =>
      rw [hexDigits, List.mem_append, List.mem_singleton]
      rintro (before | last)
      · exact ih (value / 16) before
      · have digit := hexValue?_digitChar (n := value % 16) (Nat.mod_lt _ (by omega))
        rw [← last] at digit
        cases digit

/-- The digits of a number below `16 ^ n`, the highest first. -/
def hexValues : Nat → Nat → List Nat
  | 0, _ => []
  | n + 1, value => hexValues n (value / 16) ++ [value % 16]

theorem mapM_hexDigits (n value : Nat) :
    (hexDigits n value).mapM hexValue? = some (hexValues n value) := by
  induction n generalizing value with
  | zero => rfl
  | succ n ih =>
      have last := hexValue?_digitChar (n := value % 16) (Nat.mod_lt _ (by omega))
      rw [hexDigits, List.mapM_append, ih]
      simp [last, hexValues]

theorem hexValues_length (n value : Nat) : (hexValues n value).length = n := by
  induction n generalizing value with
  | zero => rfl
  | succ n ih => rw [hexValues, List.length_append, ih, List.length_singleton]

theorem foldl_hexValues {n value : Nat} (h : value < Nat.pow 16 n) :
    (hexValues n value).foldl (fun acc d => acc * 16 + d) 0 = value := by
  induction n generalizing value with
  | zero =>
      rw [Nat.pow] at h
      simp only [hexValues, List.foldl_nil]
      omega
  | succ n ih =>
      have high : value / 16 < Nat.pow 16 n := by
        rw [Nat.div_lt_iff_lt_mul (by omega)]
        exact h
      rw [hexValues, List.foldl_append, ih high]
      simp only [List.foldl_cons, List.foldl_nil]
      omega

theorem ofPlain?_hexDigits (u : Uuid) : ofPlain? (hexDigits 32 u.value.toNat) = some u := by
  have bound : u.value.toNat < Nat.pow 16 32 := u.value.isLt
  simp [ofPlain?, mapM_hexDigits, hexValues_length, foldl_hexValues bound]

/-! ## Hyphens -/

/-- The digits without the hyphens between them. -/
theorem filter_hyphenate {ds : List Char} (h : '-' ∉ ds) :
    (hyphenate ds).filter (· ≠ '-') = ds := by
  have free : ∀ part : List Char, part ⊆ ds → part.filter (· ≠ '-') = part := by
    intro part inside
    refine List.filter_eq_self.mpr fun c member => ?_
    exact decide_eq_true fun same => h (same ▸ inside member)
  have slice : ∀ n m, (ds.drop n).take m ⊆ ds := fun n m =>
    ((List.take_sublist m _).trans (List.drop_sublist n ds)).subset
  have joined : ∀ n m, (ds.drop n).take m ++ ds.drop (n + m) = ds.drop n := by
    intro n m
    rw [← List.drop_drop, List.take_append_drop]
  have hyphen : decide ('-' ≠ '-') = false := by decide
  unfold hyphenate
  simp only [List.filter_append, List.filter_cons, hyphen, Bool.false_eq_true, ↓reduceIte,
    free _ (List.take_sublist 8 ds).subset, free _ (slice _ _),
    free _ (List.drop_sublist 20 ds).subset, List.append_assoc]
  rw [joined 16 4, joined 12 4, joined 8 4, List.take_append_drop]

theorem hyphenate_length {ds : List Char} (h : ds.length = 32) : (hyphenate ds).length = 36 := by
  simp [hyphenate]
  omega

/-- Reading the text of an identifier gives the identifier. -/
theorem parse?_toString (u : Uuid) : parse? u.toString = some u := by
  have digits := hexDigits_length 32 u.value.toNat
  have plain := filter_hyphenate (hyphen_notMem_hexDigits 32 u.value.toNat)
  have whole : ofHyphenated? (hyphenate (hexDigits 32 u.value.toNat)) = some u := by
    rw [ofHyphenated?, plain, if_pos rfl, ofPlain?_hexDigits]
  rw [parse?, toString, String.toList_ofList, hyphenate_length digits]
  simpa using whole

theorem toString_injective : Function.Injective toString := by
  intro u v same
  have read := parse?_toString u
  rw [same, parse?_toString] at read
  exact (Option.some.inj read).symm

/-! ## No blanks -/

theorem digit_of_mem_hexDigits {n value : Nat} {c : Char} (member : c ∈ hexDigits n value) :
    ∃ d < 16, c = Nat.digitChar d := by
  induction n generalizing value with
  | zero => exact absurd member List.not_mem_nil
  | succ n ih =>
      rw [hexDigits, List.mem_append, List.mem_singleton] at member
      rcases member with before | last
      · exact ih before
      · exact ⟨value % 16, Nat.mod_lt _ (by omega), last⟩

theorem not_isBlank_digitChar {d : Nat} (h : d < 16) : Text.isBlank (Nat.digitChar d) = false := by
  revert d
  decide

theorem not_isBlank_of_mem_toString {u : Uuid} {c : Char} (member : c ∈ u.toString.toList) :
    Text.isBlank c = false := by
  by_cases hyphen : c = '-'
  · rw [hyphen]
    decide
  · rw [toString, String.toList_ofList] at member
    have digit : c ∈ (hyphenate (hexDigits 32 u.value.toNat)).filter (· ≠ '-') :=
      List.mem_filter.mpr ⟨member, decide_eq_true hyphen⟩
    rw [filter_hyphenate (hyphen_notMem_hexDigits 32 u.value.toNat)] at digit
    obtain ⟨d, small, rfl⟩ := digit_of_mem_hexDigits digit
    exact not_isBlank_digitChar small

theorem trim_toString (u : Uuid) : Text.trim u.toString = u.toString :=
  Text.trim_eq_self_iff.mpr
    ⟨fun _ first => not_isBlank_of_mem_toString (List.mem_of_mem_head? first),
      fun _ last => not_isBlank_of_mem_toString (List.mem_of_mem_getLast? last)⟩

theorem not_blank_toString (u : Uuid) : Text.blank u.toString = false := by
  rw [Text.blank, List.all_eq_false]
  have long : u.toString.toList.length = 36 := by
    rw [toString, String.toList_ofList]
    exact hyphenate_length (hexDigits_length 32 _)
  have first := List.getElem_mem (long ▸ Nat.zero_lt_succ 35 : 0 < u.toString.toList.length)
  exact ⟨_, first, Bool.not_eq_true _ |>.mpr (not_isBlank_of_mem_toString first)⟩

end HttpService.Uuid

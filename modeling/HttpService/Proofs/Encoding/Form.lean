import HttpService.Encoding.Form
import HttpService.Proofs.Text.Split
import HttpService.Proofs.Text.Utf8

/-!
# Form-encoded text that stands for itself

Decoding leaves text in ASCII alone that has neither a plus nor a percent sign.
-/

namespace HttpService.Encoding.Form

/-- The pair that one part stands for. -/
def assignment (part : String) : String × String :=
  let (name, value) := Text.cut '=' part
  (decode name, decode (value.getD ""))

theorem pairs_eq (query : String) :
    pairs query = ((Text.split '&' query).filter fun part => !part.isEmpty).map assignment :=
  rfl

/-- A part that is not empty stands for a pair, after the pairs of the parts before it. -/
theorem pairs_of_split {query part : String} {before after : List String}
    (parts : Text.split '&' query = before ++ part :: after) (full : part ≠ "") :
    ∃ earlier later, pairs query = earlier ++ assignment part :: later ∧
      ∀ pair ∈ earlier, ∃ p ∈ before, assignment p = pair := by
  let nonempty (p : String) : Bool := !p.isEmpty
  have kept : nonempty part = true := by simpa [nonempty] using full
  refine ⟨(before.filter nonempty).map assignment, (after.filter nonempty).map assignment, ?_, ?_⟩
  · rw [pairs_eq, parts, List.filter_append, List.filter_cons_of_pos kept, List.map_append,
      List.map_cons]
  · intro pair member
    obtain ⟨p, inside, same⟩ := List.mem_map.mp member
    exact ⟨p, List.mem_of_mem_filter inside, same⟩

theorem percentDecode_eq_self {bytes : List UInt8} (plain : 37 ∉ bytes) :
    percentDecode bytes = bytes := by
  induction bytes with
  | nil => rfl
  | cons b rest ih =>
      have later : 37 ∉ rest := fun member => plain (List.mem_cons_of_mem b member)
      rw [percentDecode, ih later]
      rintro hi lo more rfl
      exact absurd List.mem_cons_self plain

/-- A character that decoding leaves alone. -/
def IsPlain (ch : Char) : Prop :=
  ch.toNat < 128 ∧ ch ≠ '+' ∧ ch ≠ '%'

instance (ch : Char) : Decidable (IsPlain ch) :=
  inferInstanceAs (Decidable (ch.toNat < 128 ∧ ch ≠ '+' ∧ ch ≠ '%'))

theorem percentDecode_utf8 {s : String} (ascii : ∀ ch ∈ s.toList, ch.toNat < 128)
    (unescaped : '%' ∉ s.toList) : percentDecode (Text.utf8 s) = Text.utf8 s := by
  apply percentDecode_eq_self
  rw [Text.utf8_ascii ascii, List.mem_map]
  rintro ⟨ch, member, percent⟩
  have code : ch.toNat = 37 :=
    (Text.toNat_toUInt8 (ascii ch member)).symm.trans (congrArg UInt8.toNat percent)
  obtain rfl : ch = '%' := Char.toNat_inj.mp code
  exact unescaped member

theorem decode_eq_self {s : String} (plain : ∀ ch ∈ s.toList, IsPlain ch) : decode s = s := by
  have ascii : ∀ ch ∈ s.toList, ch.toNat < 128 := fun ch member => (plain ch member).1
  have unspaced : (s.toList.map fun ch => if ch == '+' then ' ' else ch) = s.toList := by
    refine (List.map_congr_left fun ch member => ?_).trans (List.map_id _)
    exact if_neg (by simpa using (plain ch member).2.1)
  have unescaped : '%' ∉ s.toList := fun member => (plain '%' member).2.2 rfl
  unfold decode
  simp only [unspaced, String.ofList_toList]
  rw [percentDecode_utf8 ascii unescaped, Text.utf8_ascii ascii, Text.lossyUtf8_ascii ascii]

theorem assignment_eq {name value : String} (names : ∀ ch ∈ name.toList, IsPlain ch ∧ ch ≠ '=')
    (values : ∀ ch ∈ value.toList, IsPlain ch) :
    assignment (name ++ "=" ++ value) = (name, value) := by
  have cut : Text.cut '=' (name ++ "=" ++ value) = (name, some value) := by
    rw [Text.cut_eq_some_iff]
    refine ⟨by simp [String.toList_append], fun member => (names '=' member).2 rfl⟩
  unfold assignment
  rw [cut]
  simp only [Option.getD_some, decode_eq_self values,
    decode_eq_self fun ch member => (names ch member).1]

end HttpService.Encoding.Form

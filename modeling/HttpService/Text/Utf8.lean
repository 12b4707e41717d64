/-!
# UTF-8

Text as bytes, and bytes as text. Decoding is either strict, or lossy with the replacement
character for each maximal part of a sequence that cannot be continued.
-/

namespace HttpService.Text

/-- The UTF-8 bytes of a text. -/
def utf8 (s : String) : List UInt8 :=
  s.toUTF8.data.toList

/-- The text with these bytes, when they are UTF-8. -/
def ofUtf8? (bytes : List UInt8) : Option String :=
  String.fromUTF8? ⟨bytes.toArray⟩

/-- The bytes that may follow a lead byte: how many of them, and the bounds of the first. -/
structure Lead where
  count : Nat
  lo : UInt8 := 0x80
  hi : UInt8 := 0xBF
  bits : Nat

def lead? (b : UInt8) : Option Lead :=
  let n := b.toNat
  if b < 0x80 then some { count := 0, bits := n }
  else if 0xC2 ≤ b && b ≤ 0xDF then some { count := 1, bits := n - 0xC0 }
  else if b == 0xE0 then some { count := 2, lo := 0xA0, bits := 0 }
  else if b == 0xED then some { count := 2, hi := 0x9F, bits := 0xD }
  else if 0xE1 ≤ b && b ≤ 0xEF then some { count := 2, bits := n - 0xE0 }
  else if b == 0xF0 then some { count := 3, lo := 0x90, bits := 0 }
  else if b == 0xF4 then some { count := 3, hi := 0x8F, bits := 4 }
  else if 0xF1 ≤ b && b ≤ 0xF3 then some { count := 3, bits := n - 0xF0 }
  else none

/-- Reads continuation bytes: the character they complete, if they do, and what is left. -/
def continueChar : Nat → UInt8 → UInt8 → Nat → List UInt8 → Option Char × List UInt8
  | 0, _, _, acc, rest => (some (Char.ofNat acc), rest)
  | _ + 1, _, _, _, [] => (none, [])
  | n + 1, lo, hi, acc, b :: rest =>
      if lo ≤ b && b ≤ hi then
        continueChar n 0x80 0xBF (acc * 64 + (b.toNat - 0x80)) rest
      else (none, b :: rest)

theorem continueChar_length (n : Nat) (lo hi : UInt8) (acc : Nat) (bytes : List UInt8) :
    (continueChar n lo hi acc bytes).2.length ≤ bytes.length := by
  induction n generalizing lo hi acc bytes with
  | zero => simp [continueChar]
  | succ n ih =>
      cases bytes with
      | nil => simp [continueChar]
      | cons b rest =>
          simp only [continueChar]
          split
          · exact Nat.le_succ_of_le (ih ..)
          · simp

def replacement : Char := '\uFFFD'

/-- The characters of the bytes, with a mark for each maximal part of a broken sequence. -/
def markBroken (mark : List Char) : List UInt8 → List Char
  | [] => []
  | b :: rest =>
      match lead? b with
      | none => mark ++ markBroken mark rest
      | some l =>
          let next := continueChar l.count l.lo l.hi l.bits rest
          next.1.elim mark ([·]) ++ markBroken mark next.2
termination_by bytes => bytes.length
decreasing_by
  · simp
  · exact Nat.lt_succ_of_le (continueChar_length ..)

/-- The text of the bytes, with replacement characters where they are not UTF-8. -/
def lossyUtf8 (bytes : List UInt8) : String :=
  String.ofList (markBroken [replacement] bytes)

end HttpService.Text

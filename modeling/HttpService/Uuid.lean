import HttpService.Text.Split

/-!
# Universally unique identifiers

Identifiers of 128 bits. The canonical text is lower-case and hyphenated; reading also takes the
plain, braced and `urn:uuid:` forms in any case.
-/

namespace HttpService

structure Uuid where
  value : BitVec 128
  deriving DecidableEq, Repr, Inhabited

namespace Uuid

def hexDigits : Nat → Nat → List Char
  | 0, _ => []
  | n + 1, value => hexDigits n (value / 16) ++ [Nat.digitChar (value % 16)]

/-- Hyphens after the eighth, twelfth, sixteenth and twentieth digit. -/
def hyphenate (ds : List Char) : List Char :=
  ds.take 8 ++ '-' :: (ds.drop 8).take 4 ++ '-' :: (ds.drop 12).take 4 ++ '-' ::
    (ds.drop 16).take 4 ++ '-' :: ds.drop 20

def toString (u : Uuid) : String :=
  String.ofList (hyphenate (hexDigits 32 u.value.toNat))

def hexValue? (c : Char) : Option Nat :=
  if '0' ≤ c && c ≤ '9' then some (c.toNat - 48)
  else if 'a' ≤ c && c ≤ 'f' then some (c.toNat - 87)
  else if 'A' ≤ c && c ≤ 'F' then some (c.toNat - 55)
  else none

/-- Exactly thirty-two digits. -/
def ofPlain? (cs : List Char) : Option Uuid := do
  let digits ← cs.mapM hexValue?
  if digits.length = 32 then
    some ⟨BitVec.ofNat 128 (digits.foldl (fun acc d => acc * 16 + d) 0)⟩
  else none

/-- Exactly the hyphenated form. -/
def ofHyphenated? (cs : List Char) : Option Uuid :=
  let plain := cs.filter (· ≠ '-')
  if hyphenate plain = cs then ofPlain? plain else none

def parse? (s : String) : Option Uuid :=
  let cs := s.toList
  if cs.length = 32 then ofPlain? cs
  else if cs.length = 36 then ofHyphenated? cs
  else if cs.length = 38 then
    if cs.head? = some '\x7b' && cs.getLast? = some '\x7d' then
      ofHyphenated? ((cs.drop 1).dropLast)
    else none
  else
    match Text.stripStart? "urn:uuid:" s with
    | some rest => ofHyphenated? rest.toList
    | none => none

/-- The sixteen bytes, most significant first. -/
def bytes (u : Uuid) : List UInt8 :=
  (List.range 16).reverse.map fun i => UInt8.ofNat (u.value.toNat / Nat.pow 256 i)

/-- The identifier of a random source's number: 122 of its bits, and the marks of a random
identifier. -/
def ofSeed (n : Nat) : Uuid :=
  let r := BitVec.ofNat 122 n
  ⟨r.extractLsb' 74 48 ++ 4#4 ++ r.extractLsb' 62 12 ++ 2#2 ++ r.extractLsb' 0 62⟩

end Uuid

end HttpService

/-!
# Tagged values

Binary values with a tag and a length in front, which may contain further values.
-/

namespace HttpService.Scenario

structure DerValue where
  tag : Nat
  content : List UInt8
  deriving DecidableEq, Repr

namespace DerValue

def integer : Nat := 0x02
def bitString : Nat := 0x03
def octetString : Nat := 0x04
def objectId : Nat := 0x06
def group : Nat := 0x30

/-- The tag of a value that stands apart by its number. -/
def numbered (n : Nat) : Nat := 0xA0 + n

def ofBytes (bytes : List UInt8) : Nat :=
  bytes.foldl (fun acc b => acc * 256 + b.toNat) 0

/-- A length, in the shortest way it can be written, and what follows it. -/
def length? : List UInt8 → Option (Nat × List UInt8)
  | [] => none
  | b :: rest =>
      if b.toNat < 0x80 then some (b.toNat, rest)
      else
        let count := b.toNat - 0x80
        let n := ofBytes (rest.take count)
        let least := if count == 1 then 0x80 else Nat.pow 256 (count - 1)
        if count == 0 || 4 < count || rest.length < count || n < least then none
        else some (n, rest.drop count)

/-- The first value, and what follows it. -/
def next? : List UInt8 → Option (DerValue × List UInt8)
  | [] => none
  | tag :: rest =>
      match length? rest with
      | none => none
      | some (n, after) =>
          if after.length < n || tag.toNat % 32 == 31 then none
          else some (⟨tag.toNat, after.take n⟩, after.drop n)

/-- All values of a sequence of bytes. The first argument is at least their number. -/
def sequence? : Nat → List UInt8 → Option (List DerValue)
  | _, [] => some []
  | 0, _ => none
  | n + 1, bytes =>
      match next? bytes with
      | none => none
      | some (v, rest) => (sequence? n rest).map (v :: ·)

/-- The values inside a value with a given tag. -/
def parts? (tag : Nat) (v : DerValue) : Option (List DerValue) :=
  if v.tag == tag then sequence? v.content.length v.content else none

/-- The values inside the only value of the bytes. -/
def whole? (bytes : List UInt8) : Option (List DerValue) :=
  match next? bytes with
  | some (v, []) => parts? group v
  | _ => none

/-- The bytes of a string of bits whose number is a multiple of eight. -/
def bits? (v : DerValue) : Option (List UInt8) :=
  match v.content with
  | 0 :: bytes => if v.tag == bitString then some bytes else none
  | _ => none

end DerValue

end HttpService.Scenario

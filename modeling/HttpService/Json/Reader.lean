import HttpService.Json.Document

/-!
# Reading JSON documents into types

A reader takes the number of containers that may still be opened and a document. A record is read
from an object by its names or from an array by its fields' order.
-/

namespace HttpService.Json

/-- Why a text does not give a value. -/
inductive Fault
  | malformed
  | tooDeep
  | numberOutOfRange
  | loneSurrogate
  | mismatch (expected : String)
  | missingField (name : String)
  | repeatedField (name : String)
  | unknownField (name : String)
  deriving Repr, DecidableEq

def Fault.message : Fault → String
  | malformed => "malformed document"
  | tooDeep => "recursion limit exceeded"
  | numberOutOfRange => "number out of range"
  | loneSurrogate => "lone surrogate in escape"
  | mismatch expected => "expected " ++ expected
  | missingField name => "missing field " ++ name
  | repeatedField name => "repeated field " ++ name
  | unknownField name => "unknown field " ++ name

abbrev Reader (α : Type) := Nat → Document → Except Fault α

/-- The containers that may be open at once. -/
def depthLimit : Nat := 127

def isHighSurrogate (n : Nat) : Bool := 0xD800 ≤ n && n ≤ 0xDBFF

def isLowSurrogate (n : Nat) : Bool := 0xDC00 ≤ n && n ≤ 0xDFFF

/-- The characters of a string: a pair of surrogate escapes is one character, and one alone is
none. -/
def joinPieces? : List Piece → Option (List Char)
  | [] => some []
  | .char c :: rest => (joinPieces? rest).map (c :: ·)
  | .unit hi :: .unit lo :: rest =>
      if isHighSurrogate hi then
        if isLowSurrogate lo then
          (joinPieces? rest).map
            (Char.ofNat (0x10000 + (hi - 0xD800) * 0x400 + (lo - 0xDC00)) :: ·)
        else none
      else if isLowSurrogate hi then none
      else (joinPieces? (.unit lo :: rest)).map (Char.ofNat hi :: ·)
  | .unit n :: rest =>
      if isHighSurrogate n || isLowSurrogate n then none
      else (joinPieces? rest).map (Char.ofNat n :: ·)

def pieces (ps : List Piece) : Except Fault String :=
  match joinPieces? ps with
  | some cs => .ok (String.ofList cs)
  | none => .error .loneSurrogate

/-- Appends digits to a significand as long as it fits in 64 bits; the second part counts the
digits left over. -/
def accumulate : Nat → List Nat → Nat × Nat
  | acc, [] => (acc, 0)
  | acc, d :: ds =>
      if acc * 10 + d < Nat.pow 2 64 then accumulate (acc * 10 + d) ds else (acc, ds.length + 1)

/-- `f * 10 ^ e` by one multiplication or division for each 308 places; nothing if it overflows. -/
def scale : Nat → Float → Int → Option Float
  | 0, f, _ => some f
  | fuel + 1, f, e =>
      if e.natAbs ≤ 308 then
        let power := Float.ofScientific 1 false e.natAbs
        if e ≥ 0 then
          let product := f * power
          if product.isInf then none else some product
        else some (f / power)
      else if f == 0 then some f
      else if e ≥ 0 then none
      else scale fuel (f / Float.ofScientific 1 false 308) (e + 308)

/-- The exponent's size, when it fits in 31 bits. -/
def exponentSize? : Nat → List Nat → Option Nat
  | acc, [] => some acc
  | acc, d :: ds => if acc * 10 + d < Nat.pow 2 31 then exponentSize? (acc * 10 + d) ds else none

def signed (negative : Bool) (f : Float) : Number :=
  .real (if negative then -f else f).toBits

/-- The value of a numeral. Without fraction and exponent it is an integer if it fits in 64 bits;
every other number, and minus zero, is binary64. -/
def Numeral.value? (n : Numeral) : Option Number :=
  let (whole, dropped) := accumulate 0 n.whole
  if n.fraction.isEmpty && n.exponent.isNone && dropped == 0 then
    if !n.negative then some (.natural whole)
    else if 0 < whole && whole ≤ Nat.pow 2 63 then some (.negative whole)
    else some (signed true (UInt64.ofNat whole).toFloat)
  else
    let (significand, left) := accumulate whole n.fraction
    let shift : Int := dropped - ((n.fraction.length - left : Nat) : Int)
    let float := (UInt64.ofNat significand).toFloat
    match n.exponent with
    | none => (scale 4 float shift).map (signed n.negative)
    | some (down, ds) =>
        match exponentSize? 0 ds with
        | some size =>
            (scale 4 float (if down then shift - size else shift + size)).map (signed n.negative)
        | none =>
            if significand != 0 && !down then none else some (signed n.negative 0)

def numeral (n : Numeral) : Except Fault Number :=
  match n.value? with
  | some v => .ok v
  | none => .error .numberOutOfRange

namespace Reader

/-- Opens a container. -/
def enter (level : Nat) (inside : Nat → Except Fault α) : Except Fault α :=
  match level with
  | 0 => .error .tooDeep
  | n + 1 => inside n

def map (f : α → β) (r : Reader α) : Reader β :=
  fun level d => (r level d).map f

/-- Refuses some of the values that a reader gives. -/
def filterMap (expected : String) (f : α → Option β) (r : Reader α) : Reader β :=
  fun level d => do
    let a ← r level d
    match f a with
    | some b => .ok b
    | none => .error (.mismatch expected)

def unit : Reader Unit
  | _, .null => .ok ()
  | _, .number n => do let _ ← numeral n; .error (.mismatch "null")
  | _, _ => .error (.mismatch "null")

def bool : Reader Bool
  | _, .bool b => .ok b
  | _, _ => .error (.mismatch "boolean")

def string : Reader String
  | _, .text ps => pieces ps
  | _, _ => .error (.mismatch "string")

def number : Reader Number
  | _, .number n => numeral n
  | _, _ => .error (.mismatch "number")

/-- Natural numbers up to a bound. -/
def natUpTo (bound : Nat) : Reader Nat :=
  number.filterMap "natural number" fun
    | .natural n => if n ≤ bound then some n else none
    | _ => none

/-- Integers of 64 bits. -/
def int64 : Reader Int :=
  number.filterMap "integer" fun
    | .natural n => if n < Nat.pow 2 63 then some n else none
    | .negative m => if m ≤ Nat.pow 2 63 then some (-(m : Int)) else none
    | .real _ => none

def float : Reader Float :=
  number.map fun
    | .natural n => (UInt64.ofNat n).toFloat
    | .negative m => -(UInt64.ofNat m).toFloat
    | .real bits => Float.ofBits bits

/-- Null is the absence of a value. -/
def option (r : Reader α) : Reader (Option α)
  | _, .null => .ok none
  | level, d => (r level d).map some

def items (r : Reader α) (level : Nat) : List Document → Except Fault (List α)
  | [] => .ok []
  | d :: ds => do
      let a ← r level d
      let rest ← items r level ds
      .ok (a :: rest)

def list (r : Reader α) : Reader (List α)
  | level, .array ds => enter level fun inner => items r inner ds
  | _, _ => .error (.mismatch "array")

def members (r : Reader α) (level : Nat) :
    List (List Piece × Document) → Except Fault (List (String × α))
  | [] => .ok []
  | (name, d) :: ms => do
      let key ← pieces name
      let a ← r level d
      let rest ← members r level ms
      .ok ((key, a) :: rest)

/-- An object with free names; the last member of a name counts. -/
def table (r : Reader α) : Reader (Table α)
  | level, .object ms => enter level fun inner => (members r inner ms).map Table.ofList
  | _, _ => .error (.mismatch "object")

/-- A name, alone or as the only member of an object whose value is null. -/
def choice (expected : String) (named? : String → Option α) : Reader α
  | _, .text ps => do
      match named? (← pieces ps) with
      | some a => .ok a
      | none => .error (.mismatch expected)
  | level, .object [(name, d)] =>
      enter level fun inner => do
        match named? (← pieces name) with
        | some a => do
            let _ ← unit inner d
            .ok a
        | none => .error (.mismatch expected)
  | _, _ => .error (.mismatch expected)

end Reader

mutual

/-- Any value; its objects have ascending names, and the last member of a name counts. -/
def ofDocument (level : Nat) : Document → Except Fault Json
  | .null => .ok .null
  | .bool b => .ok (.bool b)
  | .number n => (numeral n).map .number
  | .text ps => (pieces ps).map .text
  | .array ds =>
      match level with
      | 0 => .error .tooDeep
      | inner + 1 => (ofItems inner ds).map .array
  | .object ms =>
      match level with
      | 0 => .error .tooDeep
      | inner + 1 => (ofMembers inner ms).map fun entries => .object (Table.ofList entries)

def ofItems (level : Nat) : List Document → Except Fault (List Json)
  | [] => .ok []
  | d :: ds => do
      let a ← ofDocument level d
      let rest ← ofItems level ds
      .ok (a :: rest)

def ofMembers (level : Nat) : List (List Piece × Document) → Except Fault (List (String × Json))
  | [] => .ok []
  | (name, d) :: ms => do
      let key ← pieces name
      let a ← ofDocument level d
      let rest ← ofMembers level ms
      .ok ((key, a) :: rest)

end

/-- The fields of a record as a document gives them. -/
structure Fields where
  /-- The containers that the fields' values may open. -/
  level : Nat
  /-- An object names its fields; an array has them in order. -/
  byName : Bool
  given : List (String × Document)

namespace Fields

/-- The named members of an object: a known name occurs once, and an unknown one is skipped or
refused. -/
def collect (names : List String) (closed : Bool) :
    List (List Piece × Document) → Except Fault (List (String × Document))
  | [] => .ok []
  | (name, d) :: ms => do
      let key ← pieces name
      let rest ← collect names closed ms
      if key ∈ names then
        if rest.any (fun entry => entry.1 == key) then .error (.repeatedField key)
        else .ok ((key, d) :: rest)
      else if closed then .error (.unknownField key)
      else .ok rest

def find? (f : Fields) (name : String) : Option Document :=
  (f.given.find? fun entry => entry.1 == name).map Prod.snd

def required (f : Fields) (name : String) (r : Reader α) : Except Fault α :=
  match f.find? name with
  | some d => r f.level d
  | none => .error (.missingField name)

/-- A field that has a value of its own when it is left out. -/
def defaulted (f : Fields) (name : String) (value : α) (r : Reader α) : Except Fault α :=
  match f.find? name with
  | some d => r f.level d
  | none => .ok value

/-- A field that may be null; only an object may leave it out. -/
def optional (f : Fields) (name : String) (r : Reader α) : Except Fault (Option α) :=
  match f.find? name with
  | some d => r.option f.level d
  | none => if f.byName then .ok none else .error (.missingField name)

end Fields

/-- A record with the given field names, in their order. -/
def Reader.record (names : List String) (closed : Bool)
    (build : Fields → Except Fault α) : Reader α
  | level, .object ms =>
      enter level fun inner => do
        let given ← Fields.collect names closed ms
        build ⟨inner, true, given⟩
  | level, .array ds =>
      enter level fun inner =>
        if ds.length ≤ names.length then build ⟨inner, false, names.zip ds⟩
        else .error (.mismatch "fewer items")
  | _, _ => .error (.mismatch "record")

def Reader.value : Reader Json :=
  ofDocument

/-- Reads a whole text. -/
def read (r : Reader α) (text : String) : Except Fault α :=
  match Document.parse? text.toList with
  | some d => r depthLimit d
  | none => .error .malformed

/-- Reads a value that is already there, such as null. -/
def nullAs (r : Reader α) : Except Fault α :=
  r depthLimit .null

def parse (text : String) : Except Fault Json :=
  read Reader.value text

end HttpService.Json

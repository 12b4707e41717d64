import HttpService.Decimal.Shortest
import HttpService.Table

/-!
# JSON values and their text

Values as they are written: an object keeps its members in the order given, which for a record is
the order of its fields and for a free-form value the order of its names.
-/

namespace HttpService

/-- Integers keep their exact value; every other number is binary64, given by its bits. -/
inductive Number
  | natural (n : Nat)
  | negative (magnitude : Nat)
  | real (bits : UInt64)
  deriving DecidableEq, Repr, Inhabited

inductive Json
  | null
  | bool (b : Bool)
  | number (n : Number)
  | text (s : String)
  | array (items : List Json)
  | object (members : List (String × Json))
  deriving Repr, Inhabited

namespace Number

/-- Equality of values: the two zeros of binary64 are one value. -/
def same : Number → Number → Bool
  | natural a, natural b => a == b
  | negative a, negative b => a == b
  | real a, real b => Float.ofBits a == Float.ofBits b
  | _, _ => false

/-- Floating-point numbers are positional from `1e-5` up to below `1e16`. -/
def layout : Decimal.Layout :=
  ⟨-5, 15, true⟩

def render : Number → String
  | natural n => String.ofList (Nat.toDigits 10 n)
  | negative m => String.ofList ('-' :: Nat.toDigits 10 m)
  | real bits => layout.writeBits bits

end Number

namespace Json

def ofNat (n : Nat) : Json :=
  .number (.natural n)

def ofInt : Int → Json
  | .ofNat n => .number (.natural n)
  | .negSucc n => .number (.negative (n + 1))

/-- A number without a decimal text, infinite or undefined, is written as null. -/
def ofFloat (x : Float) : Json :=
  if x.isFinite then .number (.real x.toBits) else .null

def ofOption (f : α → Json) : Option α → Json
  | none => .null
  | some a => f a

def ofText? : Option String → Json :=
  ofOption .text

/-- The object of a table: its members are in ascending order of their names. -/
def ofTable (t : Table Json) : Json :=
  .object t

mutual

def same : Json → Json → Bool
  | .null, .null => true
  | .bool a, .bool b => a == b
  | .number a, .number b => a.same b
  | .text a, .text b => a == b
  | .array xs, .array ys => sameItems xs ys
  | .object xs, .object ys => sameMembers xs ys
  | _, _ => false

def sameItems : List Json → List Json → Bool
  | [], [] => true
  | x :: xs, y :: ys => same x y && sameItems xs ys
  | _, _ => false

def sameMembers : List (String × Json) → List (String × Json) → Bool
  | [], [] => true
  | (a, x) :: xs, (b, y) :: ys => a == b && same x y && sameMembers xs ys
  | _, _ => false

end

def hexDigit (n : Nat) : Char :=
  if n < 10 then Char.ofNat (48 + n) else Char.ofNat (87 + n)

/-- One character inside a JSON string: quotes, backslashes and control characters are escaped. -/
def escapeChar (c : Char) : List Char :=
  if c == '"' then ['\\', '"']
  else if c == '\\' then ['\\', '\\']
  else if c == '\n' then ['\\', 'n']
  else if c == '\r' then ['\\', 'r']
  else if c == '\t' then ['\\', 't']
  else if c.toNat == 8 then ['\\', 'b']
  else if c.toNat == 12 then ['\\', 'f']
  else if c.toNat < 32 then
    ['\\', 'u', '0', '0', hexDigit (c.toNat / 16), hexDigit (c.toNat % 16)]
  else [c]

def renderText (s : String) : List Char :=
  '"' :: s.toList.flatMap escapeChar ++ ['"']

mutual

/-- The compact text of a value. -/
def renderChars : Json → List Char
  | .null => ['n', 'u', 'l', 'l']
  | .bool true => ['t', 'r', 'u', 'e']
  | .bool false => ['f', 'a', 'l', 's', 'e']
  | .number n => n.render.toList
  | .text s => renderText s
  | .array [] => ['[', ']']
  | .array (x :: xs) => '[' :: renderChars x ++ renderItems xs
  | .object [] => ['\x7b', '\x7d']
  | .object ((k, v) :: ms) => '\x7b' :: renderText k ++ ':' :: renderChars v ++ renderMembers ms

def renderItems : List Json → List Char
  | [] => [']']
  | x :: xs => ',' :: renderChars x ++ renderItems xs

def renderMembers : List (String × Json) → List Char
  | [] => ['\x7d']
  | (k, v) :: ms => ',' :: renderText k ++ ':' :: renderChars v ++ renderMembers ms

end

def render (j : Json) : String :=
  String.ofList j.renderChars

mutual

/-- How many containers enclose the innermost value. -/
def depth : Json → Nat
  | .array xs => depthItems xs + 1
  | .object ms => depthMembers ms + 1
  | _ => 0

def depthItems : List Json → Nat
  | [] => 0
  | x :: xs => max x.depth (depthItems xs)

def depthMembers : List (String × Json) → Nat
  | [] => 0
  | (_, v) :: ms => max v.depth (depthMembers ms)

end

end Json

end HttpService

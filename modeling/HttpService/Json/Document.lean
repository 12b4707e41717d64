import HttpService.Json.Value

/-!
# JSON documents

A document as it was written, before anything is read from it: numerals keep their digits and
objects keep repeated names. A part that nobody reads has no range, depth or surrogate to check, so
those checks belong to reading.
-/

namespace HttpService.Json

/-- A numeral as written; the fraction is empty when there is no point. -/
structure Numeral where
  negative : Bool
  whole : List Nat
  fraction : List Nat
  /-- The sign and the digits of the exponent: `true` for a minus. -/
  exponent : Option (Bool × List Nat)
  deriving Repr, DecidableEq

/-- A string character as written: itself or a short escape, or a four-digit escape. -/
inductive Piece
  | char (c : Char)
  | unit (n : Nat)
  deriving Repr, DecidableEq

inductive Document
  | null
  | bool (b : Bool)
  | number (n : Numeral)
  | text (pieces : List Piece)
  | array (items : List Document)
  | object (members : List (List Piece × Document))
  deriving Repr, Inhabited

def isSpace (c : Char) : Bool :=
  c == ' ' || c == '\n' || c == '\t' || c == '\r'

def skipSpace (cs : List Char) : List Char :=
  cs.dropWhile isSpace

def digit? (c : Char) : Option Nat :=
  if '0' ≤ c && c ≤ '9' then some (c.toNat - 48) else none

/-- The digits at the start, and the rest. -/
def takeDigits : List Char → List Nat × List Char
  | [] => ([], [])
  | c :: rest =>
      match digit? c with
      | none => ([], c :: rest)
      | some d =>
          let (ds, after) := takeDigits rest
          (d :: ds, after)

def hexValue? (c : Char) : Option Nat :=
  if '0' ≤ c && c ≤ '9' then some (c.toNat - 48)
  else if 'a' ≤ c && c ≤ 'f' then some (c.toNat - 87)
  else if 'A' ≤ c && c ≤ 'F' then some (c.toNat - 55)
  else none

/-- The characters named by one letter after a backslash. -/
def shortEscape? : Char → Option Char
  | '"' => some '"'
  | '\\' => some '\\'
  | '/' => some '/'
  | 'b' => some '\x08'
  | 'f' => some '\x0c'
  | 'n' => some '\n'
  | 'r' => some '\r'
  | 't' => some '\t'
  | _ => none

/-- The rest of a string whose opening quote has been read, up to its closing quote. -/
def string? : List Char → Option (List Piece × List Char)
  | [] => none
  | '"' :: rest => some ([], rest)
  | '\\' :: 'u' :: a :: b :: c :: d :: rest => do
      let high := 16 * (← hexValue? a) + (← hexValue? b)
      let n := 256 * high + 16 * (← hexValue? c) + (← hexValue? d)
      let (pieces, after) ← string? rest
      some (.unit n :: pieces, after)
  | '\\' :: e :: rest => do
      let c ← shortEscape? e
      let (pieces, after) ← string? rest
      some (.char c :: pieces, after)
  | c :: rest =>
      if c.toNat < 32 || c == '\\' then none
      else do
        let (pieces, after) ← string? rest
        some (.char c :: pieces, after)

/-- The fraction of a numeral: empty without a point, and never empty after one. -/
def fraction? : List Char → Option (List Nat × List Char)
  | '.' :: rest =>
      match takeDigits rest with
      | ([], _) => none
      | found => some found
  | cs => some ([], cs)

def exponentDigits? (negative : Bool) (cs : List Char) :
    Option (Option (Bool × List Nat) × List Char) :=
  match takeDigits cs with
  | ([], _) => none
  | (ds, rest) => some (some (negative, ds), rest)

def exponent? : List Char → Option (Option (Bool × List Nat) × List Char)
  | c :: rest =>
      if c == 'e' || c == 'E' then
        match rest with
        | '-' :: after => exponentDigits? true after
        | '+' :: after => exponentDigits? false after
        | after => exponentDigits? false after
      else some (none, c :: rest)
  | [] => some (none, [])

/-- A numeral after its sign; a leading zero stands alone. -/
def unsigned? (negative : Bool) (cs : List Char) : Option (Numeral × List Char) := do
  let (whole, rest) := takeDigits cs
  match whole with
  | [] => none
  | 0 :: _ :: _ => none
  | _ =>
      let (fraction, rest) ← fraction? rest
      let (exponent, rest) ← exponent? rest
      some (⟨negative, whole, fraction, exponent⟩, rest)

def numeral? : List Char → Option (Numeral × List Char)
  | '-' :: rest => unsigned? true rest
  | cs => unsigned? false cs

mutual

/-- A value at the start, after blanks. -/
def value? : Nat → List Char → Option (Document × List Char)
  | 0, _ => none
  | fuel + 1, cs =>
      match skipSpace cs with
      | 'n' :: 'u' :: 'l' :: 'l' :: rest => some (.null, rest)
      | 't' :: 'r' :: 'u' :: 'e' :: rest => some (.bool true, rest)
      | 'f' :: 'a' :: 'l' :: 's' :: 'e' :: rest => some (.bool false, rest)
      | '"' :: rest => do
          let (pieces, after) ← string? rest
          some (.text pieces, after)
      | '[' :: rest =>
          match skipSpace rest with
          | ']' :: after => some (.array [], after)
          | inside => do
              let (items, after) ← items? fuel inside
              some (.array items, after)
      | '\x7b' :: rest =>
          match skipSpace rest with
          | '\x7d' :: after => some (.object [], after)
          | inside => do
              let (members, after) ← members? fuel inside
              some (.object members, after)
      | rest => do
          let (n, after) ← numeral? rest
          some (.number n, after)

/-- One or more values between commas, and the closing bracket. -/
def items? : Nat → List Char → Option (List Document × List Char)
  | 0, _ => none
  | fuel + 1, cs => do
      let (item, rest) ← value? fuel cs
      match skipSpace rest with
      | ',' :: more =>
          let (items, after) ← items? fuel more
          some (item :: items, after)
      | ']' :: after => some ([item], after)
      | _ => none

/-- One or more members between commas, and the closing brace. -/
def members? : Nat → List Char → Option (List (List Piece × Document) × List Char)
  | 0, _ => none
  | fuel + 1, cs =>
      match skipSpace cs with
      | '"' :: rest => do
          let (name, rest) ← string? rest
          match skipSpace rest with
          | ':' :: rest =>
              let (value, rest) ← value? fuel rest
              match skipSpace rest with
              | ',' :: more =>
                  let (members, after) ← members? fuel more
                  some ((name, value) :: members, after)
              | '\x7d' :: after => some ([(name, value)], after)
              | _ => none
          | _ => none
      | _ => none

end

/-- The document that is the whole text, blanks around it apart. -/
def Document.parse? (cs : List Char) : Option Document :=
  match value? (2 * cs.length + 2) cs with
  | some (d, rest) => if (skipSpace rest).isEmpty then some d else none
  | none => none

end HttpService.Json

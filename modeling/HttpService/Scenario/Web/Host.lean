import HttpService.Encoding.Form
import HttpService.Net.Address
import HttpService.Scenario.Web.Punycode

/-!
# Hosts of a scenario

The host of an address: a domain name in small letters, or an address of version 4 or 6. A name
whose last part is a number is an address of version 4, and none at all if the numbers do not fit.
Names that only the tables of international names would map or refuse do not occur in scenarios.
-/

namespace HttpService.Scenario

inductive Host
  | domain (name : String)
  | address (ip : IpAddress)
  deriving DecidableEq, Repr

namespace Host

/-! ## Version 4 with numbers of several kinds -/

inductive V4Part
  | number (n : Nat)
  | tooLarge
  deriving DecidableEq, Repr

def valueOf? (radix : Nat) (cs : List Char) : Option V4Part :=
  let (ds, rest) := IpAddress.spanDigits radix cs
  if !rest.isEmpty then none
  else
    let n := ds.foldl (fun acc d => acc * radix + d) 0
    some (if n < Nat.pow 2 32 then .number n else .tooLarge)

/-- A number in base 10, or after a zero in base 8, or after `0x` in base 16. -/
def part? : List Char → Option V4Part
  | [] => none
  | '0' :: 'x' :: rest | '0' :: 'X' :: rest => valueOf? 16 rest
  | ['0'] => some (.number 0)
  | '0' :: rest => valueOf? 8 rest
  | cs => valueOf? 10 cs

/-- The parts between dots; a dot at the end is not counted. -/
def v4Parts (cs : List Char) : List (List Char) :=
  let parts := Text.splitChars '.' cs
  if parts.getLast? == some [] then parts.dropLast else parts

def endsInNumber (cs : List Char) : Bool :=
  match (v4Parts cs).getLast? with
  | none => false
  | some last => (!last.isEmpty && last.all Char.isDigit) || (part? last).isSome

/-- All numbers but the last are bytes, and the last one fills the bytes that are left. -/
def v4OfNumbers? (numbers : List Nat) : Option IpAddress :=
  match numbers.reverse with
  | [] => none
  | last :: leading =>
      let lead := leading.reverse
      if 3 < lead.length || lead.any (255 < ·) || Nat.pow 256 (4 - lead.length) ≤ last then none
      else
        let n := (lead.zip [3, 2, 1]).foldl (fun n (b, place) => n + b * Nat.pow 256 place) last
        some (.v4 (n / Nat.pow 256 3) (n / Nat.pow 256 2 % 256) (n / 256 % 256) (n % 256))

def v4? (cs : List Char) : Option IpAddress := do
  let parts ← (v4Parts cs).mapM part?
  let numbers ← parts.mapM fun
    | .number n => some n
    | .tooLarge => none
  v4OfNumbers? numbers

/-- An address of version 6 between brackets. -/
def bracketed? (cs : List Char) : Option Host :=
  match cs.getLast? with
  | some ']' =>
      match IpAddress.v6? (cs.drop 1).dropLast with
      | some (groups, []) => some (.address (.v6 groups))
      | _ => none
  | _ => none

/-! ## Names -/

def isControl (c : Char) : Bool :=
  c.toNat < 0x20 || c.toNat == 0x7F

/-- The characters that no domain name has. -/
def isForbidden (c : Char) : Bool :=
  isControl c || " %#/:<>?@[\\]^|".toList.contains c

/-- The dots that separate labels. -/
def isDot (c : Char) : Bool :=
  c == '.' || c == '\u3002' || c == '\uFF0E' || c == '\uFF61'

def asciiLabel (label : List Char) : List Char :=
  if label.all fun c => c.toNat < 0x80 then label
  else 'x' :: 'n' :: '-' :: '-' :: Punycode.encode label

/-- A domain name in small letters of ASCII. -/
def asciiName (name : List Char) : List Char :=
  let small := name.map fun c => if isDot c then '.' else c.toLower
  ['.'].intercalate ((Text.splitChars '.' small).map asciiLabel)

/-- Reads the host of a web address. -/
def parse? (s : String) : Option Host :=
  if Text.startsWith s "[" then bracketed? s.toList
  else do
    let decoded ← Text.ofUtf8? (Encoding.Form.percentDecode (Text.utf8 s))
    let name := asciiName decoded.toList
    if name.isEmpty || name.any isForbidden then none
    else if endsInNumber name then (v4? name).map .address
    else some (.domain (String.ofList name))

/-- A byte as a percent sign and two hexadecimal digits. -/
def percent (b : UInt8) : List Char :=
  let digit (n : Nat) : Char := Char.ofNat (if n < 10 then 48 + n else 55 + n)
  ['%', digit (b.toNat / 16), digit (b.toNat % 16)]

/-- Writes the bytes of the characters outside ASCII, and of those in a set, as escapes. -/
def percentEncode (escaped : Char → Bool) (cs : List Char) : List Char :=
  cs.flatMap fun c =>
    if c.toNat < 0x80 && !escaped c then [c]
    else (Text.utf8 (String.singleton c)).flatMap percent

/-- Reads the host of an address of another kind, where names are not looked into. -/
def parseOpaque? (s : String) : Option Host :=
  if Text.startsWith s "[" then bracketed? s.toList
  else if s.toList.any fun c => "\x00\t\n\r #/:<>?@[\\]^|".toList.contains c then none
  else some (.domain (String.ofList (percentEncode isControl s.toList)))

/-- The groups of an address of version 6, its first longest run of zeros left out. -/
def groupsText (groups : List Nat) : String :=
  let (start, len) := IpAddress.longestRun 0 groups
  if len > 1 then
    IpAddress.hexGroups (groups.take start) ++ "::" ++
      IpAddress.hexGroups (groups.drop (start + len))
  else IpAddress.hexGroups groups

def toString : Host → String
  | domain name => name
  | address (.v6 groups) => "[" ++ groupsText groups ++ "]"
  | address ip => ip.toString

end Host

end HttpService.Scenario

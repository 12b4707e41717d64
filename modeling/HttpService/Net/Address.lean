/-!
# Network addresses

Addresses of version 4 and 6, alone or with a port, as text in both directions. A version 6 address
is written with its first longest run of two or more zero groups left out.
-/

namespace HttpService

inductive IpAddress
  | v4 (a b c d : Nat)
  | v6 (groups : List Nat)
  deriving DecidableEq, Repr

/-- An address and a port; a version 6 address may have a zone. -/
structure SocketAddress where
  ip : IpAddress
  zone : Nat := 0
  port : Nat
  deriving DecidableEq, Repr

namespace IpAddress

def digitValue? (radix : Nat) (c : Char) : Option Nat :=
  let v :=
    if '0' ≤ c && c ≤ '9' then c.toNat - 48
    else if 'a' ≤ c && c ≤ 'f' then c.toNat - 87
    else if 'A' ≤ c && c ≤ 'F' then c.toNat - 55
    else 16
  if v < radix then some v else none

/-- The digits at the start, and the rest. -/
def spanDigits (radix : Nat) : List Char → List Nat × List Char
  | [] => ([], [])
  | c :: rest =>
      match digitValue? radix c with
      | none => ([], c :: rest)
      | some d =>
          let (ds, after) := spanDigits radix rest
          (d :: ds, after)

/-- A number below a bound, with at most so many digits, or any number of them. -/
def number? (radix : Nat) (maxDigits : Option Nat) (leadingZeros : Bool) (bound : Nat)
    (cs : List Char) : Option (Nat × List Char) :=
  let (ds, rest) := spanDigits radix cs
  let value := ds.foldl (fun acc d => acc * radix + d) 0
  let tooLong := match maxDigits with
    | some m => ds.length > m
    | none => false
  if ds.isEmpty || tooLong then none
  else if !leadingZeros && ds.head? == some 0 && ds.length > 1 then none
  else if value < bound then some (value, rest)
  else none

def expect? (c : Char) : List Char → Option (List Char)
  | d :: rest => if c = d then some rest else none
  | [] => none

def octet? : List Char → Option (Nat × List Char) :=
  number? 10 (some 3) false 256

def v4? (cs : List Char) : Option ((Nat × Nat × Nat × Nat) × List Char) := do
  let (a, cs) ← octet? cs
  let cs ← expect? '.' cs
  let (b, cs) ← octet? cs
  let cs ← expect? '.' cs
  let (c, cs) ← octet? cs
  let cs ← expect? '.' cs
  let (d, cs) ← octet? cs
  some ((a, b, c, d), cs)

/-- A colon, except before the first group. -/
def separated (first : Bool) (cs : List Char) : Option (List Char) :=
  if first then some cs else expect? ':' cs

/-- Up to `limit` groups; the last two may be written as an address of version 4, which the flag
tells. -/
def groups (first : Bool) : Nat → List Char → List Nat × Bool × List Char
  | 0, cs => ([], false, cs)
  | limit + 1, cs =>
      let embedded :=
        if limit = 0 then none else (separated first cs).bind v4?
      match embedded with
      | some ((a, b, c, d), rest) => ([a * 256 + b, c * 256 + d], true, rest)
      | none =>
          match (separated first cs).bind (number? 16 (some 4) true 65536) with
          | none => ([], false, cs)
          | some (g, rest) =>
              let (more, mixed, after) := groups false limit rest
              (g :: more, mixed, after)

def v6? (cs : List Char) : Option (List Nat × List Char) := do
  let (head, embedded, rest) := groups true 8 cs
  if head.length = 8 then some (head, rest)
  else if embedded then none
  else
    let rest ← expect? ':' rest
    let rest ← expect? ':' rest
    let (tail, _, rest) := groups true (7 - head.length) rest
    some (head ++ List.replicate (8 - head.length - tail.length) 0 ++ tail, rest)

def hex (n : Nat) : String :=
  String.ofList (Nat.toDigits 16 n)

/-- Length of the run of zeros at the start. -/
def zeroRun : List Nat → Nat
  | 0 :: rest => zeroRun rest + 1
  | _ => 0

/-- Start and length of the first longest run of zeros. -/
def longestRun : Nat → List Nat → Nat × Nat
  | _, [] => (0, 0)
  | i, g :: rest =>
      let here := zeroRun (g :: rest)
      let later := longestRun (i + 1) rest
      if here ≥ later.2 then (i, here) else later

def hexGroups (gs : List Nat) : String :=
  ":".intercalate (gs.map hex)

def dotted (a b c d : Nat) : String :=
  toString a ++ "." ++ toString b ++ "." ++ toString c ++ "." ++ toString d

def toString : IpAddress → String
  | v4 a b c d => dotted a b c d
  | v6 [0, 0, 0, 0, 0, 65535, x, y] =>
      "::ffff:" ++ dotted (x / 256) (x % 256) (y / 256) (y % 256)
  | v6 gs =>
      let (start, len) := longestRun 0 gs
      if len > 1 then hexGroups (gs.take start) ++ "::" ++ hexGroups (gs.drop (start + len))
      else hexGroups gs

end IpAddress

namespace SocketAddress

open IpAddress

def port? (cs : List Char) : Option (Nat × List Char) := do
  let cs ← expect? ':' cs
  number? 10 none true 65536 cs

def v4? (cs : List Char) : Option SocketAddress := do
  let ((a, b, c, d), cs) ← IpAddress.v4? cs
  let (port, cs) ← port? cs
  if cs.isEmpty then some { ip := .v4 a b c d, port := port } else none

def v6? (cs : List Char) : Option SocketAddress := do
  let cs ← expect? '[' cs
  let (gs, cs) ← IpAddress.v6? cs
  let (zone, cs) ← match cs with
    | '%' :: rest => number? 10 none true (Nat.pow 2 32) rest
    | _ => some (0, cs)
  let cs ← expect? ']' cs
  let (port, cs) ← port? cs
  if cs.isEmpty then some { ip := .v6 gs, zone := zone, port := port } else none

/-- Reads `address:port`, with brackets around an address of version 6. -/
def parse? (s : String) : Option SocketAddress :=
  (v4? s.toList).or (v6? s.toList)

def toString (a : SocketAddress) : String :=
  match a.ip with
  | .v4 .. => a.ip.toString ++ ":" ++ ToString.toString a.port
  | .v6 _ =>
      let zone := if a.zone = 0 then "" else "%" ++ ToString.toString a.zone
      "[" ++ a.ip.toString ++ zone ++ "]:" ++ ToString.toString a.port

end SocketAddress

end HttpService

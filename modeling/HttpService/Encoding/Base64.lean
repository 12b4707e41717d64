import HttpService.Encoding.Base64Url

/-!
# Base64 with padding

Six bits a character in groups of four, the last one filled up with one or two equals signs. Blanks
do not count.
-/

namespace HttpService.Encoding.Base64

def isSkipped (c : Char) : Bool :=
  c == ' ' || c == '\t' || c == '\n' || c == '\r'

/-- The character that stands for the same bits in an address, where plus and slash have another
meaning. -/
def urlChar (c : Char) : Option Char :=
  if c == '+' then some '-'
  else if c == '/' then some '_'
  else if c == '-' || c == '_' then none
  else some c

/-- The six bits of a character. -/
def valueOf? (c : Char) : Option Nat :=
  (urlChar c).bind Base64Url.valueOf?

/-- The bytes of full groups; bits that a short last group leaves over do not matter. -/
def groups? : List Char → Option (List UInt8)
  | [] => some []
  | [a, b, '=', '='] => do
      let n := (← valueOf? a) * 64 + (← valueOf? b)
      some [UInt8.ofNat (n / 16)]
  | [a, b, c, '='] => do
      let n := (← valueOf? a) * 4096 + (← valueOf? b) * 64 + (← valueOf? c)
      some [UInt8.ofNat (n / 1024), UInt8.ofNat (n / 4 % 256)]
  | a :: b :: c :: d :: rest => do
      let high := (← valueOf? a) * 64 + (← valueOf? b)
      let n := high * 4096 + (← valueOf? c) * 64 + (← valueOf? d)
      let bytes ← groups? rest
      some (UInt8.ofNat (n / 65536) :: UInt8.ofNat (n / 256 % 256) :: UInt8.ofNat (n % 256) ::
        bytes)
  | _ => none

def decode? (cs : List Char) : Option (List UInt8) :=
  groups? (cs.filter fun c => !isSkipped c)

/-- The character for the same bits outside addresses. -/
def plainChar (c : Char) : Char :=
  if c == '-' then '+' else if c == '_' then '/' else c

def encode (bytes : List UInt8) : String :=
  let cs := (Base64Url.encodeChars bytes).map plainChar
  String.ofList (cs ++ List.replicate ((4 - cs.length % 4) % 4) '=')

end HttpService.Encoding.Base64

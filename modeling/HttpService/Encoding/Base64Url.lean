/-!
# Base64 for URLs

Six bits a character, without padding. Decoding accepts exactly what encoding produces: characters
outside the alphabet, a single character left over and left-over bits that are set are refused.
-/

namespace HttpService.Encoding.Base64Url

/-- The character for six bits. -/
def charOf (n : Nat) : Char :=
  if n < 26 then Char.ofNat (65 + n)
  else if n < 52 then Char.ofNat (71 + n)
  else if n < 62 then Char.ofNat (n - 4)
  else if n == 62 then '-' else '_'

def valueOf? (c : Char) : Option Nat :=
  if 'A' ≤ c && c ≤ 'Z' then some (c.toNat - 65)
  else if 'a' ≤ c && c ≤ 'z' then some (c.toNat - 71)
  else if '0' ≤ c && c ≤ '9' then some (c.toNat + 4)
  else if c == '-' then some 62
  else if c == '_' then some 63
  else none

def encodeChars : List UInt8 → List Char
  | a :: b :: c :: rest =>
      let n := a.toNat * 65536 + b.toNat * 256 + c.toNat
      charOf (n / 262144) :: charOf (n / 4096 % 64) :: charOf (n / 64 % 64) :: charOf (n % 64) ::
        encodeChars rest
  | [a, b] =>
      let n := a.toNat * 1024 + b.toNat * 4
      [charOf (n / 4096), charOf (n / 64 % 64), charOf (n % 64)]
  | [a] => [charOf (a.toNat / 4), charOf (a.toNat % 4 * 16)]
  | [] => []

def decodeChars? : List Char → Option (List UInt8)
  | a :: b :: c :: d :: rest => do
      let high := (← valueOf? a) * 64 + (← valueOf? b)
      let n := high * 4096 + (← valueOf? c) * 64 + (← valueOf? d)
      let bytes ← decodeChars? rest
      some (UInt8.ofNat (n / 65536) :: UInt8.ofNat (n / 256 % 256) :: UInt8.ofNat (n % 256) ::
        bytes)
  | [a, b, c] => do
      let n := (← valueOf? a) * 4096 + (← valueOf? b) * 64 + (← valueOf? c)
      if n % 4 == 0 then some [UInt8.ofNat (n / 1024), UInt8.ofNat (n / 4 % 256)] else none
  | [a, b] => do
      let n := (← valueOf? a) * 64 + (← valueOf? b)
      if n % 16 == 0 then some [UInt8.ofNat (n / 16)] else none
  | [_] => none
  | [] => some []

def encode (bytes : List UInt8) : String :=
  String.ofList (encodeChars bytes)

def decode? (text : String) : Option (List UInt8) :=
  decodeChars? text.toList

end HttpService.Encoding.Base64Url

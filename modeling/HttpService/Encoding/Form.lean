import HttpService.Text.Split
import HttpService.Text.Utf8

/-!
# Form-encoded pairs

Names and values between ampersands, where a plus is a blank and a percent sign with two hexadecimal
digits is a byte. A percent sign without them stands for itself.
-/

namespace HttpService.Encoding.Form

def hexValue? (b : UInt8) : Option Nat :=
  let n := b.toNat
  if 48 ≤ n && n ≤ 57 then some (n - 48)
  else if 97 ≤ n && n ≤ 102 then some (n - 87)
  else if 65 ≤ n && n ≤ 70 then some (n - 55)
  else none

/-- The bytes that percent escapes stand for. -/
def percentDecode : List UInt8 → List UInt8
  | 37 :: hi :: lo :: rest =>
      match hexValue? hi, hexValue? lo with
      | some h, some l => UInt8.ofNat (h * 16 + l) :: percentDecode rest
      | _, _ => 37 :: percentDecode (hi :: lo :: rest)
  | b :: rest => b :: percentDecode rest
  | [] => []

def decode (s : String) : String :=
  let spaced := String.ofList (s.toList.map fun c => if c == '+' then ' ' else c)
  Text.lossyUtf8 (percentDecode (Text.utf8 spaced))

/-- The pairs in order; a part without an equals sign has an empty value, and an empty part is
skipped. -/
def pairs (query : String) : List (String × String) :=
  ((Text.split '&' query).filter fun part => !part.isEmpty).map fun part =>
    let (name, value) := Text.cut '=' part
    (decode name, decode (value.getD ""))

end HttpService.Encoding.Form

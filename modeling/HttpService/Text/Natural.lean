/-!
# Natural numbers as text

Decimal digits, with a plus sign before them or not.
-/

namespace HttpService.Text

def digit? (c : Char) : Option Nat :=
  if '0' ≤ c && c ≤ '9' then some (c.toNat - 48) else none

/-- The number of one or more digits. -/
def digits? (cs : List Char) : Option Nat :=
  if cs.isEmpty then none
  else cs.foldlM (fun acc c => (digit? c).map fun d => acc * 10 + d) 0

def natural? : List Char → Option Nat
  | '+' :: rest => digits? rest
  | cs => digits? cs

end HttpService.Text

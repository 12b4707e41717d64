/-!
# Shortest decimals

A finite binary64 number written with the fewest decimal digits that read back as that number, and
of those the nearest. The search is exact: it tests, for each number of digits, the two neighbours
of the value on the decimal grid of that many digits.
-/

namespace HttpService.Decimal

/-- A positive binary64 number `mantissa * 2 ^ exponent`, with the gap below it. -/
structure Binary where
  mantissa : Nat
  exponent : Int
  /-- At a power of two the lower neighbour is half as far away as the upper one. -/
  narrow : Bool

/-- The parts of a finite number from its bits, without the sign; zero has none. -/
def Binary.ofBits? (bits : UInt64) : Option Binary :=
  let fraction : Nat := bits.toNat % Nat.pow 2 52
  let biased : Nat := bits.toNat / Nat.pow 2 52 % Nat.pow 2 11
  if biased = 0 then
    if fraction = 0 then none else some ⟨fraction, -1074, false⟩
  else some ⟨Nat.pow 2 52 + fraction, (biased : Int) - 1075, fraction == 0 && biased > 1⟩

/-- The bounds of the reals that round to a number, and the number, as fractions over one
denominator: `low / den ≤ value / den ≤ high / den`. -/
structure Interval where
  low : Nat
  value : Nat
  high : Nat
  den : Nat
  /-- Whether the bounds themselves round to the number. -/
  closed : Bool

def Binary.interval (b : Binary) : Interval :=
  let scale (n : Nat) : Nat := if b.exponent ≥ 2 then n * Nat.pow 2 (b.exponent - 2).toNat else n
  { low := scale (if b.narrow then 4 * b.mantissa - 1 else 4 * b.mantissa - 2)
    value := scale (4 * b.mantissa)
    high := scale (4 * b.mantissa + 2)
    den := if b.exponent ≥ 2 then 1 else Nat.pow 2 (2 - b.exponent).toNat
    closed := b.mantissa % 2 == 0 }

/-- Whether `digits * 10 ^ power` lies in the interval. -/
def Interval.holds (i : Interval) (digits : Nat) (power : Int) : Bool :=
  let num := if power ≥ 0 then digits * Nat.pow 10 power.toNat * i.den else digits * i.den
  let up := if power ≥ 0 then 1 else Nat.pow 10 (-power).toNat
  if i.closed then i.low * up ≤ num && num ≤ i.high * up
  else i.low * up < num && num < i.high * up

/-- The greatest multiple of `10 ^ power` that is not above the value, and the remainder's size
against half a step. -/
def Interval.floor (i : Interval) (power : Int) : Nat × Ordering :=
  let num := if power ≥ 0 then i.value else i.value * Nat.pow 10 (-power).toNat
  let den := if power ≥ 0 then i.den * Nat.pow 10 power.toNat else i.den
  (num / den, compare (2 * (num % den)) den)

/-- The number of decimal digits before the point; zero or less for a value below one. -/
def Interval.magnitude (i : Interval) : Int :=
  if i.value ≥ i.den then (Nat.toDigits 10 (i.value / i.den)).length
  else
    let inverse := (i.den + i.value - 1) / i.value
    -- `10 ^ k ≥ 1 / value` first holds at `k`, so the first digit is `k` places after the point.
    1 - ((Nat.toDigits 10 (inverse - 1)).length : Int)

/-- A decimal number `digits * 10 ^ power`. -/
structure Scaled where
  digits : Nat
  power : Int
  deriving DecidableEq, Repr

/-- The point of one grid that reads back: the nearer of the two neighbours that do. -/
def Interval.onGrid? (i : Interval) (power : Int) : Option Scaled :=
  let (below, half) := i.floor power
  let downHolds := below > 0 && i.holds below power
  let upHolds := i.holds (below + 1) power
  if downHolds && upHolds then
    let up := half == .gt || (half == .eq && below % 2 == 1)
    some ⟨if up then below + 1 else below, power⟩
  else if downHolds then some ⟨below, power⟩
  else if upHolds then some ⟨below + 1, power⟩
  else none

/-- Tries grids from coarse to fine. -/
def Interval.search (i : Interval) (magnitude : Int) : Nat → Nat → Scaled
  | 0, _ => ⟨0, 0⟩
  | tries + 1, count =>
      match i.onGrid? (magnitude - count) with
      | some s => s
      | none => i.search magnitude tries (count + 1)

/-- The shortest decimal that reads back as the positive number. -/
def Binary.shortest (b : Binary) : Scaled :=
  let i := b.interval
  i.search i.magnitude 20 0

/-- Removes trailing zeros from the digits. -/
def Scaled.strip (s : Scaled) : Nat → Scaled
  | 0 => s
  | fuel + 1 =>
      if s.digits > 0 && s.digits % 10 == 0 then
        Scaled.strip ⟨s.digits / 10, s.power + 1⟩ fuel
      else s

/-- How a decimal is laid out. -/
structure Layout where
  /-- Scientific exponents written positionally. -/
  lowest : Int
  highest : Int
  /-- Whether a positive exponent carries its sign. -/
  plus : Bool
  deriving Repr

def zeros (n : Nat) : List Char :=
  List.replicate n '0'

/-- The text of `digits * 10 ^ power`; a number without fraction ends in `.0`. -/
def Layout.write (l : Layout) (s : Scaled) : String :=
  let s := s.strip 32
  let ds := Nat.toDigits 10 s.digits
  let point : Int := ds.length + s.power
  let exponent := point - 1
  let chars :=
    if l.lowest ≤ exponent && exponent ≤ l.highest then
      if s.power ≥ 0 then ds ++ zeros s.power.toNat ++ ['.', '0']
      else if point > 0 then ds.take point.toNat ++ '.' :: ds.drop point.toNat
      else '0' :: '.' :: zeros (-point).toNat ++ ds
    else
      let tail := ds.drop 1
      let mantissa := ds.take 1 ++ (if tail.isEmpty then [] else '.' :: tail)
      let sign := if exponent < 0 then ['-'] else if l.plus then ['+'] else []
      mantissa ++ 'e' :: sign ++ Nat.toDigits 10 exponent.natAbs
  String.ofList chars

/-- The text of a finite binary64 number given by its bits. -/
def Layout.writeBits (l : Layout) (bits : UInt64) : String :=
  let sign := if bits.toNat / Nat.pow 2 63 == 1 then "-" else ""
  match Binary.ofBits? bits with
  | none => sign ++ "0.0"
  | some b => sign ++ l.write b.shortest

end HttpService.Decimal

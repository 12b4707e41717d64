/-!
# Spans of time

Lengths of time in nanoseconds, up to the greatest number of whole seconds in 64 bits.
-/

namespace HttpService

structure Span where
  nanos : Nat
  deriving DecidableEq, Repr, Inhabited

namespace Span

def nanosPerSecond : Nat := 1000000000

def nanosPerMilli : Nat := 1000000

/-- The longest span: `2 ^ 64 - 1` seconds and almost one more. -/
def max : Span :=
  ⟨Nat.pow 2 64 * nanosPerSecond - 1⟩

def zero : Span := ⟨0⟩

def ofSeconds (n : Nat) : Span :=
  ⟨n * nanosPerSecond⟩

def ofMillis (n : Nat) : Span :=
  ⟨n * nanosPerMilli⟩

theorem nanos_ofSeconds (n : Nat) : (ofSeconds n).nanos = n * 1000000000 := rfl

/-- Whole seconds and the nanoseconds beyond them. -/
def seconds (s : Span) : Nat :=
  s.nanos / nanosPerSecond

def subsec (s : Span) : Nat :=
  s.nanos % nanosPerSecond

/-- Whole milliseconds, rounded down. -/
def millis (s : Span) : Nat :=
  s.nanos / nanosPerMilli

/-- Whole milliseconds, rounded up. -/
def millisUp (s : Span) : Nat :=
  (s.nanos + nanosPerMilli - 1) / nanosPerMilli

/-- A decimal number with `places` digits after the point, trailing zeros left out. -/
def decimal (whole fraction places : Nat) : String :=
  let digits := Nat.toDigits 10 fraction
  let padded := List.replicate (places - digits.length) '0' ++ digits
  let kept := (padded.reverse.dropWhile (· == '0')).reverse
  if fraction == 0 then toString whole
  else toString whole ++ "." ++ String.ofList kept

/-- The span in the largest unit of which it has at least one. -/
def describe (s : Span) : String :=
  let n := s.nanos
  if n ≥ nanosPerSecond then decimal (n / nanosPerSecond) (n % nanosPerSecond) 9 ++ "s"
  else if n ≥ nanosPerMilli then decimal (n / nanosPerMilli) (n % nanosPerMilli) 6 ++ "ms"
  else if n ≥ 1000 then decimal (n / 1000) (n % 1000) 3 ++ "µs"
  else toString n ++ "ns"

end Span

end HttpService

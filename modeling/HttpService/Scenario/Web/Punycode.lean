/-!
# Punycode

Labels of domain names in ASCII. The characters outside ASCII are written, in ascending order, as
distances from the one before, each as digits of base 36 with thresholds that follow the sizes seen
so far.
-/

namespace HttpService.Scenario.Punycode

def digit (d : Nat) : Char :=
  if d < 26 then Char.ofNat (97 + d) else Char.ofNat (22 + d)

/-- The least value of a digit after which more digits follow. -/
def threshold (place bias : Nat) : Nat :=
  if place ≤ bias then 1 else if bias + 26 ≤ place then 26 else place - bias

theorem threshold_pos (place bias : Nat) : 1 ≤ threshold place bias := by
  unfold threshold
  split
  · omega
  · split <;> omega

/-- The digits of a distance, the least significant one first. -/
def digits (bias place n : Nat) : List Char :=
  let t := threshold place bias
  if n < t then [digit n]
  else digit (t + (n - t) % (36 - t)) :: digits bias (place + 36) ((n - t) / (36 - t))
termination_by n
decreasing_by
  have := threshold_pos place bias
  exact Nat.lt_of_le_of_lt (Nat.div_le_self _ _) (by omega)

def scaleDown (delta places : Nat) : Nat × Nat :=
  if 455 < delta then scaleDown (delta / 35) (places + 36) else (delta, places)
termination_by delta
decreasing_by exact Nat.div_lt_self (by omega) (by omega)

/-- The bias after a distance has been written. -/
def adapt (delta count : Nat) (first : Bool) : Nat :=
  let halved := if first then delta / 700 else delta / 2
  let (rest, places) := scaleDown (halved + halved / count) 0
  places + 36 * rest / (rest + 38)

structure State where
  written : List Char := []
  delta : Nat := 0
  bias : Nat := 72
  /-- How many characters have been dealt with. -/
  handled : Nat

/-- Looks at one character while the characters with a given code are being placed. -/
def visit (basic code : Nat) (s : State) (c : Char) : State :=
  if c.toNat < code then { s with delta := s.delta + 1 }
  else if c.toNat == code then
    { written := s.written ++ digits s.bias 36 s.delta
      delta := 0
      bias := adapt s.delta (s.handled + 1) (s.handled == basic)
      handled := s.handled + 1 }
  else s

def place (label : List Char) (basic : Nat) : List Nat → Nat → State → State
  | [], _, s => s
  | code :: codes, next, s =>
      let advanced := { s with delta := s.delta + (code - next) * (s.handled + 1) }
      let done := label.foldl (visit basic code) advanced
      place label basic codes (code + 1) { done with delta := done.delta + 1 }

/-- The codes outside ASCII in ascending order, each once. -/
def wideCodes (label : List Char) : List Nat :=
  (((label.map Char.toNat).filter (0x80 ≤ ·)).mergeSort (· ≤ ·)).eraseReps

def encode (label : List Char) : List Char :=
  let basic := label.filter fun c => c.toNat < 0x80
  let mark := if basic.isEmpty then [] else ['-']
  let s := place label basic.length (wideCodes label) 0x80 { handled := basic.length }
  basic ++ mark ++ s.written

end HttpService.Scenario.Punycode

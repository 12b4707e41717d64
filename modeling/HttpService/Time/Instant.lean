import HttpService.Text.Split

/-!
# Instants

Points in time as nanoseconds since the start of 1970, in the proleptic Gregorian calendar without
leap seconds. A usable instant lies in the years -262143 to 262142.
-/

namespace HttpService

structure Instant where
  nanos : Int
  deriving DecidableEq, Repr, Inhabited

/-- A day of the calendar. -/
structure CalendarDay where
  year : Int
  month : Nat
  day : Nat
  deriving DecidableEq, Repr

namespace CalendarDay

/-- Days since the start of 1970. Years are counted from March, so that a leap day ends its year. -/
def toDays (c : CalendarDay) : Int :=
  let y := if c.month ≤ 2 then c.year - 1 else c.year
  let era := y / 400
  let yearOfEra := y - era * 400
  let shifted : Int := if c.month > 2 then (c.month : Int) - 3 else (c.month : Int) + 9
  let dayOfYear := (153 * shifted + 2) / 5 + c.day - 1
  let dayOfEra := yearOfEra * 365 + yearOfEra / 4 - yearOfEra / 100 + dayOfYear
  era * 146097 + dayOfEra - 719468

def ofDays (days : Int) : CalendarDay :=
  let z := days + 719468
  let era := z / 146097
  let dayOfEra := z - era * 146097
  let yearOfEra :=
    (dayOfEra - dayOfEra / 1460 + dayOfEra / 36524 - dayOfEra / 146096) / 365
  let dayOfYear := dayOfEra - (365 * yearOfEra + yearOfEra / 4 - yearOfEra / 100)
  let shifted := (5 * dayOfYear + 2) / 153
  let day := dayOfYear - (153 * shifted + 2) / 5 + 1
  let month := if shifted < 10 then shifted + 3 else shifted - 9
  let year := yearOfEra + era * 400
  ⟨if month ≤ 2 then year + 1 else year, month.toNat, day.toNat⟩

def isLeap (year : Int) : Bool :=
  year % 4 == 0 && (year % 100 != 0 || year % 400 == 0)

def daysInMonth (year : Int) (month : Nat) : Nat :=
  if month == 2 then (if isLeap year then 29 else 28)
  else if month == 4 || month == 6 || month == 9 || month == 11 then 30 else 31

end CalendarDay

namespace Instant

def nanosPerSecond : Int := 1000000000

def first : Instant :=
  ⟨CalendarDay.toDays ⟨-262143, 1, 1⟩ * 86400 * nanosPerSecond⟩

def last : Instant :=
  ⟨(CalendarDay.toDays ⟨262142, 12, 31⟩ + 1) * 86400 * nanosPerSecond - 1⟩

def inRange (t : Instant) : Bool :=
  first.nanos ≤ t.nanos && t.nanos ≤ last.nanos

/-- The instant a number of whole seconds after the start of 1970. -/
def ofSeconds? (s : Int) : Option Instant :=
  let t : Instant := ⟨s * nanosPerSecond⟩
  if t.inRange then some t else none

/-- Whole seconds since the start of 1970, rounded down. -/
def seconds (t : Instant) : Int :=
  t.nanos / nanosPerSecond

/-- The start of the second that the instant lies in. -/
def floorSecond (t : Instant) : Instant :=
  ⟨t.seconds * nanosPerSecond⟩

theorem inRange_floorSecond {t : Instant} (dated : t.inRange = true) :
    t.floorSecond.inRange = true := by
  have first : Instant.first.nanos = -8334601228800000000000 := rfl
  have last : Instant.last.nanos = 8210266876799999999999 := rfl
  simp only [inRange, floorSecond, seconds, nanosPerSecond, first, last, Bool.and_eq_true,
    decide_eq_true_eq] at dated ⊢
  omega

theorem floorSecond_seconds (k : Int) :
    floorSecond ⟨k * nanosPerSecond⟩ = ⟨k * nanosPerSecond⟩ := by
  have whole : seconds ⟨k * nanosPerSecond⟩ = k := Int.mul_ediv_cancel k (by decide)
  rw [floorSecond, whole]

/-- A later or earlier instant, when the calendar has it. -/
def add? (t : Instant) (nanos : Int) : Option Instant :=
  let u : Instant := ⟨t.nanos + nanos⟩
  if u.inRange then some u else none

def le (t u : Instant) : Bool :=
  t.nanos ≤ u.nanos

def padded (width n : Nat) : String :=
  let ds := Nat.toDigits 10 n
  String.ofList (List.replicate (width - ds.length) '0' ++ ds)

def yearText (year : Int) : String :=
  if 0 ≤ year && year ≤ 9999 then padded 4 year.toNat
  else (if year < 0 then "-" else "+") ++ padded 4 year.natAbs

/-- The fraction of a second in three, six or nine digits, if there is one. -/
def fractionText (nanos : Nat) : String :=
  if nanos == 0 then ""
  else if nanos % 1000000 == 0 then "." ++ padded 3 (nanos / 1000000)
  else if nanos % 1000 == 0 then "." ++ padded 6 (nanos / 1000)
  else "." ++ padded 9 nanos

/-- The RFC 3339 text in universal time. -/
def toString (t : Instant) : String :=
  let day := CalendarDay.ofDays (t.seconds / 86400)
  let second := (t.seconds % 86400).toNat
  yearText day.year ++ "-" ++ padded 2 day.month ++ "-" ++ padded 2 day.day ++ "T" ++
    padded 2 (second / 3600) ++ ":" ++ padded 2 (second / 60 % 60) ++ ":" ++
    padded 2 (second % 60) ++ fractionText (t.nanos % nanosPerSecond).toNat ++ "Z"

/-- Appends a digit to a number. -/
def appendDigit? (acc : Nat) (c : Char) : Option Nat :=
  if '0' ≤ c && c ≤ '9' then some (acc * 10 + (c.toNat - 48)) else none

/-- The number that one or more digits stand for. -/
def natOf? (cs : List Char) : Option Nat :=
  if cs.isEmpty then none else cs.foldlM appendDigit? 0

/-- The nanoseconds that a fraction's digits stand for; digits beyond the ninth are dropped. -/
def nanosOf? (digits : List Char) : Option Nat := do
  let nine := digits.take 9
  let n ← natOf? nine
  let _ ← natOf? digits
  some (n * Nat.pow 10 (9 - nine.length))

/-- Seconds east of universal time. -/
def offset? : List Char → Option Int
  | ['Z'] => some 0
  | ['z'] => some 0
  | [sign, h1, h2, ':', m1, m2] => do
      let h ← natOf? [h1, h2]
      let m ← natOf? [m1, m2]
      if m < 60 && h < 24 then
        let size : Int := (h * 3600 + m * 60 : Nat)
        if sign == '+' then some size else if sign == '-' then some (-size) else none
      else none
  | _ => none

/-- Reads an RFC 3339 text. -/
def parse? (text : String) : Option Instant :=
  match text.toList with
  | y1 :: y2 :: y3 :: y4 :: '-' :: o1 :: o2 :: '-' :: d1 :: d2 :: t :: h1 :: h2 :: ':' :: m1 ::
      m2 :: ':' :: s1 :: s2 :: rest => do
      let year ← natOf? [y1, y2, y3, y4]
      let month ← natOf? [o1, o2]
      let day ← natOf? [d1, d2]
      let hour ← natOf? [h1, h2]
      let minute ← natOf? [m1, m2]
      let second ← natOf? [s1, s2]
      let (nanos, zone) ← match rest with
        | '.' :: more => do
            let digits := more.takeWhile fun c => '0' ≤ c && c ≤ '9'
            some ((← nanosOf? digits), more.drop digits.length)
        | _ => some (0, rest)
      let shift ← offset? zone
      if (t == 'T' || t == 't' || t == ' ') && 1 ≤ month && month ≤ 12 && 1 ≤ day &&
          day ≤ CalendarDay.daysInMonth year month && hour < 24 && minute < 60 && second < 60 then
        let days := CalendarDay.toDays ⟨year, month, day⟩
        let seconds := days * 86400 + (hour * 3600 + minute * 60 + second : Nat) - shift
        some ⟨seconds * nanosPerSecond + nanos⟩
      else none
  | _ => none

end Instant

end HttpService

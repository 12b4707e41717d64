import HttpService.Json.Reader
import HttpService.Time.Span
import HttpService.Time.Instant

/-!
# Fields of a description

Scenarios are described by JSON values. What is left out has the value null, and what has another
kind than expected counts as empty.
-/

namespace HttpService.Scenario

def field (j : Json) (name : String) : Json :=
  match j with
  | .object members => ((members.find? fun m => m.1 == name).map Prod.snd).getD .null
  | _ => .null

def isNull : Json → Bool
  | .null => true
  | _ => false

def has (j : Json) (name : String) : Bool :=
  !isNull (field j name)

def asText? : Json → Option String
  | .text s => some s
  | _ => none

def asText (j : Json) : String :=
  (asText? j).getD ""

def asInt : Json → Int
  | .number (.natural n) => n
  | .number (.negative m) => -(m : Int)
  | _ => 0

def asNat? : Json → Option Nat
  | .number (.natural n) => some n
  | _ => none

def asNat (j : Json) : Nat :=
  (asNat? j).getD 0

def asBool : Json → Bool
  | .bool b => b
  | _ => false

def asFloat : Json → Float
  | .number (.natural n) => n.toFloat
  | .number (.negative m) => -m.toFloat
  | .number (.real bits) => Float.ofBits bits
  | _ => 0

def asList : Json → List Json
  | .array items => items
  | _ => []

def item (j : Json) (i : Nat) : Json :=
  (asList j).getD i .null

def textAt (j : Json) (i : Nat) : String :=
  asText (item j i)

def texts (j : Json) : List String :=
  (asList j).map asText

def pair (j : Json) : String × String :=
  (textAt j 0, textAt j 1)

def pairs (j : Json) : List (String × String) :=
  (asList j).map pair

/-- A step's name and argument; the member `on` is not a name. -/
def step : Json → String × Json
  | .object members => ((members.filter fun m => m.1 != "on").head?).getD ("", .null)
  | _ => ("", .null)

/-- Seconds and nanoseconds. -/
def asSpan (j : Json) : Span :=
  ⟨asNat (item j 0) * Span.nanosPerSecond + asNat (item j 1)⟩

def ofSpan (s : Span) : Json :=
  .array [Json.ofNat s.seconds, Json.ofNat s.subsec]

/-- Seconds, or seconds and nanoseconds. -/
def asInstant (j : Json) : Instant :=
  match j with
  | .array (s :: n :: _) => ⟨asInt s * Instant.nanosPerSecond + asNat n⟩
  | _ => ⟨asInt j * Instant.nanosPerSecond⟩

/-- An object with its members in ascending order. -/
def object (members : List (String × Json)) : Json :=
  .object (Table.ofList members)

/-- A value whose own members are in ascending order. -/
def sortMembers : Json → Json
  | .object members => object members
  | j => j

/-- A value of a type with a reader. -/
def asRecord? (r : Json.Reader α) (j : Json) : Option α :=
  match Json.read r j.render with
  | .ok a => some a
  | .error _ => none

end HttpService.Scenario

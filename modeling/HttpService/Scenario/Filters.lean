import HttpService.Telemetry.LogConfig
import HttpService.Text.Blank
import HttpService.Text.Natural
import HttpService.Text.Split

/-!
# Log filters of a scenario

The reader of filters that scenarios are played with. A filter is a list of directives between
commas: a level alone, or a target or a span in brackets, each with an optional level after an equals
sign. Only whether a filter is legal matters, and fields are not looked into. Positions are counted
without the blanks around a directive, and texts are cut from the directive as given, so a level with
a blank before or after it is no level.
-/

namespace HttpService.Scenario.Directive

/-- A level is a name in any case or a number up to five. -/
def isLevel (cs : List Char) : Bool :=
  match Text.natural? cs with
  | some n => n ≤ 5
  | none => FilterReader.levelNames.contains (String.ofList (cs.map Char.toLower))

/-- Where a directive's reader is; positions are where the current part began. -/
inductive State
  | start
  | levelOrTarget
  | span
  | fieldPart (began : Nat)
  | fields
  | target
  | level (began : Nat)
  deriving DecidableEq, Repr

/-- Letters and digits of any script, and the signs that names may begin with. -/
def beginsName (c : Char) : Bool :=
  c.isAlphanum || c == '-' || c == ':' || c == '_' || (0xAA ≤ c.toNat && !Text.isBlank c)

/-- Reads the character at a position; nothing if the directive is illegal. -/
def step (i : Nat) (c : Char) : State → Option State
  | .start => if c == '[' then some .span else if beginsName c then some .levelOrTarget else none
  | .levelOrTarget =>
      if c == '=' then some (.level (i + 1)) else if c == '[' then some .span
      else some .levelOrTarget
  | .span =>
      if c == ']' then some .target
      else if c == '\x7b' then some (.fieldPart (i + 1))
      else some .span
  | .fieldPart began =>
      if c == '\x7d' then if i ≤ began then none else some .fields
      else some (.fieldPart began)
  | .fields => if c == ']' then some .target else none
  | .target => if c == '=' then some (.level (i + 1)) else none
  | .level began => some (.level began)

def run : Nat → List Char → State → Option State
  | _, [], s => some s
  | i, c :: rest, s =>
      match step i c s with
      | none => none
      | some next => run (i + 1) rest next

def legal (directive : String) : Bool :=
  let given := directive.toList
  match run 0 (Text.trimChars given) .start with
  | some .levelOrTarget => true
  | some .target => true
  | some (.level began) => given.length ≤ began || isLevel (given.drop began)
  | _ => false

/-- Whether every directive of a filter is legal; empty ones are skipped. -/
def legalFilter (filter : String) : Bool :=
  ((Text.split ',' filter).filter fun s => !s.isEmpty).all legal

end HttpService.Scenario.Directive

namespace HttpService.Scenario

/-- The reader of filters that scenarios are played with. -/
def filters : FilterReader where
  read text :=
    if Directive.legalFilter text then .ok () else .error "invalid filter directive"

def checkFilter (text : String) : Except TelemetryFault Unit :=
  filters.check text

def initLogging (alreadySet : Bool) (c : LogConfig) : Except TelemetryFault Unit :=
  c.install filters alreadySet

end HttpService.Scenario

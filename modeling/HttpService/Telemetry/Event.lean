/-!
# Log events

What the service reports about itself while it runs: a level, a message, and named values as text.
-/

namespace HttpService

inductive Level
  | error
  | warn
  | info
  | debug
  deriving DecidableEq, Repr

def Level.name : Level → String
  | error => "ERROR"
  | warn => "WARN"
  | info => "INFO"
  | debug => "DEBUG"

/-- The level at which a finished request is reported. -/
def Level.ofStatus (status : Nat) : Level :=
  if 500 ≤ status && status ≤ 599 then error
  else if 400 ≤ status && status ≤ 499 then warn
  else info

/-- Who reports: a stage around the handlers, or the call of a handler itself. -/
inductive Reporter
  | stage
  | endpoint
  deriving DecidableEq, Repr

structure Event where
  reporter : Reporter := .stage
  level : Level
  message : String
  fields : List (String × String) := []
  deriving DecidableEq, Repr

end HttpService

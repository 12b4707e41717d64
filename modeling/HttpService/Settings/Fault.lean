import HttpService.Failure.Basic

/-!
# Faults in settings

What can be wrong with settings. Such a fault becomes a failure of the caller's making, unless a
component has refused them with a failure of its own.
-/

namespace HttpService

inductive SettingsFault
  | invalidValue (field reason : String)
  | missingField (field : String)
  | unreadableVariable (key reason : String)
  | refused (component : String) (failure : Failure)

namespace SettingsFault

def name : SettingsFault → String
  | invalidValue .. => "InvalidValue"
  | missingField _ => "MissingField"
  | unreadableVariable .. => "EnvParseError"
  | refused .. => "Build"

def message : SettingsFault → String
  | invalidValue field reason => "invalid configuration value for " ++ field ++ ": " ++ reason
  | missingField field => "missing required configuration field: " ++ field
  | unreadableVariable key reason =>
      "failed to parse environment variable " ++ key ++ ": " ++ reason
  | refused component _ => "cannot build " ++ component ++ " from configuration"

/-- The field at fault, if it is one. -/
def field? : SettingsFault → Option String
  | invalidValue field _ | missingField field => some field
  | unreadableVariable .. | refused .. => none

/-- The failure beneath the fault. -/
def source? : SettingsFault → Option Failure
  | refused _ failure => some failure
  | _ => none

def toFailure (f : SettingsFault) : Failure :=
  match f with
  | refused _ failure => failure
  | other => Failure.wrap (.foreign { text := other.message }) .invalidArgument other.message

end SettingsFault

end HttpService

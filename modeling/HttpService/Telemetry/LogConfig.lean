import HttpService.Json.Reader
import HttpService.Text.Quoted

/-!
# Logging configuration

What is logged and how. A part that a document leaves out has its production value. Which texts are
filters is for a reader of filters to say.
-/

namespace HttpService

structure LogConfig where
  enabled : Bool
  level : String
  jsonFormat : Bool
  spanEvents : Bool
  fileLineInfo : Bool
  includeTarget : Bool
  deriving DecidableEq, Repr

namespace LogConfig

def development : LogConfig :=
  ⟨true, "debug", false, true, true, true⟩

def production : LogConfig :=
  ⟨true, "info", true, false, false, true⟩

def toJson (c : LogConfig) : Json :=
  .object
    [("enabled", .bool c.enabled), ("level", .text c.level), ("json_format", .bool c.jsonFormat),
     ("span_events", .bool c.spanEvents), ("file_line_info", .bool c.fileLineInfo),
     ("include_target", .bool c.includeTarget)]

def reader : Json.Reader LogConfig :=
  Json.Reader.record
    ["enabled", "level", "json_format", "span_events", "file_line_info", "include_target"] false
    fun f => do
      let d := production
      let enabled ← f.defaulted "enabled" d.enabled Json.Reader.bool
      let level ← f.defaulted "level" d.level Json.Reader.string
      let jsonFormat ← f.defaulted "json_format" d.jsonFormat Json.Reader.bool
      let spanEvents ← f.defaulted "span_events" d.spanEvents Json.Reader.bool
      let fileLineInfo ← f.defaulted "file_line_info" d.fileLineInfo Json.Reader.bool
      let includeTarget ← f.defaulted "include_target" d.includeTarget Json.Reader.bool
      .ok ⟨enabled, level, jsonFormat, spanEvents, fileLineInfo, includeTarget⟩

end LogConfig

/-- What goes wrong in observing a service. -/
inductive TelemetryFault
  | loggingInit (reason : String)
  | invalidFilter (reason : String)
  | sampling (reason : String)
  deriving DecidableEq, Repr

namespace TelemetryFault

def name : TelemetryFault → String
  | loggingInit _ => "LoggingInit"
  | invalidFilter _ => "InvalidFilter"
  | sampling _ => "Sampling"

def message : TelemetryFault → String
  | loggingInit reason => "Failed to initialize logging: " ++ reason
  | invalidFilter reason => "Invalid log filter: " ++ reason
  | sampling reason => "Failed to sample system metrics: " ++ reason

def reason : TelemetryFault → String
  | loggingInit reason | invalidFilter reason | sampling reason => reason

/-- What diagnostics show. -/
def describe (f : TelemetryFault) : String :=
  f.name ++ "(" ++ Text.quoted f.reason ++ ")"

end TelemetryFault

/-- A reader of log filters: a text is a filter, or there is a reason why it is none. -/
structure FilterReader where
  read : String → Except String Unit

namespace FilterReader

def levelNames : List String :=
  ["error", "warn", "info", "debug", "trace", "off"]

/-- The names of levels are filters, whatever else is. -/
def KnowsLevels (filters : FilterReader) : Prop :=
  ∀ level ∈ levelNames, filters.read level = .ok ()

/-- The reader that knows the names of levels and nothing else. -/
def levels : FilterReader where
  read text := if levelNames.contains text then .ok () else .error "invalid filter directive"

theorem knowsLevels_levels : levels.KnowsLevels :=
  fun _ named => if_pos (List.contains_iff_mem.mpr named)

/-- Checks a filter. -/
def check (filters : FilterReader) (text : String) : Except TelemetryFault Unit :=
  (filters.read text).mapError .invalidFilter

theorem check_eq_ok {filters : FilterReader} {text : String} :
    filters.check text = .ok () ↔ filters.read text = .ok () := by
  unfold check
  cases filters.read text with
  | ok _ => exact iff_of_true rfl rfl
  | error _ =>
      constructor <;> intro same <;> cases same

end FilterReader

/-- Sets logging up in a process where it is, or is not, set up already. -/
def LogConfig.install (c : LogConfig) (filters : FilterReader) (alreadySet : Bool) :
    Except TelemetryFault Unit :=
  if !c.enabled then .ok ()
  else
    match filters.check c.level with
    | .error fault => .error fault
    | .ok () =>
        if alreadySet then .error (.loggingInit "a logger has already been set") else .ok ()

end HttpService

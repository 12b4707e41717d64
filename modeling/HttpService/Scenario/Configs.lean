import HttpService.Scenario.Calls
import HttpService.Scenario.Filters
import HttpService.Server.Config
import HttpService.Settings.Conversion
import HttpService.Settings.Overlay

/-!
# Settings of a scenario

Loads settings from a document, from named sets and from variables, and shows what comes of them.
-/

namespace HttpService.Scenario

def filterLead : String := "Invalid log filter: "

/-- The part of a text before another one, and that one itself, if it occurs. -/
def cutAfter? (lead : List Char) : List Char → Option (List Char)
  | [] => none
  | c :: rest =>
      if lead.isPrefixOf (c :: rest) then some lead
      else (cutAfter? lead rest).map (c :: ·)

/-- A text without the wording of a filter's fault. -/
def hideFilter (s : String) : String :=
  match cutAfter? filterLead.toList s.toList with
  | some cs => String.ofList cs ++ "*"
  | none => s

/-- A fault without the wording of a filter's fault. -/
def hideFault : SettingsFault → SettingsFault
  | .invalidValue field reason => .invalidValue field (hideFilter reason)
  | f => f

def viewFault (fault : SettingsFault) : Json :=
  let f := hideFault fault
  object
    [("error", .text f.name), ("message", .text f.message), ("field", Json.ofText? f.field?),
     ("source", Json.ofText? (f.source?.map Failure.display)), ("core", viewFailure f.toFailure)]

def viewServerConfig (c : ServerConfig) : Json :=
  object
    [("bind_addr", .text c.bindAddr),
     ("socket_addr", Json.ofText? (c.socketAddr?.map SocketAddress.toString)),
     ("read", ofSpan c.readTimeout), ("write", ofSpan c.writeTimeout),
     ("idle", ofSpan c.idleTimeout), ("shutdown", ofSpan c.shutdownTimeout),
     ("max_body_bytes", Json.ofNat c.maxBodyBytes),
     ("tls", Json.ofOption (fun t => .array [.text t.cert, .text t.key]) c.tls)]

/-- What there is to say about a limit that runs nowhere. -/
def viewRate (r : RateLimit) : Json :=
  let l := RunningLimiter.start r false
  .array [Json.ofNat r.limit, ofSpan r.window, Json.ofNat l.tracked, Json.ofNat (l.sweep 0).1,
    .text l.describe]

def viewFaulty (f : α → Json) : Except SettingsFault α → Json
  | .ok a => f a
  | .error fault => viewFault fault

/-- What settings come to; nothing if there is no such value. -/
def viewPart? (s : Settings) (paths : List String) (name : String) : Option Json :=
  match name with
  | "validate" => some (viewFaulty (fun _ => .text "ok") (s.validate filters))
  | "server" => some (viewServerConfig s.server.toConfig)
  | "client" => some (viewFaulty viewClientConfig s.client.toConfig)
  | "rate_limit" => some (Json.ofOption viewRate s.rateLimit.toRate?)
  | "token_maker" =>
      some (viewFaulty (fun m => .array [.text m.algorithm.name, Json.ofText? m.issuer])
        s.auth.toMaker)
  | "token_ttl" => s.auth.lifetimeMinutes?.map Json.ofNat
  | "log" => some (sortMembers s.logging.toConfig.toJson)
  | "auth" =>
      some (viewFaulty (fun g => .array [Json.ofNat g.permissions.rules.length,
        .array (paths.map fun p => .bool (g.isPublic p))]) s.auth.toGatekeeper)
  | _ => some (.text s.auth.describe)

def viewSettings (s : Settings) (names paths : List String) : Json :=
  let part (name : String) : Option (String × Json) :=
    (viewPart? s paths name).map fun j => (name, j)
  match names.mapM part with
  | none => panicked
  | some parts =>
      object (("config", s.toJson) :: ("text", .text s.toJson.render) :: parts)

def preset (s : Settings) (name : String) : Settings :=
  match name with
  | "defaults" => {}
  | "development" => .development
  | "production" => .production
  | _ => s

/-- Loads the settings of a description. -/
def loadSettings (j : Json) (base : Settings) : Except SettingsFault Settings :=
  let chosen := (texts (field j "presets")).foldl preset base
  let bare : Overlay := { base := chosen, given := pairs (field j "vars") }
  let overlay := if has j "prefix" then bare.withStart (asText (field j "prefix")) else bare
  if asBool (field j "unvalidated") then .ok chosen else overlay.load filters

def config (j : Json) : Json :=
  let start := if has j "doc" then Json.read Settings.reader (asText (field j "doc"))
    else .ok {}
  match start with
  | .error _ => undecodable
  | .ok base =>
      viewFaulty (fun s => viewSettings s (texts (field j "then")) (texts (field j "paths")))
        (loadSettings j base)

/-- A fault as a description makes it. -/
def configFault (j : Json) : Json :=
  let (name, a) := step (field j "make")
  viewFault (match name with
    | "invalid_value" => .invalidValue (textAt a 0) (textAt a 1)
    | "missing_field" => .missingField (asText a)
    | "env" => .unreadableVariable (textAt a 0) (textAt a 1)
    | _ => .refused "component" (.new (codeOf (item a 0)) (textAt a 1)))

def setServer (c : ServerConfig) (s : Json) : ServerConfig :=
  let (name, a) := step s
  match name with
  | "bind_addr" => { c with bindAddr := asText a }
  | "read" => { c with readTimeout := asSpan a }
  | "write" => { c with writeTimeout := asSpan a }
  | "idle" => { c with idleTimeout := asSpan a }
  | "shutdown" => { c with shutdownTimeout := asSpan a }
  | "max_body_bytes" => { c with maxBodyBytes := asNat a }
  | "tls" => { c with tls := some ⟨textAt a 0, textAt a 1⟩ }
  | _ => c

def serverConfig (j : Json) : Json :=
  viewServerConfig ((asList (field j "set")).foldl setServer {})

end HttpService.Scenario

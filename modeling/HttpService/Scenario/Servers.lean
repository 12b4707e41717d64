import HttpService.Scenario.Configs
import HttpService.Scenario.Material.Keys
import HttpService.Scenario.Setup
import HttpService.Server.Lifecycle

/-!
# Servers of a scenario

Plays the life of a server that nobody can reach. What runs beside the steps gets its turn only
where a step waits for something.
-/

namespace HttpService.Scenario

/-- What a failure about material says, without the wording of the components that read it. -/
def hideMaterial (f : Failure) : Failure :=
  let leads :=
    ["malformed certificate PEM: ", "malformed key PEM: ", "invalid certificate or key: "]
  match leads.find? fun lead => Text.startsWith f.message lead with
  | some lead => { f with message := lead ++ "*" }
  | none => f

def viewServed : Except Failure Unit → Json
  | .ok () => viewOk .null
  | .error f => viewFailure (hideMaterial f)

/-- Work beside the steps. -/
inductive Errand
  /-- Serving at a listener of its own. -/
  | serve
  /-- Serving at the configured address until the process is told to end. -/
  | run
  deriving DecidableEq, Repr

inductive Progress
  | waiting
  | serving (listener : SocketAddress)
  | ended (result : Except Failure Unit)

structure Task where
  errand : Errand
  progress : Progress := .waiting

structure Stand where
  server : Server
  files : Files
  tasks : List Task := []
  /-- The task that was asked for last, if its result has not been asked for. -/
  latest : Option Nat := none
  /-- Whether a listener of the scenario's own has been used. -/
  served : Bool := false

namespace Stand

/-! ## Listeners -/

def isUnspecified : IpAddress → Bool
  | .v4 a b c d => a == 0 && b == 0 && c == 0 && d == 0
  | .v6 groups => groups.all (· == 0)

/-- The addresses of the machine itself. -/
def isLocal : IpAddress → Bool
  | .v4 a b c d => a == 127 || isUnspecified (.v4 a b c d)
  | .v6 groups => isUnspecified (.v6 groups)

def listeners (s : Stand) : List SocketAddress :=
  s.tasks.filterMap fun t =>
    match t.progress with
    | .serving a => some a
    | _ => none

/-- Two listeners at one port are in each other's way if they share an address. -/
def conflict (a b : SocketAddress) : Bool :=
  a.port != 0 && a.port == b.port &&
    (a.ip == b.ip || isUnspecified a.ip || isUnspecified b.ip)

def machine (s : Stand) : Machine where
  files := s.files
  tls := tlsLibrary
  bind a :=
    if isLocal a.ip && !(s.listeners.any (conflict a)) then .ok a
    else .error "address not available"

/-- The listener that a scenario makes for itself. -/
def ownListener : SocketAddress :=
  { ip := .v4 127 0 0 1, port := 0 }

/-! ## Turns -/

def setTask (s : Stand) (i : Nat) (p : Progress) : Stand :=
  { s with tasks := s.tasks.modify i fun t => { t with progress := p } }

def begin (s : Stand) (i : Nat) (errand : Errand) : Stand :=
  let entered : Except Failure (Server × SocketAddress) := do
    let listener ← match errand with
      | .serve => .ok ownListener
      | .run => s.server.prepare s.machine
    let server ← s.server.enter (some listener)
    .ok (server, listener)
  match entered with
  | .error f => s.setTask i (.ended (.error f))
  | .ok (server, listener) => { s with server := server }.setTask i (.serving listener)

/-- Gives a task its turn. -/
def turn (s : Stand) (i : Nat) : Stand :=
  match s.tasks[i]? with
  | some ⟨errand, .waiting⟩ => s.begin i errand
  | some ⟨_, .serving _⟩ =>
      if s.server.loopEnds then { s with server := s.server.leave }.setTask i (.ended (.ok ()))
      else s
  | _ => s

/-- Gives every task its turn, in the order in which they were asked for. -/
def turns (s : Stand) : Stand :=
  (List.range s.tasks.length).foldl turn s

/-- Asks for a task. It gets its turn at once unless the server runs already. -/
def launch (s : Stand) (errand : Errand) : Stand :=
  let asked := { s with tasks := s.tasks ++ [⟨errand, .waiting⟩], latest := some s.tasks.length }
  if asked.server.isRunning then asked else asked.turns

/-- Tells the process to end: whoever runs until then shuts the server down. -/
def tellProcess (s : Stand) : Stand :=
  let s := s.turns
  let heard := s.tasks.any fun t =>
    match t with
    | ⟨.run, .serving _⟩ => true
    | _ => false
  if heard then { s with server := s.server.stop }.turns else s

/-- The result of the task that was asked for last. -/
def lastResult (s : Stand) : Stand × Json :=
  match s.latest with
  | none => (s, .null)
  | some i =>
      let s : Stand := { s.turns with latest := none }
      match (s.tasks[i]?).map Task.progress with
      | some (.ended r) => (s, viewServed r)
      | _ => (s, .null)

/-- A call that the scenario makes itself. It is given up once it has gone into a loop, which it
would not come back from before a shutdown. -/
def direct (s : Stand) (r : Except Failure Server) : Stand × Json :=
  match r with
  | .ok server => ({ s with server := server.leave }, .null)
  | .error f => (s, viewServed (.error f))

end Stand

def viewState (s : Stand) (routes : Nat) : Json :=
  object
    [("running", .bool s.server.isRunning), ("active", Json.ofNat s.server.activeConnections),
     ("bound", .bool s.server.localAddr.isSome), ("routes", Json.ofNat routes)]

def ended (word : String) : Json :=
  object [("error", .text word)]

def playServer (secure : Bool) (routes : Nat) (s : Stand) (j : Json) : Stand × Json :=
  let (name, _) := step j
  match name with
  | "serve" =>
      if s.served then s.direct (s.server.enter (some Stand.ownListener))
      else ({ s with served := true }.launch .serve, .null)
  | "run" => (s.launch .run, .null)
  | "start" => s.direct (s.server.start s.machine)
  | "served" => s.lastResult
  | "signal" => (s.tellProcess, .null)
  | "shutdown" =>
      let server := s.server.stop
      ({ s with server := server }, viewDone server.drain)
  | "state" => (s, viewState s routes)
  | "config" => (s, viewServerConfig s.server.config)
  | "spawn" => (s, .null)
  | "req" => (s, ended (if secure then "failed" else "refused"))
  | _ => (s, ended "refused")

/-- The names of files that a scenario writes. -/
def writtenFiles : TlsFiles := ⟨"written/cert.pem", "written/key.pem"⟩

def filesOf (texts : Option (String × String)) : Files := fun name =>
  let written := do
    let (cert, key) ← texts
    if name == writtenFiles.cert then some cert
    else if name == writtenFiles.key then some key
    else none
  match written with
  | some text => .ok (Text.utf8 text)
  | none => .error "no such file"

/-- The material of two texts. -/
def materialOf (cert key : String) : Except Failure TlsMaterial :=
  TlsMaterial.ofPem tlsLibrary (Text.utf8 cert) (Text.utf8 key)

def serverOf (j : Json) : ServerConfig :=
  let base : ServerConfig := {}
  let millis (name : String) (default : Span) : Span :=
    if has j name then .ofMillis (asNat (field j name)) else default
  { base with
    bindAddr := (asText? (field j "bind_addr")).getD "127.0.0.1:0"
    writeTimeout := millis "write_timeout_ms" base.writeTimeout
    idleTimeout := millis "idle_timeout_ms" base.idleTimeout
    shutdownTimeout := millis "shutdown_timeout_ms" base.shutdownTimeout
    maxBodyBytes := (asNat? (field j "max_body_bytes")).getD base.maxBodyBytes
    tls :=
      if has j "tls_files" then
        let (cert, key) := pair (field j "tls_files")
        some ⟨cert, key⟩
      else if has j "tls_pem" then some writtenFiles
      else none }

def tls (j : Json) : Json :=
  let r := if has j "files" then
      let (cert, key) := pair (field j "files")
      TlsMaterial.load tlsLibrary (filesOf none) ⟨cert, key⟩
    else materialOf (asText (field j "cert")) (asText (field j "key"))
  match r with
  | .ok _ => .text "ok"
  | .error f => viewFailure (hideMaterial f)

def server (j : Json) : Json :=
  match collaborators j with
  | .error f => viewFailure f
  | .ok (cast, site) =>
      let material := field j "tls"
      let secured := if has j "tls" then
          (materialOf (asText (field material "cert")) (asText (field material "key"))).map
            fun _ => ()
        else .ok ()
      match secured with
      | .error f => viewFailure (hideMaterial f)
      | .ok () =>
          let setup := Setup.addAll cast { site := site } (field j "items")
          let written := if has j "tls_pem" then some (pair (field j "tls_pem")) else none
          let start : Stand :=
            { server := { config := serverOf j }, files := filesOf written }
          let (_, out) := (asList (field j "steps")).foldl
            (fun ((s, out) : Stand × List Json) step =>
              let (s, shown) := playServer (has j "tls") setup.router.routes.length s step
              (s, shown :: out)) (start, [])
          object [("setup", setup.report), ("steps", .array out.reverse)]

end HttpService.Scenario

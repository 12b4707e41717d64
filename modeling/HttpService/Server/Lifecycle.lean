import HttpService.Server.Shutdown
import HttpService.Text.Quoted
import HttpService.Tls.Material

/-!
# The life of a server

A server is idle, then it runs, and once it has been shut down it never runs again. At most one loop
accepts connections in its life: the first one to be entered, unless a shutdown came before.
-/

namespace HttpService

inductive Phase
  | idle
  | running
  | stopped
  deriving DecidableEq, Repr

structure Server where
  config : ServerConfig
  phase : Phase := .idle
  shutdown : ShutdownSignal := {}
  connections : ConnectionTracker := {}
  /-- Where the accepted loop listens, or has listened. -/
  localAddr : Option SocketAddress := none
  /-- The loops that accept connections. -/
  loops : Nat := 0
  deriving DecidableEq, Repr

/-- What a server asks of the machine that it runs on. -/
structure Machine where
  files : Files
  /-- The library that reads the files for secure connections. -/
  tls : TlsLibrary
  /-- The address that a listener gets, or why there is none. -/
  bind : SocketAddress → Except String SocketAddress

namespace Server

def isRunning (s : Server) : Bool :=
  s.phase == .running

def activeConnections (s : Server) : Nat :=
  s.connections.active

/-- Why no further loop may be entered. -/
def refusal (phase : Phase) : Failure :=
  if phase == .running then .alreadyExists "server is already running"
  else (Failure.unavailable "server has been shut down").withDomain .network

/-- Enters the loop that accepts connections of a listener. -/
def enter (s : Server) (listener : Option SocketAddress) : Except Failure Server :=
  if s.phase == .idle then
    .ok { s with phase := .running, localAddr := listener, loops := s.loops + 1 }
  else .error (refusal s.phase)

/-- A loop ends, because of a shutdown or because its owner gives it up. -/
def leave (s : Server) : Server :=
  { s with loops := s.loops - 1 }

/-- Whether a loop that gets to run has to end. -/
def loopEnds (s : Server) : Bool :=
  s.shutdown.triggered

/-- What is reported of a text that is no address. -/
def malformedAddress (bindAddr : String) : Failure :=
  (Failure.invalidArgument ("invalid bind address " ++ Text.quoted bindAddr)).withCause
    (.foreign { text := "invalid socket address syntax", stable := false })

/-- What is reported of an address that is not to be had. -/
def refusedListener (addr : SocketAddress) (reason : String) : Failure :=
  ((Failure.unavailable ("failed to bind " ++ addr.toString)).withCause
    (.foreign { text := reason, stable := false })).withDomain .network

/-- A listener at the configured address. -/
def listen (s : Server) (m : Machine) : Except Failure SocketAddress :=
  match s.config.socketAddr? with
  | none => .error (malformedAddress s.config.bindAddr)
  | some addr => (m.bind addr).mapError (refusedListener addr)

/-- What comes before the loop: the material, if there are files for it, and then the listener. -/
def prepareWith (s : Server) (m : Machine) (names : Option TlsFiles) :
    Except Failure SocketAddress := do
  match names with
  | none => s.listen m
  | some names => do
      let _ ← TlsMaterial.load m.tls m.files names
      s.listen m

def prepare (s : Server) (m : Machine) : Except Failure SocketAddress :=
  s.prepareWith m s.config.tls

/-- Starts the server; what goes wrong before the loop leaves it as it is. -/
def start (s : Server) (m : Machine) : Except Failure Server := do
  let listener ← s.prepare m
  s.enter (some listener)

/-- Starts the server over TLS with these files, whatever files its configuration has. -/
def startTls (s : Server) (m : Machine) (names : TlsFiles) : Except Failure Server := do
  let listener ← s.prepareWith m (some names)
  s.enter (some listener)

/-- Marks the server as shut down and tells everybody who listens. -/
def stop (s : Server) : Server :=
  { s with phase := .stopped, shutdown := s.shutdown.trigger }

/-- How a shutdown ends that has waited for the open connections. -/
def drain (s : Server) : Except Failure Unit :=
  if s.connections.drained then .ok ()
  else
    .error (((Failure.unavailable "shutdown deadline exceeded").withDomain .network).withField
      "connections" (Json.ofNat s.connections.active))

/-- What diagnostics show of the files. -/
def describeTls : Option TlsFiles → String
  | none => "None"
  | some names =>
      "Some(TlsFiles \x7b cert: " ++ Text.quoted names.cert ++ ", key: " ++ Text.quoted names.key ++
        " \x7d)"

def describeConfig (c : ServerConfig) : String :=
  "ServerConfig \x7b bind_addr: " ++ Text.quoted c.bindAddr ++ ", read_timeout: " ++
    c.readTimeout.describe ++ ", write_timeout: " ++ c.writeTimeout.describe ++
    ", idle_timeout: " ++ c.idleTimeout.describe ++ ", shutdown_timeout: " ++
    c.shutdownTimeout.describe ++ ", max_body_bytes: " ++ toString c.maxBodyBytes ++ ", tls: " ++
    describeTls c.tls ++ " \x7d"

def describe (s : Server) : String :=
  let addr := match s.localAddr with
    | some a => "Some(" ++ a.toString ++ ")"
    | none => "None"
  "Server \x7b config: " ++ describeConfig s.config ++ ", local_addr: " ++ addr ++ ", running: " ++
    toString s.isRunning ++ ", .. \x7d"

theorem loops_leave (s : Server) : s.leave.loops = s.loops - 1 := rfl

end Server

end HttpService

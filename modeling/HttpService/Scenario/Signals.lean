import HttpService.Scenario.View
import HttpService.Server.Shutdown
import HttpService.Signal.Race

/-!
# Played signals, contexts and shutdowns

Named signals that are derived, cancelled and waited for; named contexts that are changed and
copied; a shutdown with the connections it waits for.
-/

namespace HttpService.Scenario

structure SignalTable where
  signals : Signals := {}
  slots : Table Nat := []
  guards : Table CancelGuard := []
  /-- Each waiter with the signal it holds. -/
  waiters : Table (Nat × Waiter) := []

namespace SignalTable

def slot (t : SignalTable) (name : String) : Nat :=
  (t.slots.find? name).getD 0

/-- Puts a handle into a slot and drops the one that was there. -/
def put (t : SignalTable) (signals : Signals) (name : String) (id : Nat) : SignalTable :=
  let signals := match t.slots.find? name with
    | some old => signals.release old
    | none => signals
  { t with signals := signals, slots := t.slots.insert name id }

def drop (t : SignalTable) (name : String) : SignalTable :=
  match t.slots.find? name with
  | some id => { t with signals := t.signals.release id, slots := t.slots.erase name }
  | none => t

/-- Takes a guard away and lets it act on its signal. -/
def takeGuard (t : SignalTable) (act : Signals → CancelGuard → Signals) (name : String) :
    SignalTable :=
  match t.guards.find? name with
  | some g => { t with signals := act t.signals g, guards := t.guards.erase name }
  | none => t

/-- Lets the waiters run; one that is done lets go of its signal. -/
def settle (t : SignalTable) : SignalTable :=
  t.waiters.foldl (fun t (name, id, w) =>
    let cancelled := t.signals.isCancelled id
    let settled := w.settle cancelled (if cancelled then 1 else 0)
    let signals := if settled = .done && w ≠ .done then t.signals.release id else t.signals
    { t with signals := signals, waiters := t.waiters.insert name (id, settled) }) t

/-- Work under a signal that is polled once and then given up. -/
def race (t : SignalTable) (id : Nat) (work : Nat → Option Json) : Json :=
  match (Race.poll t.signals { signal := id, work := work }).answer with
  | some r => viewResult (fun j => j) r
  | none => .text "pending"

end SignalTable

def playSignal (t : SignalTable) (name : String) (a : Json) : SignalTable × Json :=
  let one := asText a
  let (x, y) := pair a
  match name with
  | "new" =>
      let (signals, id) := t.signals.create
      (t.put signals one id, .null)
  | "child" =>
      let (signals, id) := t.signals.child (t.slot x)
      (t.put signals y id, .null)
  | "clone" => (t.put (t.signals.hold (t.slot x)) y (t.slot x), .null)
  | "cancel" => ({ t with signals := t.signals.cancel (t.slot one) }, .null)
  | "drop" => (t.drop one, .null)
  | "guard" =>
      let (signals, g) := CancelGuard.make t.signals (t.slot x)
      let t := { t with signals := signals }.takeGuard CancelGuard.drop y
      ({ t with guards := t.guards.insert y g }, .null)
  | "drop_guard" => (t.takeGuard CancelGuard.drop one, .null)
  | "disarm" => (t.takeGuard CancelGuard.disarm one, .null)
  | "run" => (t, t.race (t.slot x) fun _ => some (item a 1))
  | "run_pending" => (t, t.race (t.slot one) fun _ => none)
  | _ =>
      let id := t.slot x
      ({ t with signals := t.signals.hold id, waiters := t.waiters.insert y (id, .fresh) }, .null)

/-- Plays steps on named signals. -/
def signals (j : Json) : Json :=
  let (_, shown) := (asList (field j "steps")).foldl (fun (t, out) s =>
    let (t, a) := playSignal t (step s).1 (step s).2
    let t := SignalTable.settle t
    let woken := t.waiters.filter fun w => w.2.2 = .done
    (t, object
      [("out", a), ("woken", .array (woken.map fun w => .text w.1)),
       ("cancelled", .object (t.slots.map fun (k, id) => (k, .bool (t.signals.isCancelled id))))]
      :: out)) (({} : SignalTable), [])
  .array shown.reverse

/-! ## Contexts -/

structure ContextTable where
  signals : Signals
  slots : Table Context

/-- The time that deadlines are relative to. -/
def deadlineBase : Nat :=
  Nat.pow 10 30

def viewWholeContext (f : Signals) (c : Context) : Json :=
  let kept (kind : String) : Json := (c.extensions.find? kind).getD .null
  object
    [("request_id", Json.ofText? c.requestId), ("user", Json.ofOption User.toJson c.user),
     ("transaction_id", Json.ofText? c.transactionId), ("params", viewParams c.params),
     ("deadline", Json.ofOption
       (fun d => Json.ofInt (((d : Int) - (deadlineBase : Int)) / 1000000)) c.deadline),
     ("cancelled", .bool (f.isCancelled c.signal)),
     ("remote", Json.ofText? (c.remote.map SocketAddress.toString)),
     ("ext", .array [kept "num", kept "text", Json.ofNat c.extensions.length,
       .bool c.extensions.isEmpty, .text c.describeExtensions]),
     ("remaining", .bool (c.remaining 0).isSome)]

/-- Puts a context into a slot and drops the one that was there. -/
def ContextTable.put (t : ContextTable) (signals : Signals) (name : String) (c : Context) :
    ContextTable :=
  let signals := match t.slots.find? name with
    | some old => signals.release old.signal
    | none => signals
  ⟨signals, t.slots.insert name c⟩

def playContext (t : ContextTable) (on : String) (c : Context) (name : String) (a : Json) :
    ContextTable × Json :=
  let set (c : Context) : ContextTable × Json := ({ t with slots := t.slots.insert on c }, .null)
  let take (kind : String) : ContextTable × Json :=
    let (there, c) := c.takeExtension kind
    ((set c).1, .bool there)
  match name with
  | "request_id" => set (c.setRequestId (asText a))
  | "user" => set (c.setUser ((asRecord? User.reader a).getD (User.new "" "")))
  | "transaction" => set (c.setTransactionId (asText a))
  | "param" => set (c.insertParam (pair a).1 (pair a).2)
  | "get_param" => (t, Json.ofText? (c.param? (asText a)))
  | "deadline" => set (c.setDeadline ((deadlineBase : Int) + asInt a * 1000000).toNat)
  | "cancel" => ({ t with signals := t.signals.cancel c.signal }, .null)
  | "remote" => set (((SocketAddress.parse? (asText a)).map c.withRemote).getD c)
  | "put_num" => set (c.putExtension "num" a)
  | "put_text" => set (c.putExtension "text" a)
  | "take_num" => take "num"
  | "take_text" => take "text"
  | "clone" =>
      let (signals, d) := c.clone t.signals
      (t.put signals (asText a) d, .null)
  | _ =>
      let (signals, d) := c.derive t.signals
      (t.put signals (asText a) d, .null)

/-- Plays steps on named contexts. -/
def contexts (j : Json) : Json :=
  let (signals, id) := Signals.create {}
  let start : ContextTable := ⟨signals, [("main", Context.withSignal id)]⟩
  let (_, shown) := (asList (field j "steps")).foldl (fun (t, out) s =>
    let on := (asText? (field s "on")).getD "main"
    let (t, a) := match t.slots.find? on with
      | some c => playContext t on c (step s).1 (step s).2
      | none => (t, .null)
    (t, object [("out", a),
      ("ctx", .object (t.slots.map fun (k, c) => (k, viewWholeContext t.signals c)))] :: out))
    (start, [])
  .array shown.reverse

/-! ## Shutdowns -/

structure ShutdownTable where
  signal : ShutdownSignal := {}
  tracker : ConnectionTracker := {}
  connections : List String := []
  triggers : Table Waiter := []
  drains : Table Waiter := []

def playShutdown (t : ShutdownTable) (name : String) (one : String) : ShutdownTable :=
  match name with
  | "acquire" =>
      let tracker := t.tracker.acquire
      if t.connections.contains one then { t with tracker := tracker.release }
      else { t with tracker := tracker, connections := one :: t.connections }
  | "release" =>
      if t.connections.contains one then
        { t with tracker := t.tracker.release, connections := t.connections.filter (· != one) }
      else t
  | "wait_trigger" => { t with triggers := t.triggers.insert one .fresh }
  | "wait_drain" => { t with drains := t.drains.insert one .fresh }
  | _ => { t with signal := t.signal.trigger }

/-- Plays steps on a shutdown and its connections. -/
def shutdowns (j : Json) : Json :=
  let (_, shown) := (asList (field j "steps")).foldl (fun (t, out) s =>
    let t := playShutdown t (step s).1 (asText (step s).2)
    let t := { t with
      triggers := t.triggers.map fun (k, w) => (k, t.signal.settle w)
      drains := t.drains.map fun (k, w) => (k, t.tracker.settle w) }
    let woken := ((t.triggers ++ t.drains).filter fun w => w.2 = .done).map Prod.fst
    let sorted := woken.mergeSort fun a b => a ≤ b
    (t, object
      [("triggered", .bool t.signal.triggered), ("active", Json.ofNat t.tracker.active),
       ("woken", .array (sorted.map .text))] :: out)) (({} : ShutdownTable), [])
  .array shown.reverse

end HttpService.Scenario

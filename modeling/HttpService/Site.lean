import HttpService.Act
import HttpService.Context
import HttpService.Files.Namespace
import HttpService.Identity.Directory
import HttpService.Limit.Sweeper
import HttpService.Telemetry.Collector
import HttpService.Telemetry.Event
import HttpService.Telemetry.Meters
import HttpService.Token.Revocation
import HttpService.Transaction.Manager

/-!
# Sites

What the requests to one service share, and the passing of time. Timers run on a clock that moves
only while a request waits; deadlines are read off a steady clock, each reading later than the one
before. A request may be dropped by its owner at a set time: it then ends where it waits.
-/

namespace HttpService

structure Site where
  /-- Nanoseconds on the timers' clock. -/
  now : Nat := 0
  /-- When the act that runs is dropped. -/
  limit : Option Nat := none
  /-- Nanoseconds on the steady clock. -/
  steady : Nat := 0
  /-- The calendar's time. -/
  today : Instant := ⟨0⟩
  /-- The next number of the random source. -/
  seed : Nat := 0
  /-- Whether background work can be started. -/
  running : Bool := true
  signals : Signals := {}
  revoked : RevocationList := {}
  directory : Directory := {}
  files : Namespace := []
  limiters : List RunningLimiter := []
  collector : Collector := {}
  meters : Meters := {}
  transactions : TransactionLog := {}
  /-- Begun transactions that were abandoned and wait for their rollback. -/
  abandoned : List (TransactionManager × String) := []
  events : List Event := []
  trace : List String := []

namespace Site

/-- One reading of the steady clock. -/
def readClock : Act Site Nat :=
  Act.update fun s => (s.steady, { s with steady := s.steady + 1 })

/-- A fresh random number. -/
def random : Act Site Nat :=
  Act.update fun s => (s.seed, { s with seed := s.seed + 1 })

def calendar : Act Site Instant :=
  Act.update fun s => (s.today, s)

def record (s : Site) (level : Level) (message : String) (fields : List (String × String))
    (reporter : Reporter := .stage) : Site :=
  { s with events := s.events ++ [{ reporter, level, message, fields }] }

def report (level : Level) (message : String) (fields : List (String × String))
    (reporter : Reporter := .stage) : Act Site Unit :=
  Act.modify fun s => s.record level message fields reporter

/-- Notes a line in the trace. -/
def note (line : String) : Act Site Unit :=
  Act.modify fun s => { s with trace := s.trace ++ [line] }

/-- Notes that a call has been made. -/
def ask (call : TransactionCall) (s : Site) : Site :=
  { s with transactions := { s.transactions with made := s.transactions.made ++ [call] } }

/-- Notes that a call has been answered. -/
def hear (call : TransactionCall) (s : Site) : Site :=
  { s with transactions := { s.transactions with ended := s.transactions.ended ++ [call] } }

/-! ## Background work -/

/-- Rolls an abandoned transaction back, whatever has become of its request. -/
def rollBack (s : Site) (manager : TransactionManager) (id : String) : Site :=
  let call := TransactionCall.rollback id
  let asked := s.ask call
  match manager.rollback s.transactions.made id with
  | .answer (.ok ()) _ =>
      (asked.hear call).record .warn "abandoned transaction rolled back" [("transaction_id", id)]
  | .answer (.error f) _ =>
      (asked.hear call).record .error "rollback failed"
        [("transaction_id", id), ("error", f.display)]
  | .panic _ _ | .never => asked

def rollBackAbandoned (s : Site) : Site :=
  s.abandoned.foldl (fun s (manager, id) => s.rollBack manager id) { s with abandoned := [] }

/-- One limiter's sweep, reported if it has removed something. -/
def tickLimiter (s : Site) (l : RunningLimiter) : Site :=
  let (removed, l) := l.tick s.now
  let s := { s with limiters := s.limiters ++ [l] }
  if removed > 0 then
    s.record .debug "rate limit keys swept" [("removed", toString removed)]
  else s

def tickLimiters (s : Site) : Site :=
  s.limiters.foldl tickLimiter { s with limiters := [] }

/-- Does the background work that is due. -/
def settle (s : Site) : Site :=
  s.rollBackAbandoned.tickLimiters

/-- The next time at which background work is due. -/
def nextWork (s : Site) : Option Nat :=
  s.limiters.foldl (fun earliest l =>
    match earliest, l.nextWork with
    | some a, some b => some (min a b)
    | some a, none => some a
    | none, b => b) none

/-- Lets time pass up to a target, stopping wherever background work is due before it. -/
def passUntil : Nat → Nat → Site → Site
  | 0, target, s => { s with now := target }
  | stops + 1, target, s =>
      let s := s.settle
      match s.nextWork with
      | some t => if t < target then passUntil stops target { s with now := t }
          else { s with now := target }
      | none => { s with now := target }

/-- More than the sweeps that can fall due before a target. -/
def stops (s : Site) (target : Nat) : Nat :=
  s.limiters.foldl (fun n l => n + (target - s.now) / l.rate.interval.nanos + 1) 2

def passTo (s : Site) (target : Nat) : Site :=
  passUntil (s.stops target) target s

/-! ## Waiting -/

/-- Waits until a time, or until the act is dropped if that comes first. -/
def waitUntil (due : Nat) : Act Site Unit :=
  fun s =>
    match s.limit with
    | some limit => if due ≤ limit then (.done (), s.passTo due) else (.dropped, s.passTo limit)
    | none => (.done (), s.passTo due)

def wait (ms : Nat) : Act Site Unit :=
  fun s => waitUntil (s.now + (Span.ofMillis ms).nanos) s

/-- Waits for what never comes. -/
def hang : Act Site α :=
  fun s =>
    match s.limit with
    | some limit => (.dropped, s.passTo limit)
    | none => (.dropped, s)

/-- The first whole millisecond that is not before a time. -/
def roundUp (t : Nat) : Nat :=
  (⟨t⟩ : Span).millisUp * Span.nanosPerMilli

/-- Jumps to a later time and then does the background work that has fallen due. -/
def advance (s : Site) (ms : Nat) : Site :=
  { s with now := s.now + (Span.ofMillis ms).nanos }.settle

/-! ## Transactions -/

/-- Waits for what takes so many milliseconds, not at all if it takes none. -/
def await (ms : Nat) : Act Site Unit :=
  if ms = 0 then Act.pure () else wait ms

/-- Waits for what comes of a call. -/
def receive (call : TransactionCall) : Reply α → Act Site (Except Failure α)
  | .answer outcome delay => do
      await delay
      Act.modify (hear call)
      Act.pure outcome
  | .panic p delay => do
      await delay
      Act.panic p
  | .never => hang

/-- Makes a call to a transaction manager and waits for its answer. -/
def transact (call : TransactionCall) (reply : List TransactionCall → Reply α) :
    Act Site (Except Failure α) :=
  fun s => receive call (reply s.transactions.made) (s.ask call)

def begin (m : TransactionManager) : Act Site (Except Failure String) :=
  transact .begin m.begin

def commit (m : TransactionManager) (id : String) : Act Site (Except Failure Unit) :=
  transact (.commit id) fun made => m.commit made id

def rollback (m : TransactionManager) (id : String) : Act Site (Except Failure Unit) :=
  transact (.rollback id) fun made => m.rollback made id

/-- Leaves a begun transaction to the background. Where there is none it can only be reported. -/
def abandon (m : TransactionManager) (id : String) : Act Site Unit :=
  Act.modify fun s =>
    if s.running then { s with abandoned := s.abandoned ++ [(m, id)] }
    else s.record .error "transaction abandoned outside a runtime" [("transaction_id", id)]

/-! ## Limiters -/

/-- Starts a limiter; its number is how stages refer to it. -/
def addLimiter (s : Site) (rate : RateLimit) : Site × Nat :=
  ({ s with limiters := s.limiters ++ [.start rate s.running] }, s.limiters.length)

def limiter (s : Site) (i : Nat) : RunningLimiter :=
  s.limiters.getD i (.start {} false)

def setLimiter (s : Site) (i : Nat) (l : RunningLimiter) : Site :=
  { s with limiters := s.limiters.set i l }

/-- Decides on a request of a client. -/
def decide (i : Nat) (key : String) : Act Site Decision :=
  Act.update fun s =>
    let l := s.limiter i
    let (decision, log) := l.log.check l.rate s.now key
    (decision, s.setLimiter i { l with log := log })

end Site

end HttpService

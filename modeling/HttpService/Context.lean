import HttpService.Identity.User
import HttpService.Net.Address
import HttpService.Signal.Forest
import HttpService.Time.Span

/-!
# Request contexts

What the service knows about a request apart from the request itself. A context is a value: a copy
shares nothing with it but its signal. A deadline can be moved earlier and never later.
-/

namespace HttpService

/-- Values of a caller's own kinds, at most one of each kind. -/
abbrev Extensions := Table Json

structure Context where
  requestId : Option String := none
  /-- Nanoseconds on the service's clock. -/
  deadline : Option Nat := none
  user : Option User := none
  transactionId : Option String := none
  params : Table String := []
  signal : Nat
  remote : Option SocketAddress := none
  extensions : Extensions := []

namespace Context

def withSignal (signal : Nat) : Context :=
  { signal := signal }

def setRequestId (c : Context) (id : String) : Context :=
  { c with requestId := some id }

def setUser (c : Context) (u : User) : Context :=
  { c with user := some u }

def setTransactionId (c : Context) (id : String) : Context :=
  { c with transactionId := some id }

def insertParam (c : Context) (name value : String) : Context :=
  { c with params := c.params.insert name value }

def param? (c : Context) (name : String) : Option String :=
  c.params.find? name

/-- Moves the deadline earlier, if the new one is. -/
def setDeadline (c : Context) (deadline : Nat) : Context :=
  { c with deadline := some (match c.deadline with
      | some existing => if existing < deadline then existing else deadline
      | none => deadline) }

/-- The time left at a reading of the clock; none once the deadline has passed. -/
def remaining (c : Context) (now : Nat) : Option Span :=
  c.deadline.map fun d => ⟨d - now⟩

def withRemote (c : Context) (a : SocketAddress) : Context :=
  { c with remote := some a }

def putExtension (c : Context) (kind : String) (value : Json) : Context :=
  { c with extensions := c.extensions.insert kind value }

/-- Takes a value out and tells whether it was there. -/
def takeExtension (c : Context) (kind : String) : Bool × Context :=
  (c.extensions.contains kind, { c with extensions := c.extensions.erase kind })

/-- A copy, which holds the same signal. -/
def clone (f : Signals) (c : Context) : Signals × Context :=
  (f.hold c.signal, c)

/-- A new context whose signal is a child of another's. -/
def derive (f : Signals) (c : Context) : Signals × Context :=
  let (f, id) := f.child c.signal
  (f, withSignal id)

/-- What diagnostics show of the extensions: how many there are. -/
def describeExtensions (c : Context) : String :=
  "Extensions \x7b len: " ++ toString c.extensions.length ++ " \x7d"

end Context

end HttpService

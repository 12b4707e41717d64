import HttpService.Signal.Waiter

/-!
# Orderly shutdown

A shutdown is triggered once and stays triggered. A tracker counts the connections that are open and
gives a notice each time the last one closes, so that a server can wait until it is drained.
-/

namespace HttpService

structure ShutdownSignal where
  triggered : Bool := false
  notices : Nat := 0
  deriving DecidableEq, Repr

namespace ShutdownSignal

def trigger (s : ShutdownSignal) : ShutdownSignal :=
  if s.triggered then s else { triggered := true, notices := s.notices + 1 }

/-- Lets a waiter for the trigger run. -/
def settle (s : ShutdownSignal) (w : Waiter) : Waiter :=
  w.settle s.triggered s.notices

end ShutdownSignal

structure ConnectionTracker where
  active : Nat := 0
  notices : Nat := 0
  deriving DecidableEq, Repr

namespace ConnectionTracker

/-- A connection opens. -/
def acquire (t : ConnectionTracker) : ConnectionTracker :=
  { t with active := t.active + 1 }

/-- Counts a connection out; tells whether it was the last one. -/
def decrement (t : ConnectionTracker) : ConnectionTracker × Bool :=
  ({ t with active := t.active - 1 }, t.active = 1)

def notify (t : ConnectionTracker) : ConnectionTracker :=
  { t with notices := t.notices + 1 }

/-- A connection closes. -/
def release (t : ConnectionTracker) : ConnectionTracker :=
  match t.decrement with
  | (t, true) => t.notify
  | (t, false) => t

def drained (t : ConnectionTracker) : Bool :=
  t.active = 0

/-- Lets a waiter for the drained state run. -/
def settle (t : ConnectionTracker) (w : Waiter) : Waiter :=
  w.settle t.drained t.notices

end ConnectionTracker

end HttpService

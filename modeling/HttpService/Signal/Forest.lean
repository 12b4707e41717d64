import HttpService.Failure.Basic

/-!
# Cancellation

Signals form trees: cancelling one cancels those derived from it. A signal lives as long as somebody
holds a handle on it, and a parent reaches only the children that are alive. Handles are counted;
children never keep a parent alive, nor a parent its children.
-/

namespace HttpService

structure SignalNode where
  cancelled : Bool := false
  children : List Nat := []
  handles : Nat := 1
  deriving DecidableEq, Repr

/-- All signals that were ever made, by number. -/
structure Signals where
  nodes : List SignalNode := []
  deriving DecidableEq, Repr

namespace Signals

def node (f : Signals) (id : Nat) : SignalNode :=
  f.nodes.getD id { handles := 0 }

def setNode (f : Signals) (id : Nat) (n : SignalNode) : Signals :=
  ⟨f.nodes.set id n⟩

def isCancelled (f : Signals) (id : Nat) : Bool :=
  (f.node id).cancelled

def isAlive (f : Signals) (id : Nat) : Bool :=
  (f.node id).handles > 0

/-- A new signal with one handle. -/
def create (f : Signals) : Signals × Nat :=
  (⟨f.nodes ++ [{ handles := 1 }]⟩, f.nodes.length)

/-- Cancels a signal and what can be reached from it; the first argument bounds the depth. -/
def cancelFrom : Nat → Signals → Nat → Signals
  | 0, f, _ => f
  | depth + 1, f, id =>
      if f.isCancelled id then f
      else
        let kids := (f.node id).children
        let marked := f.setNode id { f.node id with cancelled := true, children := [] }
        (kids.filter marked.isAlive).foldl (cancelFrom depth) marked

/-- Cancels a signal and its living descendants. -/
def cancel (f : Signals) (id : Nat) : Signals :=
  cancelFrom (f.nodes.length + 1) f id

/-- A signal that is cancelled with its parent, at once if the parent already is. -/
def child (f : Signals) (parent : Nat) : Signals × Nat :=
  let (grown, id) := f.create
  let p := grown.node parent
  let linked := grown.setNode parent
    { p with children := p.children.filter grown.isAlive ++ [id] }
  (if linked.isCancelled parent then linked.cancel id else linked, id)

/-- One more handle on a signal. -/
def hold (f : Signals) (id : Nat) : Signals :=
  let n := f.node id
  f.setNode id { n with handles := n.handles + 1 }

/-- One handle less. -/
def release (f : Signals) (id : Nat) : Signals :=
  let n := f.node id
  f.setNode id { n with handles := n.handles - 1 }

/-- What work under a cancelled signal answers. -/
def interruption : Failure :=
  .cancelled "operation cancelled"

end Signals

/-- What a guard does with its signal when it is dropped. -/
structure CancelGuard where
  signal : Nat
  armed : Bool := true
  deriving DecidableEq, Repr

namespace CancelGuard

/-- A guard holds its signal. -/
def make (f : Signals) (id : Nat) : Signals × CancelGuard :=
  (f.hold id, { signal := id })

def disarm (f : Signals) (g : CancelGuard) : Signals :=
  if g.armed then f.release g.signal else f

def drop (f : Signals) (g : CancelGuard) : Signals :=
  if g.armed then (f.cancel g.signal).release g.signal else f

end CancelGuard

end HttpService

import HttpService.Stage.Basic

/-!
# Time limits

What is further in has a limited time, and no more than is left before the deadline of the request.
When the time is up it is dropped, its signal is cancelled, and the client is told.
-/

namespace HttpService.Stage

/-- The greatest reading of the steady clock: the greatest number of seconds in 63 bits. -/
def lastReading : Nat :=
  Nat.pow 2 63 * Span.nanosPerSecond - 1

/-- Whether a limit of one's own comes no later than an outer one. -/
def comesFirst (due : Nat) (outer : Option Nat) : Bool :=
  match outer with
  | some limit => due ≤ limit
  | none => true

/-- Runs an act that is dropped when a span is over; nothing if that comes first. The act's own
limit wins over an outer one at the same time. -/
def within (budget : Span) (m : Act Flow α) : Act Flow (Option α) :=
  fun f =>
    let due := Site.roundUp (f.site.now + budget.nanos)
    let outer := f.site.limit
    let own := comesFirst due outer
    let (ending, g) := m { f with site := { f.site with limit := if own then some due else outer } }
    let g := { g with site := { g.site with limit := outer } }
    match ending with
    | .done a => (.done (some a), g)
    | .panicked p => (.panicked p, g)
    | .dropped => (if own then .done none else .dropped, g)

def shorter (a : Span) (left : Option Span) : Span :=
  match left with
  | some b => if b.nanos < a.nanos then b else a
  | none => a

def expired : Failure :=
  .new .deadlineExceeded "request deadline exceeded"

def timeout (duration : Span) : Stage where
  name := "timeout"
  process request next := do
    let c ← Flow.current
    let budget := shorter duration (c.remaining (← Flow.onSite Site.readClock))
    let started ← Flow.onSite Site.readClock
    if started + budget.nanos > lastReading then
      Act.panic (.text "overflow when adding duration to instant")
    else
      Flow.setContext (c.setDeadline (started + budget.nanos))
      match ← within budget (next.run request) with
      | some response => Act.pure response
      | none =>
          Flow.onSite (Act.modify fun s => { s with signals := s.signals.cancel c.signal })
          Flow.report .warn "request deadline exceeded"
            [("request_id", Flow.shownId c),
             ("timeout_ms", toString (budget.millis % Nat.pow 2 64))]
          Act.pure (.ofFailure expired c.requestId)

end HttpService.Stage

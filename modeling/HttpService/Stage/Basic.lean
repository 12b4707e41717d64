import HttpService.Handler
import HttpService.Text.Quoted

/-!
# Stages

A stage sees a request on its way to the handler and the response on its way back. It may change
both and the context, or answer without going on. Stages are composed from the outside in: the first
of a list is the first to see the request and the last to see the response.
-/

namespace HttpService

/-- What a request carries through the stages, and the site it belongs to. -/
structure Flow where
  context : Context
  site : Site

namespace Flow

def current : Act Flow Context :=
  fun f => (.done f.context, f)

def setContext (c : Context) : Act Flow Unit :=
  Act.modify fun f => { f with context := c }

def onSite (m : Act Site α) : Act Flow α :=
  Act.on Flow.site (fun f s => { f with site := s }) m

def report (level : Level) (message : String) (fields : List (String × String))
    (reporter : Reporter := .stage) : Act Flow Unit :=
  onSite (Site.report level message fields reporter)

/-- The request id as reports show it. -/
def shownId (c : Context) : String :=
  c.requestId.getD "-"

end Flow

/-- The rest of the way to the handler. -/
structure Next where
  /-- The stage that comes next; nothing if it is the handler. -/
  label : Option String
  run : Request → Act Flow Response

structure Stage where
  name : String
  process : Request → Next → Act Flow Response

namespace Next

/-- The way through one more stage. -/
def through (s : Stage) (next : Next) : Next where
  label := some s.name
  run request := s.process request next

/-- The way that ends at a handler. A failure is rendered with the request id, and reported if it is
the service's own. -/
def endpoint (handler : Handler) : Next where
  label := none
  run request := do
    let c ← Flow.current
    match ← Flow.onSite (handler c request) with
    | .ok response => Act.pure response
    | .error f =>
        if 500 ≤ f.status && f.status ≤ 599 then
          Flow.report .error "handler failed"
            [("request_id", Text.quotedOption c.requestId), ("error", f.display)] .endpoint
        Act.pure (Response.ofFailure f c.requestId)

/-- What diagnostics show. -/
def describe (next : Next) : String :=
  match next.label with
  | some name => "Next::Chain(" ++ Text.quoted name ++ ")"
  | none => "Next::Handler"

end Next

def compose (stages : List Stage) (terminal : Next) : Next :=
  stages.foldr Next.through terminal

/-- Composing two lists one inside the other is composing their concatenation. -/
theorem compose_append (outer inner : List Stage) (terminal : Next) :
    compose (outer ++ inner) terminal = compose outer (compose inner terminal) := by
  simp [compose, List.foldr_append]

/-- A list of stages that can be extended and run. -/
structure Chain where
  stages : List Stage := []

namespace Chain

def push (c : Chain) (s : Stage) : Chain :=
  ⟨c.stages ++ [s]⟩

/-- Adds the stages of another chain behind those of this one. -/
def extend (c other : Chain) : Chain :=
  ⟨c.stages ++ other.stages⟩

def names (c : Chain) : List String :=
  c.stages.map Stage.name

def size (c : Chain) : Nat :=
  c.stages.length

def isEmpty (c : Chain) : Bool :=
  c.stages.isEmpty

def run (c : Chain) (handler : Handler) (request : Request) : Act Flow Response :=
  (compose c.stages (.endpoint handler)).run request

def describe (c : Chain) : String :=
  Text.listed (c.names.map Text.quoted)

end Chain

end HttpService

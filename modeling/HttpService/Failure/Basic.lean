import HttpService.Failure.Code
import HttpService.Text.Blank

/-!
# Failures

A failure has a code, a message that is never blank, named details, and possibly the error that
caused it. Wrapping an error that is already a failure leaves it as it is, so layers of callers do
not stack messages.
-/

namespace HttpService

/-- An error that is not a failure: its text and the texts of the errors below it. -/
structure Foreign where
  text : String
  sources : List String := []
  /-- Whether the text is part of what a caller may rely on, or a component's own wording. -/
  stable : Bool := true
  deriving DecidableEq, Repr

mutual

structure Failure where
  code : Code
  message : String
  metadata : Table Json
  cause : Option Cause
  domain : Option Domain
  stack : Option String

inductive Cause
  | foreign (error : Foreign)
  | failure (error : Failure)

end

namespace Failure

/-- A failure whose message, if blank, is the code's description. -/
def new (code : Code) (message : String) : Failure where
  code := code
  message := if Text.blank message then code.description else message
  metadata := []
  cause := none
  domain := none
  stack := none

def display (f : Failure) : String :=
  f.code.name ++ ": " ++ f.message

end Failure

namespace Cause

def display : Cause → String
  | foreign e => e.text
  | failure f => f.display

/-- The texts of the errors below a cause, outermost first. -/
def sources : Cause → List String
  | foreign e => e.sources
  | failure ⟨_, _, _, none, _, _⟩ => []
  | failure ⟨_, _, _, some c, _, _⟩ => c.display :: c.sources

end Cause

namespace Failure

/-- The texts of the errors below a failure, outermost first. -/
def sources (f : Failure) : List String :=
  match f.cause with
  | none => []
  | some c => c.display :: c.sources

/-- The failure's text followed by those of everything below it. -/
def chain (f : Failure) : List String :=
  f.display :: f.sources

def withField (f : Failure) (key : String) (value : Json) : Failure :=
  { f with metadata := f.metadata.insert key value }

def withCause (f : Failure) (cause : Cause) : Failure :=
  { f with cause := some cause }

def withDomain (f : Failure) (domain : Domain) : Failure :=
  { f with domain := some domain }

def withStack (f : Failure) (stack : String) : Failure :=
  { f with stack := some stack }

/-- Gives an error a code and a message of the caller's, unless it has its own already. -/
def wrap (error : Cause) (code : Code) (message : String) : Failure :=
  match error with
  | .failure f => f
  | .foreign e => (new code message).withCause (.foreign e)

def wrapError (result : Except Cause α) (code : Code) (message : String) : Except Failure α :=
  match result with
  | .ok a => .ok a
  | .error e => .error (wrap e code message)

def status (f : Failure) : Nat :=
  f.code.status

def invalidArgument : String → Failure := new .invalidArgument
def notFound : String → Failure := new .notFound
def alreadyExists : String → Failure := new .alreadyExists
def permissionDenied : String → Failure := new .permissionDenied
def unauthenticated : String → Failure := new .unauthenticated
def rateLimited : String → Failure := new .rateLimitExceeded
def resourceExhausted : String → Failure := new .resourceExhausted
def internal : String → Failure := new .internal
def unavailable : String → Failure := new .unavailable
def cancelled : String → Failure := new .cancelled

def network (message : String) : Failure :=
  (new .networkError message).withDomain .network

/-- A document that could not be read. -/
def ofFault (fault : Json.Fault) : Failure :=
  (new .invalidArgument ("invalid JSON: " ++ fault.message)).withCause
    (.foreign { text := fault.message, stable := false })

/-- A failed input or output operation. -/
def ofInputOutput (error : Foreign) : Failure :=
  (new .internal error.text).withCause (.foreign error)

/-- Two failures are the same to a caller when all but their stacks agree; of the causes the text
counts. -/
def same (a b : Failure) : Bool :=
  a.code == b.code && a.message == b.message &&
    (Json.object a.metadata).same (Json.object b.metadata) && a.domain == b.domain &&
    a.cause.map Cause.display == b.cause.map Cause.display

/-- What logs record of a failure. -/
def toJson (f : Failure) : Json :=
  .object
    [("code", f.code.toJson), ("message", .text f.message), ("metadata", .ofTable f.metadata),
     ("cause", Json.ofText? (f.cause.map Cause.display)),
     ("domain", Json.ofOption (fun d => .text d.name) f.domain)]

end Failure

end HttpService

import HttpService.Client.Call

/-!
# Answers to calls

A response whose status says that the call has failed becomes a failure. It has the code and the
message of the server's envelope, or else a code for the status and what text there is.
-/

namespace HttpService

namespace Text

/-- The longest start that has at most so many bytes. -/
def takeBytes : Nat → List Char → List Char
  | _, [] => []
  | room, c :: cs => if c.utf8Size ≤ room then c :: takeBytes (room - c.utf8Size) cs else []

/-- Cuts a text that is too long. -/
def truncate (s : String) (bytes : Nat) : String :=
  if s.utf8ByteSize ≤ bytes then s else String.ofList (takeBytes bytes s.toList) ++ "…"

end Text

namespace Prepared

/-- How much of a body goes into a message. -/
def maxErrorBody : Nat := 512

/-- The code of a failed answer: the one that the server names, if it goes with the status. -/
def refinedCode (status : Nat) (named : String) : Code :=
  match Code.ofName? named with
  | some code => if code.status = status then code else .ofStatus status
  | none => .ofStatus status

/-- The message for an answer without an envelope. Statuses have reasons of their own. -/
def plainMessage (reason : Nat → Option String) (r : Response) : String :=
  let text := Text.trim r.body
  if text.isEmpty then (reason r.status).getD "request failed" else Text.truncate text maxErrorBody

/-- The failure that an answer reports. -/
def statusFailure (p : Prepared) (reason : Nat → Option String) (r : Response) : Failure :=
  let describe (f : Failure) : Failure :=
    (((f.withDomain .network).withField "status" (Json.ofNat r.status)).withField "method"
      (.text p.method.name)).withField "url" (.text p.url.text)
  match Json.read (Envelope.reader Json.Reader.value) r.body with
  | .ok ⟨_, _, some body⟩ =>
      let f := describe (.new (refinedCode r.status body.code) body.message)
      match body.requestId with
      | some id => f.withField "request_id" (.text id)
      | none => f
  | _ => describe (.new (.ofStatus r.status) (plainMessage reason r))

/-- What the caller gets of the outcome of the last attempt. -/
def judge (p : Prepared) (reason : Nat → Option String) : Outcome → Outcome
  | .ok r => if 400 ≤ r.status then .error (p.statusFailure reason r) else .ok r
  | .error f => .error f

end Prepared

end HttpService

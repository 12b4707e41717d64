import HttpService.Stage.Basic

/-!
# Request ids

Every request has an id: the one its client sent, or a fresh one. The header is carried on as it
came, to the handler and back to the client.
-/

namespace HttpService.Stage

def requestIdHeader : String := "x-request-id"

/-- The id of a request and the header it came in, if it is text and not blank. -/
def incomingId? (h : Headers) : Option (String × String) :=
  match h.text? requestIdHeader with
  | some value => if Text.blank value then none else some (Text.trim value, value)
  | none => none

def requestId : Stage where
  name := "request_id"
  process request next := do
    let (id, header) ← match incomingId? request.headers with
      | some found => Act.pure found
      | none => do
          let id := (Uuid.ofSeed (← Flow.onSite Site.random)).toString
          Act.pure (id, id)
    let c ← Flow.current
    Flow.setContext (c.setRequestId id)
    let request := { request with headers := request.headers.insert requestIdHeader header }
    let response ← next.run request
    Act.pure (response.withHeader requestIdHeader header)

end HttpService.Stage

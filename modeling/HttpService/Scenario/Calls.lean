import HttpService.Client.Exchange
import HttpService.Scenario.View
import HttpService.Scenario.Web.Address

/-!
# Calls of a client

Plays calls of a client to a service that nobody can reach, and describes clients and policies.
-/

namespace HttpService.Scenario

/-- Where nobody listens. -/
def deadAddress : String := "127.0.0.1:49152"

def fillHost (s : String) : String :=
  s.replace "$\x7bhost\x7d" ("http://" ++ deadAddress)

def hideHost (s : String) : String :=
  s.replace deadAddress "HOST"

/-- A failure without the address. -/
def viewHidden (f : Failure) : Json :=
  let hidden : Json → Json
    | .text s => .text (hideHost s)
    | j => j
  viewFailure
    { f with
      message := hideHost f.message
      metadata := f.metadata.map fun (k, v) => (k, hidden v) }

def policyOf (j : Json) : Except Failure RetryPolicy :=
  match j with
  | .text "none" => .ok .none
  | .text _ => .ok .standard
  | j => RetryPolicy.new (asNat (field j "max")) (asSpan (field j "base")) (asSpan (field j "cap"))

def viewPolicy (p : RetryPolicy) : Json :=
  object
    [("max_retries", Json.ofNat p.maxRetries), ("base", ofSpan p.baseInterval),
     ("cap", ofSpan p.maxBackoff)]

/-- What there is to say about a policy. -/
def retry (j : Json) : Json :=
  match policyOf (field j "policy") with
  | .error f => viewFailure f
  | .ok p =>
      object
        [("policy", viewPolicy p), ("delays", .array ((p.delays 64).map ofSpan)),
         ("at", .array ((asList (field j "attempts")).map fun n => ofSpan (p.backoff (asNat n)))),
         ("errors", .array ((asList (field j "errors")).map fun c =>
           .bool (p.retryable (.error (.new (codeOf c) "x"))))),
         ("default", .bool (p.same .standard)), ("debug", .text p.describe)]

def retryStandard (j : Json) : Json :=
  .bool (RetryPolicy.transient none
    (if has j "code" then some (.new (codeOf (field j "code")) "x") else none))

/-! ## Configurations -/

def configure (c : ClientConfig) (s : Json) : Except Failure ClientConfig :=
  let (name, a) := step s
  match name with
  | "timeout" => .ok { c with timeout := asSpan a }
  | "header" => .ok { c with headers := c.headers.insert (textAt a 0) (textAt a 1) }
  | "headers" => .ok { c with headers := Headers.ofList (pairs a) }
  | "bearer" => .ok { c with bearer := some (asText a) }
  | "user_agent" => .ok { c with userAgent := asText a }
  | "retry" => (policyOf a).map fun p => { c with retry := p }
  | _ => .ok c

def clientConfigOf (base : String) (settings : Json) : Except Failure ClientConfig :=
  (asList settings).foldlM configure { baseUrl := base }

def viewClientConfig (c : ClientConfig) : Json :=
  object
    [("base_url", .text c.baseUrl), ("timeout", ofSpan c.timeout),
     ("headers", viewHeaders c.headers), ("bearer", Json.ofText? c.bearer),
     ("user_agent", .text c.userAgent), ("retry", viewPolicy c.retry)]

def clientConfig (j : Json) : Json :=
  match clientConfigOf (asText (field j "base")) (field j "set") with
  | .error f => viewFailure f
  | .ok c =>
      object
        [("config", viewClientConfig c),
         ("client", viewResult (fun _ => .bool true) (Client.new urls c))]

/-! ## Calls -/

/-- Every attempt fails at once: nobody listens, and some addresses are of no use here. -/
def deadNetwork : Network where
  answer _ _ p :=
    let known := ["http:", "https:"].any fun start => Text.startsWith p.url.bare start
    let fault := if known then TransportFault.unreachable else .rejected
    ⟨.zero, .error (fault.toFailure p.url)⟩
  copy? := some

/-- The signals that a description can give to a call. -/
def ownSignal : Nat := 0
def contextSignal : Nat := 1

/-- When a signal fires, counted from the call. -/
def firing (j : Json) (signal : Nat) : Option Nat :=
  if signal == ownSignal then
    if asText (field j "cancel") == "before" then some 0 else some (Span.ofMillis 60).nanos
  else if asBool (field (field j "ctx") "cancelled") then some 0
  else none

def payloadOf (j : Json) : Payload :=
  .json (sortMembers j)

/-- A request's context as the description of a call gives it. -/
def callContext (j : Json) : Context :=
  let c := Context.withSignal contextSignal
  let named := match asText? (field j "request_id") with
    | some id => c.setRequestId id
    | none => c
  if has j "deadline_ms" then
    named.setDeadline (asInt (field j "deadline_ms") * Span.nanosPerMilli).toNat
  else named

/-- A call by the short way for its method. -/
def helperCall (c : Client) (helper path : String) (j : Json) : Call :=
  match helper with
  | "post_json" => (Call.new c .post path).json (payloadOf (field j "json"))
  | "put_json" => (Call.new c .put path).json (payloadOf (field j "json"))
  | "delete_json" => Call.new c .delete path
  | "get_json_with_headers" =>
      (Call.new c .get path).withHeaders (Headers.ofList (pairs (field j "headers")))
  | _ => Call.new c .get path

/-- A call put together step by step. -/
def builtCall (c : Client) (path : String) (j : Json) : Except Failure Call := do
  let call := Call.new c (Method.ofName ((asText? (field j "method")).getD "GET")) path
  let call := (pairs (field j "headers")).foldl (fun q h => q.header h.1 h.2) call
  let call := if has j "more_headers" then
      call.withHeaders (Headers.ofList (pairs (field j "more_headers")))
    else call
  let call := if has j "bearer" then call.bearerToken (asText (field j "bearer")) else call
  let call := if has j "json" then call.json (payloadOf (field j "json")) else call
  let call := if asBool (field j "unserializable") then
      call.json (.unencodable "keys must be strings")
    else call
  let call := if has j "body" then call.withBody (asText (field j "body")) else call
  let call := if has j "timeout_ms" then
      call.withTimeout (.ofMillis (asNat (field j "timeout_ms")))
    else call
  let call ← if has j "retry" then (policyOf (field j "retry")).map call.withRetry
    else .ok call
  let call := if has j "retry_only_status" then
      let status := asNat (field j "retry_only_status")
      call.withRetry (call.retry.withRetryable fun
        | .ok r => r.status == status
        | .error _ => false)
    else call
  let call := if has j "cancel" then call.withSignal ownSignal else call
  .ok (if has j "ctx" then call.withContext (callContext (field j "ctx")) 0 else call)

def callOf (c : Client) (j : Json) : Except Failure Call :=
  let path := fillHost (asText (field j "path"))
  match asText? (field j "helper") with
  | some helper => .ok (helperCall c helper path j)
  | none => builtCall c path j

def playCall (c : Client) (j : Json) : Json :=
  let outcome : Outcome := do
    let call ← callOf c j
    (call.send (fun _ => none) deadNetwork (firing j) 0).outcome
  let result := match outcome with
    | .ok r => viewOk (viewResponse r)
    | .error f => viewHidden f
  object [("result", result), ("seen", .array [])]

def calls (j : Json) : Json :=
  let base := fillHost ((asText? (field j "base")).getD "$\x7bhost\x7d")
  match (clientConfigOf base (field j "set")).bind (Client.new urls) with
  | .error f => viewHidden f
  | .ok c => .array ((asList (field j "calls")).map (playCall c))

end HttpService.Scenario

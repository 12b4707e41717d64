import HttpService.Client.Basic
import HttpService.Context

/-!
# Calls

A call is put together step by step and then prepared. What goes wrong on the way is kept, and the
last fault is what the call reports.
-/

namespace HttpService

structure Call where
  client : Client
  method : Method
  path : String
  headers : Headers := []
  body : Option String := none
  /-- The signal that stops the call. -/
  signal : Option Nat := none
  timeout : Option Span := none
  retry : RetryPolicy
  fault : Option Failure := none

/-- A request as every attempt sends it. -/
structure Prepared where
  method : Method
  url : Url
  headers : Headers
  body : Option String
  /-- How long an attempt may take. -/
  timeout : Span

namespace Call

def new (c : Client) (method : Method) (path : String) : Call :=
  { client := c, method := method, path := path, retry := c.config.retry }

def header (c : Call) (name value : String) : Call :=
  { c with headers := c.headers.insert name value }

/-- Sets several headers; the values of each name replace those it has. -/
def withHeaders (c : Call) (more : Headers) : Call :=
  let kept := more.foldl (fun h entry => h.remove entry.1) c.headers
  { c with headers := more.foldl (fun h entry => h.append entry.1 entry.2) kept }

def bearerToken (c : Call) (token : String) : Call :=
  match bearerValue token with
  | .ok value => c.header "authorization" value
  | .error f => { c with fault := some f }

/-- Sends a value as the body. -/
def json (c : Call) (value : Payload) : Call :=
  match value with
  | .json value => { c.header "content-type" "application/json" with body := some value.render }
  | .unencodable reason =>
      { c with fault := some ((Failure.invalidArgument "failed to encode request body").withCause
          (.foreign { text := reason, stable := false })) }

def withBody (c : Call) (body : String) : Call :=
  { c with body := some body }

def withTimeout (c : Call) (timeout : Span) : Call :=
  { c with timeout := some timeout }

def withRetry (c : Call) (retry : RetryPolicy) : Call :=
  { c with retry := retry }

def withSignal (c : Call) (signal : Nat) : Call :=
  { c with signal := some signal }

/-- Ties a call to a request that is being served: its signal stops the call, its id is passed on
unless the call has one, and an attempt may take no longer than what is left of its time. -/
def withContext (c : Call) (ctx : Context) (now : Nat) : Call :=
  let tied := c.withSignal ctx.signal
  let named := match ctx.requestId with
    | some id =>
        if Headers.legalValue id && (tied.headers.get? "x-request-id").isNone then
          tied.header "x-request-id" id
        else tied
    | none => tied
  match ctx.remaining now with
  | none => named
  | some left =>
      match named.timeout with
      | some t => named.withTimeout (if left.nanos < t.nanos then left else t)
      | none => named.withTimeout left

/-- The headers of a call, the login of its address and the headers of its client, each of them
unless there is one of its name before. -/
def allHeaders (c : Call) (url : Url) : Headers :=
  let own := match url.login with
    | some login =>
        if (c.headers.get? "authorization").isNone then
          c.headers.insert "authorization" login
        else c.headers
    | none => c.headers
  own ++ c.client.headers.filter fun entry => (own.get? entry.1).isNone

/-- The request of a call. An address without a host cannot be asked. -/
def prepare (c : Call) : Except Failure Prepared :=
  match c.fault with
  | some f => .error f
  | none => do
      let url ← c.client.resolve c.path
      if url.hosted then
        .ok
          { method := c.method
            url := url
            headers := c.allHeaders url
            body := c.body
            timeout := c.timeout.getD c.client.config.timeout }
      else .error (refusedArgument "failed to build request" "builder error")

end Call

end HttpService

import HttpService.Handler
import HttpService.Scenario.View

/-!
# Described handlers

Handlers that a description names by their kind: they answer with fixed texts and values, fail,
panic, take their time, or tell what they were given.
-/

namespace HttpService.Scenario

def answer (r : Response) : Act Site (Except Failure Response) :=
  Act.pure (.ok r)

/-- Tells what a handler is given, its members in ascending order. -/
def echo (status : Nat) : Handler :=
  fun c request => Act.update fun s =>
    let told := object
      [("request_id", Json.ofText? c.requestId),
       ("user", Json.ofOption (fun u => sortMembers u.toJson) c.user),
       ("transaction_id", Json.ofText? c.transactionId), ("params", viewParams c.params),
       ("method", .text request.method.name), ("path", .text request.path),
       ("query", Json.ofText? request.target.query),
       ("header", Json.ofText? (request.headers.text? "x-request-id")),
       ("body", .text request.body), ("deadline", .bool c.deadline.isSome),
       ("cancelled", .bool (s.signals.isCancelled c.signal))]
    (.ok (Response.json status (.json told)), s)

/-- Waits, unless the request is cancelled already. -/
def waitUnlessCancelled (c : Context) (ms : Nat) : Act Site (Except Failure Unit) := do
  let s ← Act.get
  if s.signals.isCancelled c.signal then Act.pure (.error Signals.interruption)
  else
    Site.wait ms
    Act.pure (.ok ())

/-- Waits until the request is cancelled. -/
def waitForCancel (c : Context) : Act Site Unit := do
  let s ← Act.get
  if s.signals.isCancelled c.signal then Act.pure () else Site.hang

def withFields (f : Failure) (fields : Json) : Failure :=
  match fields with
  | .object members => members.foldl (fun f (k, v) => f.withField k v) f
  | _ => f

/-- The handler of a kind without its extra headers; `inner` is the one to go on with. -/
def plainHandler (j : Json) (inner : Handler) : Handler :=
  let status := (asNat? (field j "status")).getD 200
  let value := field j "value"
  match asText (field j "kind") with
  | "text" => fun _ _ => answer (Response.text status (asText (field j "body")))
  | "json" => fun _ _ => answer (Response.json status (.json value))
  | "unserializable" => fun _ _ =>
      answer (Response.json status (.unencodable "member names must be texts"))
  | "ok" => fun _ _ => answer (Response.ok value)
  | "created" => fun _ _ => answer (Response.created value)
  | "ok_unit" => fun _ _ => answer (Response.ok .null)
  | "success" => fun _ _ => answer (Response.success status value)
  | "no_content" => fun _ _ => answer Response.noContent
  | "error" => fun _ _ =>
      let f := Failure.new (codeOf (field j "code")) (asText (field j "message"))
      Act.pure (.error (withFields f (field j "fields")))
  | "panic" => fun _ _ =>
      if asText (field j "payload") == "other" then Act.panic .other
      else Act.panic (.text (asText (field j "message")))
  | "sleep" => fun c request =>
      Act.bind (Site.wait (asNat (field j "ms"))) fun _ => inner c request
  | "sleep_cancellable" => fun c request =>
      Act.attempt (waitUnlessCancelled c (asNat (field j "ms"))) fun _ => inner c request
  | "hang" => fun c _ => Act.bind (waitForCancel c) fun _ => answer Response.noContent
  | "json_echo" => fun _ request =>
      Act.pure ((Request.jsonBody Json.Reader.value request).map Response.ok)
  | "size" => fun _ request =>
      answer (Response.created (.object [("size", Json.ofNat (Text.utf8 request.body).length)]))
  | _ => echo status

def appendHeaders (headers : List (String × String)) (r : Response) : Response :=
  { r with headers := headers.foldl (fun h (k, v) => h.append k v) r.headers }

/-- The handler of a description; the first argument bounds how many are nested. -/
def handlerOf : Nat → Json → Handler
  | 0, _ => fun _ _ => answer Response.noContent
  | depth + 1, j =>
      let plain := plainHandler j (fun c request => handlerOf depth (field j "then") c request)
      if has j "headers" then fun c request =>
        Act.bind (plain c request) fun r =>
          Act.pure (r.map (appendHeaders (pairs (field j "headers"))))
      else plain

def handler (j : Json) : Handler :=
  handlerOf (j.depth + 1) j

end HttpService.Scenario

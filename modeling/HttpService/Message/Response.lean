import HttpService.Failure.Basic
import HttpService.Identity.User
import HttpService.Message.Request

/-!
# Responses

What a handler answers, and the envelope around its data: `success` with the data, or the code,
message and request id of a failure. Of a failure nothing else reaches the client.
-/

namespace HttpService

structure Response where
  status : Nat
  headers : Headers
  body : String
  deriving DecidableEq, Repr

/-- A value for an answer, which may turn out to have no JSON form. -/
inductive Payload
  | json (value : Json)
  | unencodable (reason : String)

namespace Response

def withBody (status : Nat) (contentType body : String) : Response :=
  ⟨status, [("content-type", contentType)], body⟩

def failureBody (f : Failure) (requestId : Option String) : Json :=
  .object
    [("success", .bool false),
     ("error", .object
       ([("code", .text f.code.name), ("message", .text f.message)] ++
         (requestId.map fun id => ("request_id", Json.text id)).toList))]

/-- The answer that reports a failure. -/
def ofFailure (f : Failure) (requestId : Option String) : Response :=
  let plain := withBody f.status "application/json" (failureBody f requestId).render
  if f.code.isAuthentication then
    { plain with headers := plain.headers.insert "www-authenticate" "Bearer" }
  else plain

theorem status_ofFailure (f : Failure) (requestId : Option String) :
    (ofFailure f requestId).status = f.status := by
  unfold ofFailure
  dsimp only
  split <;> rfl

/-- A caller that has not proved who it is gets told how to. -/
theorem challenge_ofFailure {f : Failure} (unproven : f.code.isAuthentication = true)
    (requestId : Option String) :
    (ofFailure f requestId).headers.get? "www-authenticate" = some "Bearer" := by
  unfold ofFailure
  dsimp only
  rw [if_pos unproven]
  exact Headers.get?_insert_self ..

/-- A bare value. One that has no JSON form is an internal failure. -/
def json (status : Nat) : Payload → Response
  | .json value => withBody status "application/json" value.render
  | .unencodable reason =>
      ofFailure ((Failure.internal "failed to encode response").withCause
        (.foreign { text := reason, stable := false })) none

def successBody (data : Json) : Json :=
  .object [("success", .bool true), ("data", data)]

/-- A value in its envelope. -/
def success (status : Nat) (data : Json) : Response :=
  json status (.json (successBody data))

def ok (data : Json) : Response :=
  success 200 data

def created (data : Json) : Response :=
  success 201 data

def text (status : Nat) (body : String) : Response :=
  withBody status "text/plain; charset=utf-8" body

def noContent : Response :=
  ⟨204, [], ""⟩

def withHeader (r : Response) (name value : String) : Response :=
  { r with headers := r.headers.insert name value }

end Response

/-- The details of a failure in an envelope. -/
structure ErrorBody where
  code : String
  message : String
  requestId : Option String
  deriving DecidableEq, Repr

def ErrorBody.reader : Json.Reader ErrorBody :=
  Json.Reader.record ["code", "message", "request_id"] false fun f => do
    let code ← f.required "code" Json.Reader.string
    let message ← f.required "message" Json.Reader.string
    let requestId ← f.defaulted "request_id" none (Json.Reader.option Json.Reader.string)
    .ok ⟨code, message, requestId⟩

/-- An envelope as a client reads it. -/
structure Envelope (α : Type) where
  success : Bool
  data : Option α
  error : Option ErrorBody

namespace Envelope

def reader (data : Json.Reader α) : Json.Reader (Envelope α) :=
  Json.Reader.record ["success", "data", "error"] false fun f => do
    let success ← f.required "success" Json.Reader.bool
    let data ← f.optional "data" data
    let error ← f.optional "error" ErrorBody.reader
    .ok ⟨success, data, error⟩

/-- The data of a success, or the failure that was reported. Data that is null or left out is read
again from null, because some types have a value there. -/
def result (data : Json.Reader α) (e : Envelope α) : Except Failure α :=
  match e with
  | ⟨true, some a, _⟩ => .ok a
  | ⟨true, none, _⟩ =>
      match Json.nullAs data with
      | .ok a => .ok a
      | .error fault =>
          .error (Failure.wrap (.foreign { text := fault.message, stable := false }) .internal
            "success envelope without data")
  | ⟨false, _, some body⟩ =>
      let f := Failure.new ((Code.ofName? body.code).getD .internal) body.message
      .error (match body.requestId with
        | some id => f.withField "request_id" (.text id)
        | none => f)
  | ⟨false, _, none⟩ => .error (.internal "error envelope without details")

end Envelope

namespace Request

/-- The body as a value of some type. -/
def jsonBody (r : Json.Reader α) (request : Request) : Except Failure α :=
  if request.body.isEmpty then .error (.invalidArgument "request body is empty")
  else
    match Json.read r request.body with
    | .ok a => .ok a
    | .error fault => .error (Failure.ofFault fault)

end Request

end HttpService

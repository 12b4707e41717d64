import HttpService.Scenario.Fields
import HttpService.Scenario.Redaction
import HttpService.Message.Response
import HttpService.Site
import HttpService.Token.Claims
import HttpService.Encoding.Base64Url

/-!
# Views

How values are shown in reports.
-/

namespace HttpService.Scenario

def codeOf (j : Json) : Code :=
  (Code.ofName? (asText j)).getD .internal

/-- The text of a cause. -/
def viewDisplay (s : String) : String :=
  match Code.all.find? fun c => Text.startsWith s (c.name ++ ": " ++ faultLead) with
  | some c => c.name ++ ": " ++ faultLead ++ "*"
  | none => s

def viewCause : Option Cause → Json
  | none => .null
  | some (.foreign e) => if e.stable then .text (viewDisplay e.text) else .text "*"
  | some c => .text (viewDisplay c.display)

def viewDomain (d : Option Domain) : Json :=
  Json.ofOption (fun d => .text d.name) d

def viewFailure (f : Failure) : Json :=
  object
    [("error", .text f.code.name), ("message", .text (redactMessage f.message)),
     ("metadata", .ofTable f.metadata), ("domain", viewDomain f.domain),
     ("cause", viewCause f.cause)]

def viewOk (j : Json) : Json :=
  object [("ok", j)]

/-- A result: the value under `ok`, or the failure. -/
def viewResult (f : α → Json) : Except Failure α → Json
  | .ok a => viewOk (f a)
  | .error e => viewFailure e

def viewDone (r : Except Failure Unit) : Json :=
  viewResult (fun _ => .null) r

def undecodable : Json :=
  object [("error", .text "decode")]

/-- What is reported of a run that panicked. -/
def panicked : Json :=
  object [("error", .text "panic")]

def viewHeaders (h : Headers) : Json :=
  .array (h.sorted.map fun (n, v) => .array [.text n, .text v])

def responseMembers (r : Response) : List (String × Json) :=
  [("status", Json.ofNat r.status), ("headers", viewHeaders r.headers),
   ("body", .text (redactBody r.body))]

def viewResponse (r : Response) : Json :=
  object (responseMembers r)

def viewParams (params : Table String) : Json :=
  .object (params.map fun (k, v) => (k, .text v))

/-- The sixteen digits of a number's bits. -/
def viewFloat (x : Float) : Json :=
  if x.isNaN then .text "nan" else .text (String.ofList (Uuid.hexDigits 16 x.toBits.toNat))

/-- A number given by the digits of its bits. -/
def asBits (j : Json) : Float :=
  Float.ofBits (UInt64.ofNat ((asText j).toList.foldl
    (fun acc c => acc * 16 + (Uuid.hexValue? c).getD 0) 0))

def viewMeters (m : Meters) : Json :=
  .array (m.values.map fun (k, v) => .array [.text k, viewFloat v])

/-- Fields of an event that are not reported. -/
def silentFields : List String :=
  ["duration_ms", "backtrace", "error", "user_id"]

def viewEvent (e : Event) : Json :=
  let fields := e.fields.filter fun f => !silentFields.contains f.1
  .array [.text e.level.name,
    object (("message", .text e.message) :: fields.map fun (k, v) => (k, .text v))]

/-- What the stages have reported. -/
def viewEvents (events : List Event) : Json :=
  .array ((events.filter (·.reporter == .stage)).map viewEvent)

/-- The text of claims, stars for their times. -/
def viewClaims (c : Claims) : String :=
  let star (members : List (String × Json)) : List (String × Json) :=
    members.map fun (k, v) => if k == "iat" || k == "exp" then (k, .text "*") else (k, v)
  match c.toJson with
  | .object members =>
      (((Json.object (star members)).render.replace "\"iat\":\"*\"" "\"iat\":*").replace
        "\"exp\":\"*\"" "\"exp\":*")
  | j => j.render

/-- What is told of a token that was issued. -/
def tokenMembers (token : String) : List (String × Json) :=
  let segments := Text.split '.' token
  let bytes (i : Nat) : List UInt8 := (Encoding.Base64Url.decode? (segments.getD i "")).getD []
  match Json.read Claims.reader (Text.lossyUtf8 (bytes 1)) with
  | .error _ => [("segments", Json.ofNat segments.length)]
  | .ok c =>
      [("segments", Json.ofNat segments.length), ("header", .text (Text.lossyUtf8 (bytes 0))),
       ("claims", .text (viewClaims c)),
       ("ttl", Json.ofInt (c.expiresAt.seconds - c.issuedAt.seconds)),
       ("signature_bytes", Json.ofNat (bytes 2).length)]

end HttpService.Scenario

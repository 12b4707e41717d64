import HttpService.Stage.Basic

/-!
# Cross-origin requests

Responses say which origins may read them. A listed origin is named; otherwise a listed asterisk
stands for any. A preflight request is answered here.
-/

namespace HttpService

structure CorsPolicy where
  origins : List String := ["*"]
  methods : List Method := [.get, .post, .put, .patch, .delete, .options]
  headers : List String := ["Content-Type", "Authorization", "X-Request-ID"]
  maxAge : Span := Span.ofSeconds 86400
  deriving DecidableEq, Repr

namespace CorsPolicy

/-- Items between commas, or nothing if that is no header value. -/
def headerList (items : List String) : String :=
  let joined := ", ".intercalate items
  if Headers.legalValue joined then joined else ""

def methodsValue (p : CorsPolicy) : String :=
  headerList (p.methods.map Method.name)

/-- Names that are no header values are left out. -/
def headersValue (p : CorsPolicy) : String :=
  headerList (p.headers.filter Headers.legalValue)

def maxAgeValue (p : CorsPolicy) : String :=
  toString p.maxAge.seconds

def isListed (p : CorsPolicy) (origin : String) : Bool :=
  origin != "*" && p.origins.contains origin

/-- The origin that a response names, and whether it is the request's own. -/
def allowedOrigin? (p : CorsPolicy) (origin : Option String) : Option (String × Bool) :=
  match origin with
  | some o =>
      if Headers.readable o && p.isListed o then some (o, true)
      else if p.origins.contains "*" then some ("*", false) else none
  | none => if p.origins.contains "*" then some ("*", false) else none

def apply (p : CorsPolicy) (origin : Option String) (h : Headers) : Headers :=
  let named := match p.allowedOrigin? origin with
    | some (o, true) => (h.insert "access-control-allow-origin" o).append "vary" "Origin"
    | some (o, false) => h.insert "access-control-allow-origin" o
    | none => h
  ((named.insert "access-control-allow-methods" p.methodsValue).insert
    "access-control-allow-headers" p.headersValue).insert "access-control-max-age" p.maxAgeValue

end CorsPolicy

namespace Stage

def cors (p : CorsPolicy) : Stage where
  name := "cors"
  process request next := do
    let origin := request.headers.get? "origin"
    let response ← if request.method = .options then Act.pure ⟨200, [], ""⟩ else next.run request
    Act.pure { response with headers := p.apply origin response.headers }

end Stage

end HttpService

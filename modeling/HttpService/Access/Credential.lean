import HttpService.Encoding.Form
import HttpService.Message.Request
import HttpService.Text.Blank

/-!
# Credentials of a request

A token travels in the authorization header, in a cookie, or in the query, and is looked for in that
order. A carrier without a token is passed over.
-/

namespace HttpService.Credential

def nonEmpty (s : String) : Option String :=
  if s.isEmpty then none else some s

def lowerAscii (s : String) : String :=
  String.ofList (s.toList.map Char.toLower)

/-- The credential after the scheme `bearer`, in any case. -/
def ofAuthorization? (h : Headers) : Option String := do
  let value ← h.text? "authorization"
  let (scheme, token) := Text.cut ' ' (Text.trim value)
  let token ← token
  if lowerAscii scheme == "bearer" then nonEmpty (Text.trim token) else none

/-- The name and the value of a cookie, blanks around the pair apart. -/
def cookiePair? (part : String) : Option (String × String) :=
  match Text.cut '=' (Text.trim part) with
  | (name, some value) => some (name, value)
  | (_, none) => none

def cookies (h : Headers) : List (String × String) :=
  ((h.getAll "cookie").filter Headers.readable).flatMap fun value =>
    (Text.split ';' value).filterMap cookiePair?

def unquote (s : String) : String :=
  String.ofList (Text.trimMatches (· == '"') (Text.trim s).toList)

/-- The first cookie named `auth_token`. -/
def ofCookie? (h : Headers) : Option String :=
  match (cookies h).find? fun c => Text.trim c.1 == "auth_token" with
  | some (_, value) => nonEmpty (unquote value)
  | none => none

/-- The first query parameter named `token`. -/
def ofQuery? (t : Target) : Option String := do
  let query ← t.query
  let (_, value) ← (Encoding.Form.pairs query).find? fun p => p.1 == "token"
  nonEmpty value

def ofRequest? (r : Request) : Option String :=
  (ofAuthorization? r.headers).or ((ofCookie? r.headers).or (ofQuery? r.target))

end HttpService.Credential

import HttpService.Access.Credential
import HttpService.Identity.Manager
import HttpService.Handler
import HttpService.Token.Maker

/-!
# Signing in

Users exchange their credentials for a token, exchange a token for a fresh one, and give it back. An
exchanged or returned token is refused from then on.
-/

namespace HttpService

structure LoginForm where
  username : String
  password : String
  deriving DecidableEq, Repr

namespace LoginForm

def reader : Json.Reader LoginForm :=
  Json.Reader.record ["username", "password"] false fun f => do
    let username ← f.required "username" Json.Reader.string
    let password ← f.required "password" Json.Reader.string
    .ok ⟨username, password⟩

def toJson (l : LoginForm) : Json :=
  .object [("username", .text l.username), ("password", .text l.password)]

/-- What diagnostics show: never the password. -/
def describe (l : LoginForm) : String :=
  "Credentials \x7b username: " ++ Text.quoted l.username ++ ", password: \"<redacted>\" \x7d"

end LoginForm

/-- What a user who has signed in is told. -/
structure Grant where
  token : String
  expiresAt : Instant
  user : User

def Grant.toJson (g : Grant) : Json :=
  .object
    [("token", .text g.token), ("token_type", .text "Bearer"),
     ("expires_at", .text g.expiresAt.toString), ("user", g.user.toJson)]

structure SignIn where
  maker : TokenMaker
  users : UserManager
  /-- How long tokens last, in nanoseconds. -/
  lifetime : Int := 3600 * Instant.nanosPerSecond

namespace SignIn

/-- What diagnostics show of the service and of the tokens that are refused. -/
def describe (s : SignIn) (revoked : RevocationList) : String :=
  "AuthService \x7b tokens: " ++ s.maker.describe revoked ++ ", token_ttl: TimeDelta \x7b secs: " ++
    toString (s.lifetime / Instant.nanosPerSecond) ++ ", nanos: " ++
    toString (s.lifetime % Instant.nanosPerSecond) ++ " \x7d, .. \x7d"

def missingToken : Failure :=
  .unauthenticated "missing authentication token"

/-- Verifies a token at the site's time. -/
def verify (maker : TokenMaker) (token : String) : Act Site (Except Failure Claims) :=
  Act.update fun s => (maker.verifyAt s.revoked token s.today, s)

/-- Refuses the token of these claims from now on. -/
def revoke (c : Claims) : Act Site Unit :=
  Act.modify fun s => { s with revoked := s.revoked.revoke c.id c.expiresAt }

/-- The claims of the token that a request presents. -/
def presented (s : SignIn) (request : Request) : Act Site (Except Failure Claims) :=
  match Credential.ofRequest? request with
  | some token => verify s.maker token
  | none => Act.pure (.error missingToken)

/-- The user that claims are about, if there still is one. -/
def resolve (s : SignIn) (c : Claims) : Act Site (Except Failure User) := do
  match ← s.users.get c.subject with
  | .ok user => Act.pure (.ok user)
  | .error f =>
      if f.code = .notFound then Act.pure (.error (.unauthenticated "user no longer exists"))
      else Act.pure (.error f)

/-- Issues a token. The calendar must reach its expiry. -/
def issue (s : SignIn) (user : User) : Act Site Grant := do
  let id := Uuid.ofSeed (← Site.random)
  match s.maker.create? id user.username user.id s.lifetime (← Site.calendar) with
  | some (token, claims) => Act.pure ⟨token, claims.expiresAt, user⟩
  | none => Act.panic (.text "time overflows the calendar")

def grant (s : SignIn) (user : User) : Act Site (Except Failure Response) := do
  let g ← s.issue user
  Act.pure (.ok (Response.ok g.toJson))

/-- The form in a request's body. -/
def form (request : Request) : Act Site (Except Failure LoginForm) :=
  Act.pure (Request.jsonBody LoginForm.reader request)

def login (s : SignIn) : Handler :=
  fun _ request =>
    Act.attempt (form request) fun f =>
      Act.attempt (s.users.authenticate f.username f.password) s.grant

/-- Registers a user, who is never more than an ordinary one. -/
def register (s : SignIn) : Handler :=
  fun _ request =>
    Act.attempt (form request) fun f =>
      Act.attempt (s.users.create f.username f.password (RoleSet.ofList [.user])) fun user =>
        Act.pure (.ok (Response.created user.toJson))

/-- Revokes a token and issues a fresh one, with nothing in between. -/
def renew (s : SignIn) (c : Claims) (user : User) : Act Site (Except Failure Response) := do
  revoke c
  s.grant user

def refresh (s : SignIn) : Handler :=
  fun _ request =>
    Act.attempt (s.presented request) fun c =>
      Act.attempt (s.resolve c) fun user => s.renew c user

def logout (s : SignIn) : Handler :=
  fun _ request =>
    Act.attempt (s.presented request) fun c => do
      revoke c
      Act.pure (.ok (Response.ok (.object [("logged_out", .bool true)])))

/-- The user of the context. -/
def me : Handler :=
  fun c _ =>
    match c.user with
    | some user => Act.pure (.ok (Response.ok user.toJson))
    | none => Act.pure (.error missingToken)

end SignIn

end HttpService

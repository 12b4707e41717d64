import HttpService.Access.Permission
import HttpService.Identity.SignIn
import HttpService.Stage.Basic

/-!
# Authentication

Behind this stage the context has a user whose token has been verified and whom the rules allow what
the request asks for. Paths under a public one need no token.
-/

namespace HttpService

structure Gatekeeper where
  maker : TokenMaker
  /-- Who knows the users; without a manager the claims are believed. -/
  users : Option UserManager := none
  permissions : Permissions := .standard
  publicPaths : List String :=
    ["/health", "/metrics", "/api/v1/auth/login", "/api/v1/auth/register", "/status"]

namespace Gatekeeper

def isPublic (g : Gatekeeper) (path : String) : Bool :=
  g.publicPaths.any fun start => Text.startsWith path start

/-- What the client is told about a token that was refused. -/
def refusal (f : Failure) : Failure :=
  if f.code = .expiredToken then .new .expiredToken "token has expired"
  else (Failure.new .invalidToken "invalid token").withCause (.failure f)

/-- The claims of a request's token. -/
def identify (g : Gatekeeper) (request : Request) : Act Site (Except Failure Claims) :=
  match Credential.ofRequest? request with
  | none => Act.pure (.error SignIn.missingToken)
  | some token => do
      match ← SignIn.verify g.maker token with
      | .ok c => Act.pure (.ok c)
      | .error f => Act.pure (.error (refusal f))

/-- The user that claims are about. -/
def resolve (g : Gatekeeper) (c : Claims) : Act Site (Except Failure User) :=
  match g.users with
  | none => Act.pure (.ok ((User.new c.subject c.username).withRole .user))
  | some users => do
      match ← users.get c.subject with
      | .ok user => Act.pure (.ok user)
      | .error f =>
          if f.code = .notFound then Act.pure (.error (.new .invalidToken "invalid token"))
          else Act.pure (.error f)

def forbidden (request : Request) : Failure :=
  ((Failure.permissionDenied "permission denied").withField "resource"
    (.text request.path)).withField "method" (.text request.method.name)

/-- The user of a request, if the request is allowed. -/
def authenticate (g : Gatekeeper) (request : Request) : Act Site (Except Failure User) :=
  Act.attempt (g.identify request) fun c =>
    Act.attempt (g.resolve c) fun user =>
      if g.permissions.checkMethod user request.path request.method then Act.pure (.ok user)
      else Act.pure (.error (forbidden request))

/-- What diagnostics show of a gatekeeper and of the tokens that are refused. -/
def describe (g : Gatekeeper) (revoked : RevocationList) : String :=
  "AuthMiddleware \x7b tokens: " ++ g.maker.describe revoked ++ ", users: " ++
    toString g.users.isSome ++ ", permissions: " ++ g.permissions.describe ++
    ", public_prefixes: " ++ Text.listed (g.publicPaths.map Text.quoted) ++ " \x7d"

end Gatekeeper

def Stage.authentication (g : Gatekeeper) : Stage where
  name := "auth"
  process request next := do
    if g.isPublic request.path then next.run request
    else
      match ← Flow.onSite (g.authenticate request) with
      | .ok user =>
          let c ← Flow.current
          Flow.report .debug "request authenticated"
            [("request_id", Flow.shownId c), ("user_id", user.id)]
          Flow.setContext (c.setUser user)
          next.run request
      | .error f =>
          let c ← Flow.current
          Flow.report .warn "request rejected"
            [("request_id", Flow.shownId c), ("path", request.path), ("code", f.code.name)]
          Act.pure (.ofFailure f c.requestId)

end HttpService

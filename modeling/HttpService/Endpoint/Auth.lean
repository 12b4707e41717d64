import HttpService.Identity.SignIn
import HttpService.Route.Router

/-!
# Signing in over HTTP
-/

namespace HttpService.Endpoint

def addAuth (r : Router) (s : SignIn) : Router × Except Failure Unit :=
  r.install "/api/v1/auth"
    [(.post, "/login", s.login), (.post, "/register", s.register), (.post, "/refresh", s.refresh),
     (.post, "/logout", s.logout), (.get, "/me", SignIn.me)]

end HttpService.Endpoint

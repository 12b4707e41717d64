import HttpService.Scenario.Servers

/-!
# Diagnostics of a scenario

What diagnostics show of single values.
-/

namespace HttpService.Scenario

/-- A maker with the secret that scenarios use if none is given. -/
def plainMaker : TokenMaker :=
  { secret := Text.utf8 defaultSecret }

/-- A stage without anything of its own to show. -/
def plainStage (name : String) : String :=
  name ++ " \x7b _private: () \x7d"

/-- A stage that does not show what it has. -/
def closedStage (name : String) : String :=
  name ++ " \x7b .. \x7d"

def recordedMetric (j : Json) : HttpMetric :=
  ⟨asText (item j 0), asText (item j 1), asNat (item j 2), asBits (item j 3), today⟩

def viewCounts (j : Json) : Json :=
  let c := ((asList (field j "metrics")).map recordedMetric).foldl Collector.recordHttp
    Collector.new
  .array [Json.ofNat c.summary.requests, Json.ofNat c.summary.serverErrors,
    Json.ofNat c.summary.clientErrors]

def viewTimeout (limit : Span) : Json :=
  .array [ofSpan limit, .text ("TimeoutMiddleware \x7b duration: " ++ limit.describe ++ " \x7d")]

def viewFreshContext : Json :=
  object
    [("request_id", .null), ("cancelled", .bool false), ("deadline", .null),
     ("started_before_now", .bool true), ("young", .bool true)]

def viewShown (describe : α → String) : Except Failure α → Json
  | .ok a => .text (describe a)
  | .error f => viewFailure f

/-- What diagnostics show of the value that a description names. -/
def diagnostics (j : Json) : Json :=
  let cast : Cast :=
    { maker := plainMaker, users := .directory, transactions := .inMemory [],
      cluster := .fixed none none, lifetime := none }
  match asText (field j "what") with
  | "credentials" =>
      .text (LoginForm.describe ⟨asText (field j "username"), asText (field j "password")⟩)
  | "token_maker" => .text (plainMaker.describe {})
  | "auth_service" => .text (SignIn.describe { maker := plainMaker, users := .directory } {})
  | "auth_middleware" => .text ((gatekeeperOf cast j).describe {})
  | "metrics_middleware" => .text (closedStage "MetricsMiddleware")
  | "transaction" => .text (closedStage "TransactionMiddleware")
  | "recovery" => .text (plainStage "RecoveryMiddleware")
  | "request_id" => .text (plainStage "RequestIdMiddleware")
  | "router" => .text (Router.describe {})
  | "server" => .text (Server.describe { config := {} })
  | "rate_limit" => .text (RateLimit.describe {} false)
  | "role" => viewShown Role.describe (Role.parse (asText (field j "role")))
  | "action" => viewShown Action.describe (Action.parse (asText (field j "action")))
  | "context_default" => viewFreshContext
  | "auth_service_parts" =>
      .array [Json.ofText? (asText? (field j "issuer")), .bool true]
  | "metrics_collector" => viewCounts j
  | "timeout" => viewTimeout (asSpan (field j "duration"))
  | "rate_limit_new" =>
      viewRate { limit := asNat (field j "limit"), window := asSpan (field j "window") }
  | _ => viewServerConfig {}

end HttpService.Scenario

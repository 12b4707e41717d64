import HttpService.Scenario.Handlers
import HttpService.Stage.AccessLog
import HttpService.Stage.Authentication
import HttpService.Stage.Cors
import HttpService.Stage.Metrics
import HttpService.Stage.RateLimit
import HttpService.Stage.Recovery
import HttpService.Stage.RequestId
import HttpService.Stage.Timeout
import HttpService.Stage.Transaction
import HttpService.Cluster.Manager
import HttpService.Files.Store

/-!
# Described stages

The stages that a description names, and three that leave a trace.
-/

namespace HttpService.Scenario

/-- Whom the service of a scenario works with. -/
structure Cast where
  maker : TokenMaker
  users : UserManager
  transactions : TransactionManager
  cluster : ClusterManager
  /-- How long the tokens of the sign-in last, in nanoseconds. -/
  lifetime : Option Int

def Cast.signIn (c : Cast) : SignIn :=
  match c.lifetime with
  | some t => { maker := c.maker, users := c.users, lifetime := t }
  | none => { maker := c.maker, users := c.users }

def note (line : String) : Act Flow Unit :=
  Flow.onSite (Site.note line)

/-- Leaves a line on the way in and one on the way out. -/
def tag (label : String) : Stage where
  name := "tag"
  process request next := do
    note (label ++ ":pre")
    let response ← next.run request
    note (label ++ ":post")
    Act.pure (if Headers.legalValue label then
        { response with headers := response.headers.append "x-tag" label }
      else response)

def describeStage (name : String) : String :=
  "FnMiddleware \x7b name: " ++ Text.quoted name ++ " \x7d"

/-- Notes what comes next. -/
def peek : Stage where
  name := "peek"
  process request next := do
    note next.describe
    next.run request

/-- Lets nothing through. -/
def gate (status : Nat) : Stage where
  name := "gate"
  process _ _ := Act.pure (Response.text status "gate")

def ruleOf (j : Json) : PermissionRule :=
  ⟨(Role.ofName? (asText (field j "role"))).getD .guest, asText (field j "pattern"),
    (texts (field j "actions")).filterMap Action.ofName?, asBool (field j "allow")⟩

def permissionsOf (j : Json) : Permissions :=
  match j with
  | .text _ => .standard
  | .array rules => ⟨rules.map ruleOf⟩
  | _ => {}

def gatekeeperOf (cast : Cast) (j : Json) : Gatekeeper :=
  let base : Gatekeeper := { maker := cast.maker }
  { base with
    users := if asBool (field j "users") then some cast.users else none
    permissions := if has j "rules" then permissionsOf (field j "rules") else base.permissions
    publicPaths := if has j "public" then texts (field j "public") else base.publicPaths }

def corsOf (j : Json) : CorsPolicy :=
  let base : CorsPolicy := {}
  let origins := if has j "origins" then texts (field j "origins") else base.origins
  { origins := origins ++ texts (field j "add_origins")
    methods := if has j "methods" then (texts (field j "methods")).map Method.ofName
      else base.methods
    headers := if has j "headers" then texts (field j "headers") else base.headers
    maxAge := if has j "max_age" then asSpan (field j "max_age") else base.maxAge }

def rateOf (j : Json) : RateLimit where
  limit := asNat (field j "limit")
  window := Span.ofMillis (asNat (field j "window_ms"))
  sweepInterval := (asNat? (field j "sweep_ms")).map Span.ofMillis

/-- The stage of a description, and what its making does to the site. -/
def stageOf (cast : Cast) (s : Site) (j : Json) : Site × Stage :=
  let (name, a) := step j
  match name with
  | "request_id" => (s, Stage.requestId)
  | "logging" => (s, Stage.accessLog)
  | "recovery" => (s, Stage.recovery)
  | "cors" => (s, Stage.cors (corsOf a))
  | "timeout" => (s, Stage.timeout (Span.ofMillis (asNat a)))
  | "rate_limit" =>
      let rate := rateOf a
      let (s, i) := s.addLimiter rate
      (s, Stage.rateLimit i rate)
  | "metrics" => (s, Stage.metrics)
  | "auth" => (s, Stage.authentication (gatekeeperOf cast a))
  | "transaction" => (s, Stage.transaction cast.transactions)
  | "tag" => (s, tag (asText a))
  | "peek" => ({ s with trace := s.trace ++ [describeStage "peek"] }, peek)
  | _ => (s, gate (asNat a))

end HttpService.Scenario

import HttpService.Endpoint.Auth
import HttpService.Endpoint.Cluster
import HttpService.Endpoint.Files
import HttpService.Endpoint.Health
import HttpService.Endpoint.Metrics
import HttpService.Scenario.Stages

/-!
# Setting a scenario up

Reads a description of collaborators, routes and stages into a site and a router, and reports how
each registration went.
-/

namespace HttpService.Scenario

def algorithmOf (j : Json) : Algorithm :=
  (Algorithm.ofName? (asText j)).getD .hs256

def defaultSecret : String := "0123456789abcdef0123456789abcdef"

def makerOf (j : Json) (secret : String) : Except Failure TokenMaker := do
  let m ← TokenMaker.new (Text.utf8 secret)
  let m := m.withAlgorithm (algorithmOf (field j "alg"))
  .ok (if has j "issuer" then m.withIssuer (asText (field j "issuer")) else m)

def rolesOf (j : Json) : List Role :=
  (texts j).filterMap Role.ofName?

/-- A time of the calendar for all that a scenario does. -/
def today : Instant :=
  ⟨1790000000123456789⟩

/-- Where a scenario's random numbers begin. -/
def firstSeed : Nat :=
  0x5eed0b1e5eed4a00b1e55ed5eed

def emptySite : Site :=
  { today := today, seed := firstSeed, steady := Nat.pow 10 15 }

/-- Adds a user straight to the directory. -/
def addUser (s : Site) (j : Json) : Site × Except Failure User :=
  match UserManager.register (textAt j 0) (textAt j 1) (RoleSet.ofList (rolesOf (item j 2))) s with
  | (.done r, s) => (s, r)
  | (_, s) => (s, .error (.internal ""))

def addUsers (s : Site) : List Json → Except Failure Site
  | [] => .ok s
  | j :: rest =>
      match addUser s j with
      | (s, .ok _) => addUsers s rest
      | (_, .error f) => .error f

def castOf (j : Json) (maker : TokenMaker) : Cast where
  maker := maker
  users := if asText (field j "user_manager") == "broken" then .offline else .directory
  transactions := .inMemory (texts (field j "tx_fail"))
  cluster :=
    let c := field j "cluster"
    .fixed
      (if has c "nodes" then
        some ((asList (field c "nodes")).filterMap (asRecord? NodeInfo.reader))
      else none)
      (asText? (field c "leader"))
  lifetime :=
    if has j "token_ttl" then some (asInt (field j "token_ttl") * Instant.nanosPerSecond) else none

/-- The collaborators of a description, and the site they work on. -/
def collaborators (j : Json) : Except Failure (Cast × Site) := do
  let maker ← makerOf j ((asText? (field j "secret")).getD defaultSecret)
  let s ← addUsers emptySite (asList (field j "users"))
  let files := Namespace.ofList ((asList (field j "namespace")).filterMap
    (asRecord? FileInfo.reader))
  let collector := if has j "sample" then
      let x (i : Nat) : Float := asFloat (item (field j "sample") i)
      s.collector.recordSystem ⟨x 0, x 1, x 2, today⟩
    else s.collector
  .ok (castOf j maker, { s with files := files, collector := collector })

structure Setup where
  site : Site
  router : Router := {}
  /-- How the registrations went, the last one first. -/
  entries : List Json := []

namespace Setup

def enter (s : Setup) (j : Json) : Setup :=
  { s with entries := j :: s.entries }

/-- Keeps a router and notes how its change went. -/
def keep (s : Setup) (changed : Router × Except Failure Unit) : Setup :=
  { s with router := changed.1 }.enter (viewDone changed.2)

def builtin (cast : Cast) (s : Setup) (name : String) : Setup :=
  match name with
  | "health" => s.keep (Endpoint.addHealth s.router s.site.steady)
  | "metrics" => s.keep (Endpoint.addMetrics s.router)
  | "auth" => s.keep (Endpoint.addAuth s.router cast.signIn)
  | "files" => s.keep (Endpoint.addFiles s.router FileStore.local)
  | _ => s.keep (Endpoint.addCluster s.router cast.cluster)

/-- One item, in a group or not; the first argument bounds how many groups are nested. -/
def add (cast : Cast) : Nat → Option Nat → Setup → Json → Setup
  | 0, _, s, _ => s
  | depth + 1, group, s, j =>
      let (name, a) := step j
      match name with
      | "route" =>
          s.keep (s.router.handleAll group
            [(Method.ofName (textAt a 0), textAt a 1, handler (item a 2))])
      | "use" =>
          let (site, stage) := stageOf cast s.site a
          { s with site := site, router := s.router.use group stage }
      | "group" =>
          let (router, i) := s.router.openGroup group (textAt a 0)
          let entry := object [("group", .text (router.base (some i))),
            ("debug", .text (router.describeGroup i))]
          (asList (item a 1)).foldl (fun s j => add cast depth (some i) s j)
            ({ s with router := router }.enter entry)
      | "not_found" => { s with router := s.router.setNotFound (handler a) }
      | _ => builtin cast s (asText a)

def addAll (cast : Cast) (s : Setup) (items : Json) : Setup :=
  (asList items).foldl (add cast (items.depth + 1) none) s

def report (s : Setup) : Json :=
  .array s.entries.reverse

end Setup

/-- Stages in a row, and what their making does to the site. -/
def chainOf (cast : Cast) (s : Site) (j : Json) : Site × Chain :=
  (asList j).foldl (fun (s, c) j =>
    let (s, stage) := stageOf cast s j
    (s, c.push stage)) (s, {})

end HttpService.Scenario

import HttpService.Route.Pattern
import HttpService.Stage.Basic

/-!
# Routers

A router sends each request to the first route that was registered for its method and a pattern that
its path matches. Routes may be registered in groups, which lie below a path, can be nested, and
have stages of their own. A request passes the router's stages first, then those of the groups from
the outermost in.
-/

namespace HttpService

structure Route where
  method : Method
  pattern : Pattern
  /-- The group it was registered in, by number. -/
  group : Option Nat
  handler : Handler

/-- What the placeholders stand for if a request is one for the route. -/
def Route.captures? (route : Route) (method : Method) (path : String) : Option (Table String) :=
  if route.method = method then route.pattern.captures path else none

structure RouteGroup where
  path : String
  /-- The group it lies in; always an older one. -/
  parent : Option Nat
  chain : Chain := {}

/-- A route that a request was sent to, and what its placeholders stand for. -/
structure RouteMatch where
  pattern : String
  params : Table String
  deriving DecidableEq, Repr

def noRoute : Handler :=
  fun _ request => Act.pure (.error
    ((Failure.notFound ("no route for " ++ request.method.name ++ " " ++ request.path)).withField
      "path" (.text request.path)))

structure Router where
  routes : List Route := []
  groups : List RouteGroup := []
  chain : Chain := {}
  notFound : Handler := noRoute

namespace Router

def has (r : Router) (method : Method) (pattern : String) : Bool :=
  r.routes.any fun route => route.method == method && route.pattern.text == pattern

def taken (method : Method) (pattern : String) : Failure :=
  (Failure.alreadyExists
    ("route " ++ method.name ++ " " ++ pattern ++ " is already registered")).withField
      "pattern" (.text pattern)

/-- Registers a route; a router never has two for one method and pattern. -/
def insert (r : Router) (group : Option Nat) (method : Method) (pattern : String)
    (handler : Handler) : Except Failure Router :=
  if r.has method pattern then .error (taken method pattern)
  else do
    let compiled ← Pattern.compile pattern
    .ok { r with routes := r.routes ++ [⟨method, compiled, group, handler⟩] }

/-- The path that a group lies below; without a group it is empty. -/
def base (r : Router) (group : Option Nat) : String :=
  match group.bind (r.groups[·]?) with
  | some g => g.path
  | none => ""

/-- Registers a route in a group, or in the router itself. -/
def handle (r : Router) (group : Option Nat) (method : Method) (pattern : String)
    (handler : Handler) : Except Failure Router :=
  let full := if group.isSome then Pattern.join (r.base group) pattern else pattern
  r.insert group method full handler

/-- Registers routes in a group, in order, up to the first that is refused. -/
def handleAll (r : Router) (group : Option Nat) :
    List (Method × String × Handler) → Router × Except Failure Unit
  | [] => (r, .ok ())
  | (method, pattern, handler) :: rest =>
      match r.handle group method pattern handler with
      | .ok r => handleAll r group rest
      | .error f => (r, .error f)

/-- Opens a group, in another one or in the router itself, and gives its number. -/
def openGroup (r : Router) (parent : Option Nat) (path : String) : Router × Nat :=
  ({ r with groups := r.groups ++ [⟨Pattern.join (r.base parent) path, parent, {}⟩] },
    r.groups.length)

/-- Opens a group in the router itself and registers its routes. -/
def install (r : Router) (path : String) (routes : List (Method × String × Handler)) :
    Router × Except Failure Unit :=
  let (r, group) := r.openGroup none path
  r.handleAll (some group) routes

/-- Adds a stage to a group, or to the router itself. -/
def use (r : Router) (group : Option Nat) (s : Stage) : Router :=
  match group with
  | none => { r with chain := r.chain.push s }
  | some i => { r with groups := r.groups.modify i fun g => { g with chain := g.chain.push s } }

def setNotFound (r : Router) (handler : Handler) : Router :=
  { r with notFound := handler }

/-- The first route for a method and a path. -/
def find (r : Router) (method : Method) (path : String) : Option (Route × Table String) :=
  r.routes.findSome? fun route =>
    (route.captures? method path).map fun params => (route, params)

def matchRoute (r : Router) (method : Method) (path : String) : Option RouteMatch :=
  (r.find method path).map fun (route, params) => ⟨route.pattern.text, params⟩

/-- A group and those it lies in, the outermost first; the first argument bounds how many. -/
def lineageFrom (groups : List RouteGroup) : Nat → Option Nat → List RouteGroup
  | 0, _ => []
  | _, none => []
  | depth + 1, some i =>
      match groups[i]? with
      | some g => lineageFrom groups depth g.parent ++ [g]
      | none => []

def lineage (r : Router) (group : Option Nat) : List RouteGroup :=
  lineageFrom r.groups r.groups.length group

/-- The stages that a request to a route passes, in order. -/
def stagesTo (r : Router) (group : Option Nat) : List Stage :=
  r.chain.stages ++ (r.lineage group).flatMap fun g => g.chain.stages

/-- Answers a request. -/
def dispatch (r : Router) (request : Request) : Act Flow Response :=
  match r.find request.method request.path with
  | some (route, params) => do
      let c ← Flow.current
      Flow.setContext (params.foldl (fun c (name, value) => c.insertParam name value) c)
      (compose (r.stagesTo route.group) (.endpoint route.handler)).run request
  | none => (compose r.chain.stages (.endpoint r.notFound)).run request

/-- The methods and patterns of the routes in the order of registration. -/
def listing (r : Router) : List (Method × String) :=
  r.routes.map fun route => (route.method, route.pattern.text)

def describe (r : Router) : String :=
  "Router \x7b routes: " ++
    Text.listed (r.listing.map fun (m, p) => Text.quoted (m.name ++ " " ++ p)) ++
    ", middleware: " ++ r.chain.describe ++ ", groups: " ++ toString r.groups.length ++ " \x7d"

def describeGroup (r : Router) (i : Nat) : String :=
  "Group \x7b prefix: " ++ Text.quoted (r.base (some i)) ++ " \x7d"

end Router

end HttpService

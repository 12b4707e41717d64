import HttpService.Identity.User
import HttpService.Message.Request
import HttpService.Text.Quoted

/-!
# Permissions

Rules let a role act on the resources of a pattern, or forbid it. The first rule that applies
decides; without one the answer is no. Privileged users need no rule.
-/

namespace HttpService

inductive Action
  | read
  | create
  | update
  | delete
  deriving DecidableEq, Repr

namespace Action

def all : List Action := [read, create, update, delete]

def name : Action → String
  | read => "read"
  | create => "create"
  | update => "update"
  | delete => "delete"

/-- What diagnostics show. -/
def describe : Action → String
  | read => "Read"
  | create => "Create"
  | update => "Update"
  | delete => "Delete"

def ofMethod? : Method → Option Action
  | .get | .head | .options => some read
  | .post => some create
  | .put | .patch => some update
  | .delete => some delete
  | .trace | .connect | .other _ => none

def ofName? (s : String) : Option Action :=
  all.find? fun a => a.name == s

/-- Reads a name in any case of ASCII letters. -/
def parse (s : String) : Except Failure Action :=
  match ofName? (Role.lowerAscii s) with
  | some a => .ok a
  | none => .error (.invalidArgument ("unknown action: " ++ s))

def toJson (a : Action) : Json :=
  .text a.name

def reader : Json.Reader Action :=
  Json.Reader.choice "action" ofName?

end Action

structure PermissionRule where
  role : Role
  pattern : String
  actions : List Action
  allow : Bool
  deriving DecidableEq, Repr

namespace PermissionRule

/-- The text before `/*` at the end, if it ends so. -/
def base? (pattern : List Char) : Option (List Char) :=
  match pattern.reverse with
  | '*' :: '/' :: rest => some rest.reverse
  | _ => none

/-- Whether a resource is the base or lies below it, or is the pattern itself. -/
def covers (pattern resource : List Char) : Bool :=
  if pattern = ['*'] then true
  else
    match base? pattern with
    | some base => resource = base || (base ++ ['/']).isPrefixOf resource
    | none => resource = pattern

def matchesResource (r : PermissionRule) (resource : String) : Bool :=
  covers r.pattern.toList resource.toList

def applies (r : PermissionRule) (u : User) (resource : String) (a : Action) : Bool :=
  u.hasRole r.role && r.actions.contains a && r.matchesResource resource

def toJson (r : PermissionRule) : Json :=
  .object
    [("role", r.role.toJson), ("pattern", .text r.pattern),
     ("actions", .array (r.actions.map Action.toJson)), ("allow", .bool r.allow)]

def reader : Json.Reader PermissionRule :=
  Json.Reader.record ["role", "pattern", "actions", "allow"] false fun f => do
    let role ← f.required "role" Role.reader
    let pattern ← f.required "pattern" Json.Reader.string
    let actions ← f.required "actions" (Json.Reader.list Action.reader)
    let allow ← f.required "allow" Json.Reader.bool
    .ok ⟨role, pattern, actions, allow⟩

def describe (r : PermissionRule) : String :=
  "PermissionRule \x7b role: " ++ r.role.describe ++ ", pattern: " ++ Text.quoted r.pattern ++
    ", actions: " ++ Text.listed (r.actions.map Action.describe) ++ ", allow: " ++
    toString r.allow ++ " \x7d"

end PermissionRule

/-- Rules in the order in which they are asked. -/
structure Permissions where
  rules : List PermissionRule := []
  deriving DecidableEq, Repr

namespace Permissions

/-- Users work on files, sign in and watch the cluster; guests read files and sign in. -/
def standard : Permissions where
  rules :=
    [⟨.user, "/api/v1/files/*", Action.all, true⟩,
     ⟨.user, "/api/v1/auth/*", [.read, .create], true⟩,
     ⟨.user, "/api/v1/cluster/*", [.read], true⟩,
     ⟨.guest, "/api/v1/files/*", [.read], true⟩,
     ⟨.guest, "/api/v1/auth/*", [.read, .create], true⟩]

def push (p : Permissions) (r : PermissionRule) : Permissions :=
  ⟨p.rules ++ [r]⟩

/-- What the rules alone say. -/
def decide (rules : List PermissionRule) (u : User) (resource : String) (a : Action) : Bool :=
  match rules.find? fun r => r.applies u resource a with
  | some r => r.allow
  | none => false

def check (p : Permissions) (u : User) (resource : String) (a : Action) : Bool :=
  u.isPrivileged || decide p.rules u resource a

/-- A method that is no action is never allowed. -/
def checkMethod (p : Permissions) (u : User) (resource : String) (m : Method) : Bool :=
  match Action.ofMethod? m with
  | some a => p.check u resource a
  | none => false

def toJson (p : Permissions) : Json :=
  .object [("rules", .array (p.rules.map PermissionRule.toJson))]

def reader : Json.Reader Permissions :=
  Json.Reader.record ["rules"] false fun f => do
    .ok ⟨← f.required "rules" (Json.Reader.list PermissionRule.reader)⟩

def describe (p : Permissions) : String :=
  "PermissionChecker \x7b rules: " ++ Text.listed (p.rules.map PermissionRule.describe) ++ " \x7d"

end Permissions

end HttpService

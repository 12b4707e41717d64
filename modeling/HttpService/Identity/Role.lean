import HttpService.Failure.Basic

/-!
# Roles

What a user may be. Administrators and the system itself are privileged.
-/

namespace HttpService

inductive Role
  | admin
  | user
  | guest
  | system
  deriving DecidableEq, Repr, Inhabited

namespace Role

/-- In the order in which roles are listed. -/
def all : List Role :=
  [admin, user, guest, system]

def name : Role → String
  | admin => "admin"
  | user => "user"
  | guest => "guest"
  | system => "system"

/-- What diagnostics show. -/
def describe : Role → String
  | admin => "Admin"
  | user => "User"
  | guest => "Guest"
  | system => "System"

def isPrivileged : Role → Bool
  | admin | system => true
  | user | guest => false

def ofName? (s : String) : Option Role :=
  all.find? fun r => r.name == s

def lowerAscii (s : String) : String :=
  String.ofList (s.toList.map Char.toLower)

/-- Reads a role's name in any case, blanks around it apart. -/
def parse (s : String) : Except Failure Role :=
  let given := lowerAscii (Text.trim s)
  match ofName? given with
  | some r => .ok r
  | none => .error (.invalidArgument ("unknown role '" ++ given ++ "'"))

def toJson (r : Role) : Json :=
  .text r.name

def reader : Json.Reader Role :=
  Json.Reader.choice "role" ofName?

end Role

/-- A set of roles. -/
structure RoleSet where
  admin : Bool := false
  user : Bool := false
  guest : Bool := false
  system : Bool := false
  deriving DecidableEq, Repr, Inhabited

namespace RoleSet

def empty : RoleSet := {}

def contains (s : RoleSet) : Role → Bool
  | .admin => s.admin
  | .user => s.user
  | .guest => s.guest
  | .system => s.system

def insert (s : RoleSet) : Role → RoleSet
  | .admin => { s with admin := true }
  | .user => { s with user := true }
  | .guest => { s with guest := true }
  | .system => { s with system := true }

def ofList (roles : List Role) : RoleSet :=
  roles.foldl insert empty

def toList (s : RoleSet) : List Role :=
  Role.all.filter s.contains

def isPrivileged (s : RoleSet) : Bool :=
  s.toList.any Role.isPrivileged

theorem mem_toList (s : RoleSet) (r : Role) : r ∈ s.toList ↔ s.contains r = true := by
  cases r <;> simp [toList, Role.all]

end RoleSet

end HttpService

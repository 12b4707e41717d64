import HttpService.Identity.Role

/-!
# Users

Who a caller is: an id that never changes, a name, roles, and free details.
-/

namespace HttpService

structure User where
  id : String
  username : String
  roles : RoleSet
  extra : Table Json

namespace User

def new (id username : String) : User :=
  { id := id, username := username, roles := .empty, extra := [] }

def withRole (u : User) (r : Role) : User :=
  { u with roles := u.roles.insert r }

def withExtra (u : User) (key : String) (value : Json) : User :=
  { u with extra := u.extra.insert key value }

def hasRole (u : User) (r : Role) : Bool :=
  u.roles.contains r

def isPrivileged (u : User) : Bool :=
  u.roles.isPrivileged

def toJson (u : User) : Json :=
  .object
    [("user_id", .text u.id), ("username", .text u.username),
     ("roles", .array (u.roles.toList.map Role.toJson)), ("extra", .ofTable u.extra)]

def reader : Json.Reader User :=
  Json.Reader.record ["user_id", "username", "roles", "extra"] false fun f => do
    let id ← f.required "user_id" Json.Reader.string
    let username ← f.required "username" Json.Reader.string
    let roles ← f.defaulted "roles" [] (Json.Reader.list Role.reader)
    let extra ← f.defaulted "extra" [] (Json.Reader.table Json.Reader.value)
    .ok ⟨id, username, RoleSet.ofList roles, extra⟩

end User

end HttpService

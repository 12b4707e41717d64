import HttpService.Site

/-!
# User managers

Whoever knows the users: looks them up, checks passwords, and registers new ones. An answer may take
its time, and may be that the manager cannot be reached.
-/

namespace HttpService

structure UserManager where
  get : String → Act Site (Except Failure User)
  authenticate : String → String → Act Site (Except Failure User)
  create : String → String → RoleSet → Act Site (Except Failure User)

namespace UserManager

/-- Registers a user in the site's directory, with an id and a salt off the random source. -/
def register (username password : String) (roles : RoleSet) : Act Site (Except Failure User) :=
  Act.update fun s =>
    let id := Uuid.ofSeed s.seed
    let salt := (Uuid.ofSeed (s.seed + 1)).bytes
    match s.directory.register id salt username password roles with
    | .ok (user, directory) => (.ok user, { s with directory := directory, seed := s.seed + 2 })
    | .error f => (.error f, s)

/-- The manager of the site's own directory. -/
def directory : UserManager where
  get id := Act.update fun s => (s.directory.get id, s)
  authenticate username password :=
    Act.update fun s => (s.directory.authenticate username password, s)
  create := register

/-- A manager that nobody reaches. -/
def offline : UserManager where
  get _ := Act.pure (.error (.unavailable "user directory offline"))
  authenticate _ _ := Act.pure (.error (.unavailable "user directory offline"))
  create _ _ _ := Act.pure (.error (.unavailable "user directory offline"))

end UserManager

end HttpService

import HttpService.Crypto.Sha2
import HttpService.Identity.User
import HttpService.Text.Utf8
import HttpService.Uuid

/-!
# User directory

Registered users with their salted password digests, found by their ids, and by their names through
the ids. An unknown name and a wrong password are told apart by nobody.
-/

namespace HttpService

structure Account where
  user : User
  salt : List UInt8
  digest : List UInt8

structure Directory where
  /-- The accounts of the users' ids. -/
  accounts : Table Account := []
  /-- The ids of the users' names. -/
  ids : Table String := []

namespace Directory

def empty : Directory := {}

def size (d : Directory) : Nat :=
  d.accounts.length

def minPasswordLength : Nat := 8

def passwordDigest (salt : List UInt8) (password : String) : List UInt8 :=
  Crypto.sha256.hash.authenticate salt (Text.utf8 password)

def byId? (d : Directory) (id : String) : Option Account :=
  d.accounts.find? id

def byName? (d : Directory) (username : String) : Option Account :=
  (d.ids.find? username).bind d.byId?

/-- Why a registration is refused, if it is. -/
def refusal? (d : Directory) (username password : String) : Option Failure :=
  if Text.blank username then some (.invalidArgument "username must not be empty")
  else if (Text.utf8 password).length < minPasswordLength then
    some (.invalidArgument
      ("password must be at least " ++ toString minPasswordLength ++ " characters"))
  else if d.ids.contains username then
    some (.alreadyExists ("user " ++ username ++ " already exists"))
  else none

/-- Enters a user under an id and a name. -/
def enter (d : Directory) (account : Account) : Directory :=
  { accounts := d.accounts.insert account.user.id account
    ids := d.ids.insert account.user.username account.user.id }

/-- Registers a user under a fresh id, with a fresh salt. -/
def register (d : Directory) (id : Uuid) (salt : List UInt8) (username password : String)
    (roles : RoleSet) : Except Failure (User × Directory) :=
  match d.refusal? username password with
  | some f => .error f
  | none =>
      let user := { User.new id.toString username with roles := roles }
      let account : Account := ⟨user, salt, passwordDigest salt password⟩
      .ok (user, d.enter account)

def badCredentials : Failure :=
  .unauthenticated "invalid username or password"

def authenticate (d : Directory) (username password : String) : Except Failure User :=
  match d.byName? username with
  | none => .error badCredentials
  | some a =>
      if passwordDigest a.salt password == a.digest then .ok a.user else .error badCredentials

def get (d : Directory) (id : String) : Except Failure User :=
  match d.byId? id with
  | some a => .ok a.user
  | none => .error (.notFound ("user " ++ id ++ " not found"))

/-- What diagnostics show: how many users there are. -/
def describe (d : Directory) : String :=
  "InMemoryUserStore \x7b users: " ++ toString d.size ++ " \x7d"

end Directory

end HttpService

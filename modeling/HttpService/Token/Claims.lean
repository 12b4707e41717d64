import HttpService.Crypto.Sha2
import HttpService.Json.Reader
import HttpService.Time.Instant
import HttpService.Uuid

/-!
# Token claims

What a token says about its bearer, and the algorithms that sign it. Times in claims are whole
seconds.
-/

namespace HttpService

/-- The algorithms a token may be signed with. -/
inductive Algorithm
  | hs256
  | hs384
  | hs512
  deriving DecidableEq, Repr

namespace Algorithm

def all : List Algorithm := [hs256, hs384, hs512]

def name : Algorithm → String
  | hs256 => "HS256"
  | hs384 => "HS384"
  | hs512 => "HS512"

def ofName? (s : String) : Option Algorithm :=
  all.find? fun a => a.name == s

def hash : Algorithm → Crypto.Hash
  | hs256 => Crypto.sha256.hash
  | hs384 => Crypto.sha384.hash
  | hs512 => Crypto.sha512.hash

/-- The signature of a message under a secret. -/
def sign (a : Algorithm) (secret message : List UInt8) : List UInt8 :=
  a.hash.authenticate secret message

/-- Compares over the full length. -/
def verify (a : Algorithm) (secret message signature : List UInt8) : Bool :=
  signature == a.sign secret message

end Algorithm

/-- The first segment of a token; the type is not looked at. -/
structure TokenHeader where
  algorithm : String
  type : Option String
  deriving DecidableEq, Repr

namespace TokenHeader

def toJson (h : TokenHeader) : Json :=
  .object [("alg", .text h.algorithm), ("typ", Json.ofText? h.type)]

def reader : Json.Reader TokenHeader :=
  Json.Reader.record ["alg", "typ"] false fun f => do
    let algorithm ← f.required "alg" Json.Reader.string
    let type ← f.defaulted "typ" none (Json.Reader.option Json.Reader.string)
    .ok ⟨algorithm, type⟩

end TokenHeader

structure Claims where
  id : Uuid
  username : String
  subject : String
  issuedAt : Instant
  expiresAt : Instant
  issuer : Option String
  deriving DecidableEq, Repr

namespace Claims

/-- A token is expired from its expiry on. -/
def expiredAt (c : Claims) (now : Instant) : Bool :=
  c.expiresAt.le now

def toJson (c : Claims) : Json :=
  .object
    ([("id", .text c.id.toString), ("username", .text c.username), ("sub", .text c.subject),
      ("iat", Json.ofInt c.issuedAt.seconds), ("exp", Json.ofInt c.expiresAt.seconds)] ++
      (c.issuer.map fun i => ("iss", Json.text i)).toList)

def uuidReader : Json.Reader Uuid :=
  Json.Reader.string.filterMap "identifier" Uuid.parse?

def secondsReader : Json.Reader Instant :=
  Json.Reader.int64.filterMap "timestamp" Instant.ofSeconds?

def reader : Json.Reader Claims :=
  Json.Reader.record ["id", "username", "sub", "iat", "exp", "iss"] false fun f => do
    let id ← f.required "id" uuidReader
    let username ← f.required "username" Json.Reader.string
    let subject ← f.required "sub" Json.Reader.string
    let issuedAt ← f.required "iat" secondsReader
    let expiresAt ← f.required "exp" secondsReader
    let issuer ← f.defaulted "iss" none (Json.Reader.option Json.Reader.string)
    .ok ⟨id, username, subject, issuedAt, expiresAt, issuer⟩

end Claims

end HttpService

import HttpService.Failure.Basic
import HttpService.Server.Config

/-!
# Material for secure connections

A server that answers securely has a chain of certificates and the key that belongs to the first of
them, both from files. What the files hold is read by a library, which also says whether the two go
together.
-/

namespace HttpService

/-- The ways in which a private key is written. -/
inductive KeyForm
  | pkcs1
  | sec1
  | pkcs8
  deriving DecidableEq, Repr

/-- A private key as its bytes. -/
structure PrivateKey where
  form : KeyForm
  content : List UInt8
  deriving DecidableEq, Repr

/-- What a server needs for secure connections. -/
structure TlsMaterial where
  chain : List (List UInt8)
  key : PrivateKey
  deriving DecidableEq, Repr

/-- A library for secure connections. What it refuses it refuses for a reason in words of its own. -/
structure TlsLibrary where
  /-- The certificates in a file. -/
  certificates : List UInt8 → Except String (List (List UInt8))
  /-- The first private key in a file, if there is one. -/
  privateKey? : List UInt8 → Except String (Option PrivateKey)
  /-- Whether the versions of the protocol can be had that count as safe. -/
  versions : Except String Unit
  /-- Whether a server can answer with a chain and a key. -/
  accept : List (List UInt8) → PrivateKey → Except String Unit

/-- The bytes of files, or why a file cannot be read. -/
abbrev Files := String → Except String (List UInt8)

namespace TlsMaterial

def refuse (message : String) : Failure :=
  (Failure.invalidArgument message).withDomain .security

/-- A refusal that passes on what the library says. -/
def blame {α : Type} (lead : String) (answer : Except String α) : Except Failure α :=
  answer.mapError fun reason => refuse (lead ++ ": " ++ reason)

def certificates (lib : TlsLibrary) (pem : List UInt8) : Except Failure (List (List UInt8)) := do
  let chain ← blame "malformed certificate PEM" (lib.certificates pem)
  if chain.isEmpty then .error (refuse "no certificates found in PEM") else .ok chain

def privateKey (lib : TlsLibrary) (pem : List UInt8) : Except Failure PrivateKey := do
  match ← blame "malformed key PEM" (lib.privateKey? pem) with
  | some key => .ok key
  | none => .error (refuse "no private key found in PEM")

/-- The material of two files' bytes, the certificates read first. -/
def ofPem (lib : TlsLibrary) (certPem keyPem : List UInt8) : Except Failure TlsMaterial := do
  let chain ← certificates lib certPem
  let key ← privateKey lib keyPem
  blame "unsupported TLS versions" lib.versions
  blame "invalid certificate or key" (lib.accept chain key)
  .ok ⟨chain, key⟩

/-- What is reported of a file that cannot be read. -/
def unreadable (path reason : String) : Failure :=
  ((Failure.invalidArgument ("cannot read " ++ path)).withCause
    (.foreign { text := reason, stable := false })).withDomain .security

def readFile (files : Files) (path : String) : Except Failure (List UInt8) :=
  (files path).mapError (unreadable path)

/-- The material of two files; both are read before either is looked into. -/
def load (lib : TlsLibrary) (files : Files) (names : TlsFiles) : Except Failure TlsMaterial := do
  let certPem ← readFile files names.cert
  let keyPem ← readFile files names.key
  ofPem lib certPem keyPem

end TlsMaterial

end HttpService

import HttpService.Json.Reader

/-!
# Failure codes

The registered kinds of failure. Codes from 1001 are the caller's fault, codes from 2000 the
service's, and codes from 3001 the cluster's.
-/

namespace HttpService

inductive Code
  | invalidArgument
  | notFound
  | alreadyExists
  | permissionDenied
  | unauthenticated
  | rateLimitExceeded
  | resourceExhausted
  | expiredToken
  | invalidToken
  | invalidSigningMethod
  | internal
  | unavailable
  | cancelled
  | deadlineExceeded
  | networkError
  | consistencyFailed
  | replicationFailed
  | partitionError
  deriving DecidableEq, Repr, Inhabited

namespace Code

/-- In the order of their numbers. -/
def all : List Code :=
  [.invalidArgument, .notFound, .alreadyExists, .permissionDenied,
   .unauthenticated, .rateLimitExceeded, .resourceExhausted, .expiredToken,
   .invalidToken, .invalidSigningMethod, .internal, .unavailable,
   .cancelled, .deadlineExceeded, .networkError, .consistencyFailed,
   .replicationFailed, .partitionError]

def number : Code → Nat
  | invalidArgument => 1001
  | notFound => 1002
  | alreadyExists => 1003
  | permissionDenied => 1004
  | unauthenticated => 1005
  | rateLimitExceeded => 1006
  | resourceExhausted => 1007
  | expiredToken => 1008
  | invalidToken => 1009
  | invalidSigningMethod => 1010
  | internal => 2000
  | unavailable => 2001
  | cancelled => 2002
  | deadlineExceeded => 2003
  | networkError => 3001
  | consistencyFailed => 3002
  | replicationFailed => 3003
  | partitionError => 3004

def name : Code → String
  | invalidArgument => "INVALID_ARGUMENT"
  | notFound => "NOT_FOUND"
  | alreadyExists => "ALREADY_EXISTS"
  | permissionDenied => "PERMISSION_DENIED"
  | unauthenticated => "UNAUTHENTICATED"
  | rateLimitExceeded => "RATE_LIMIT_EXCEEDED"
  | resourceExhausted => "RESOURCE_EXHAUSTED"
  | expiredToken => "EXPIRED_TOKEN"
  | invalidToken => "INVALID_TOKEN"
  | invalidSigningMethod => "INVALID_SIGNING_METHOD"
  | internal => "INTERNAL"
  | unavailable => "UNAVAILABLE"
  | cancelled => "CANCELLED"
  | deadlineExceeded => "DEADLINE_EXCEEDED"
  | networkError => "NETWORK_ERROR"
  | consistencyFailed => "CONSISTENCY_FAILED"
  | replicationFailed => "REPLICATION_FAILED"
  | partitionError => "PARTITION_ERROR"

/-- The message of a failure that was given none. -/
def description : Code → String
  | invalidArgument => "invalid argument"
  | notFound => "resource not found"
  | alreadyExists => "resource already exists"
  | permissionDenied => "permission denied"
  | unauthenticated => "authentication required"
  | rateLimitExceeded => "rate limit exceeded"
  | resourceExhausted => "resource exhausted"
  | expiredToken => "token has expired"
  | invalidToken => "invalid token"
  | invalidSigningMethod => "invalid token signing method"
  | internal => "internal server error"
  | unavailable => "service unavailable"
  | cancelled => "operation cancelled"
  | deadlineExceeded => "deadline exceeded"
  | networkError => "network error"
  | consistencyFailed => "consistency check failed"
  | replicationFailed => "replication failed"
  | partitionError => "cluster partitioned"

def ofNumber? (n : Nat) : Option Code :=
  all.find? fun c => c.number == n

def ofName? (s : String) : Option Code :=
  all.find? fun c => c.name == s

/-- The status of a response that reports the failure. -/
def status : Code → Nat
  | notFound => 404
  | permissionDenied => 403
  | invalidArgument => 400
  | alreadyExists => 409
  | unauthenticated | expiredToken | invalidToken | invalidSigningMethod => 401
  | rateLimitExceeded => 429
  | resourceExhausted => 413
  | unavailable => 503
  | _ => 500

/-- The failures of a caller that has not proved who it is. -/
def isAuthentication : Code → Bool
  | unauthenticated | expiredToken | invalidToken | invalidSigningMethod => true
  | _ => false

theorem status_of_isAuthentication {c : Code} (unproven : c.isAuthentication = true) :
    c.status = 401 := by
  cases c with
  | unauthenticated | expiredToken | invalidToken | invalidSigningMethod => rfl
  | _ => cases unproven

/-- The failure that a response status stands for. -/
def ofStatus (status : Nat) : Code :=
  match status with
  | 400 => invalidArgument
  | 401 => unauthenticated
  | 403 => permissionDenied
  | 404 => notFound
  | 409 => alreadyExists
  | 413 => resourceExhausted
  | 429 => rateLimitExceeded
  | 503 => unavailable
  | 504 => deadlineExceeded
  | s => if 400 ≤ s && s < 500 then invalidArgument else internal

def toJson (c : Code) : Json :=
  Json.ofNat c.number

def reader : Json.Reader Code :=
  (Json.Reader.natUpTo 65535).filterMap "failure code" ofNumber?

theorem ofName?_name (c : Code) : ofName? c.name = some c := by
  cases c <;> rfl

end Code

/-- The part of the system that a failure concerns. -/
inductive Domain
  | metadata
  | storage
  | network
  | security
  deriving DecidableEq, Repr

def Domain.name : Domain → String
  | metadata => "metadata"
  | storage => "storage"
  | network => "network"
  | security => "security"

end HttpService

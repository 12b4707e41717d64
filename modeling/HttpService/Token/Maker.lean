import HttpService.Encoding.Base64Url
import HttpService.Failure.Basic
import HttpService.Text.Quoted
import HttpService.Text.Utf8
import HttpService.Token.Claims
import HttpService.Token.Revocation

/-!
# Tokens

A token is three segments in base64 between dots: header, claims, and the signature of the first two
as they are written. Verification checks, in this order, the shape, the header, the algorithm, the
signature, the claims, the expiry, the issuer and the revocation list.
-/

namespace HttpService

structure TokenMaker where
  secret : List UInt8
  algorithm : Algorithm := .hs256
  issuer : Option String := none

namespace TokenMaker

def minSecretLength : Nat := 32

/-- A maker with the default algorithm and no issuer; short secrets are refused. -/
def new (secret : List UInt8) : Except Failure TokenMaker :=
  if secret.length < minSecretLength then
    .error ((Failure.invalidArgument
      ("token secret must be at least " ++ toString minSecretLength ++ " bytes")).withField
        "length" (Json.ofNat secret.length))
  else .ok { secret := secret }

def withAlgorithm (m : TokenMaker) (a : Algorithm) : TokenMaker :=
  { m with algorithm := a }

def withIssuer (m : TokenMaker) (issuer : String) : TokenMaker :=
  { m with issuer := some issuer }

def segment (j : Json) : String :=
  Encoding.Base64Url.encode (Text.utf8 j.render)

def encode (m : TokenMaker) (c : Claims) : String :=
  let signed := segment (TokenHeader.toJson ⟨m.algorithm.name, some "JWT"⟩) ++ "." ++
    segment c.toJson
  signed ++ "." ++ Encoding.Base64Url.encode (m.algorithm.sign m.secret (Text.utf8 signed))

/-- The claims of a token issued now; nothing if the calendar does not reach its expiry. -/
def claimsFor? (m : TokenMaker) (id : Uuid) (username subject : String) (lifetime : Int)
    (now : Instant) : Option Claims := do
  let issuedAt := now.floorSecond
  let expiresAt ← issuedAt.add? lifetime
  some ⟨id, username, subject, issuedAt, expiresAt, m.issuer⟩

/-- Issues a token for a lifetime in nanoseconds. -/
def create? (m : TokenMaker) (id : Uuid) (username subject : String) (lifetime : Int)
    (now : Instant) : Option (String × Claims) := do
  let claims ← m.claimsFor? id username subject lifetime now
  some (m.encode claims, claims)

/-- A replacement character and an escape that no string may hold. -/
def brokenMark : List Char :=
  [Text.replacement, '\\', 'u', 'd', 'c', '8', '0']

/-- The text of a segment's bytes. Broken sequences are marked in a way that only matters where the
text is read: a string that nobody looks at may hold them. -/
def segmentText (bytes : List UInt8) : String :=
  (Text.ofUtf8? bytes).getD (String.ofList (Text.markBroken brokenMark bytes))

def decodeSegment? (r : Json.Reader α) (s : String) : Option α := do
  let bytes ← Encoding.Base64Url.decode? s
  (Json.read r (segmentText bytes)).toOption

def invalid (message : String) : Failure :=
  .new .invalidToken message

/-- The three segments, none of them empty. -/
def segments? (token : String) : Option (String × String × String) :=
  match Text.split '.' token with
  | [h, c, s] => if h.isEmpty || c.isEmpty || s.isEmpty then none else some (h, c, s)
  | _ => none

def require (condition : Bool) (f : Failure) : Except Failure Unit :=
  if condition then .ok () else .error f

def orFail (a : Option α) (f : Failure) : Except Failure α :=
  match a with
  | some a => .ok a
  | none => .error f

/-- The claims of a token that is valid at a given time. -/
def verifyAt (m : TokenMaker) (revoked : RevocationList) (token : String) (now : Instant) :
    Except Failure Claims := do
  let (header, claims, signature) ← orFail (segments? token) (invalid "malformed token")
  let header' ← orFail (decodeSegment? TokenHeader.reader header) (invalid "malformed token header")
  let algorithm ← orFail (Algorithm.ofName? header'.algorithm)
    (.new .invalidSigningMethod ("unexpected signing method: " ++ header'.algorithm))
  let signature ← orFail (Encoding.Base64Url.decode? signature)
    (invalid "malformed token signature")
  require (algorithm.verify m.secret (Text.utf8 (header ++ "." ++ claims)) signature)
    (invalid "token signature mismatch")
  let payload ← orFail (decodeSegment? Claims.reader claims) (invalid "malformed token claims")
  require (!payload.expiredAt now) (.new .expiredToken "token has expired")
  require (m.issuer.isNone || payload.issuer == m.issuer) (invalid "unexpected token issuer")
  require (!revoked.isRevoked payload.id) (invalid "token has been revoked")
  .ok payload

/-- What diagnostics show of a maker: never its secret. -/
def describe (m : TokenMaker) (revoked : RevocationList) : String :=
  "TokenMaker \x7b secret: \"<redacted>\", algorithm: " ++ m.algorithm.name ++ ", issuer: " ++
    Text.quotedOption m.issuer ++ ", revoked: " ++ toString revoked.size ++ " \x7d"

end TokenMaker

end HttpService

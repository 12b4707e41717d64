import HttpService.Scenario.Material.Curve
import HttpService.Scenario.Material.Der
import HttpService.Scenario.Material.Pem
import HttpService.Text.Utf8
import HttpService.Tls.Material

/-!
# Keys of a scenario

The library for secure connections that scenarios are played with. Their keys are those of elliptic
curves, and a key goes with a chain if the first certificate is for its public key.
-/

namespace HttpService.Scenario

/-- A public key as certificates write it. -/
structure PublicKey where
  curve : List UInt8
  point : List UInt8
  deriving DecidableEq, Repr

namespace PublicKey

/-- The number of keys on elliptic curves. -/
def curveAlgorithm : List UInt8 := [42, 134, 72, 206, 61, 2, 1]

/-- The curves that are known, by their numbers. -/
def curves : List (List UInt8 × Curve) :=
  [([42, 134, 72, 206, 61, 3, 1, 7], .p256), ([43, 129, 4, 0, 34], .p384)]

/-- The curve of an algorithm, if it is one of the known ones. -/
def curveOf? (algorithm : DerValue) : Option (List UInt8) := do
  match ← algorithm.parts? DerValue.group with
  | [kind, curve] =>
      if kind.tag == DerValue.objectId && kind.content == curveAlgorithm &&
          curve.tag == DerValue.objectId then some curve.content
      else none
  | _ => none

/-- The key in a certificate's information about its subject. -/
def ofSubject? (v : DerValue) : Option PublicKey := do
  match ← v.parts? DerValue.group with
  | [algorithm, point] => some ⟨← curveOf? algorithm, ← point.bits?⟩
  | _ => none

/-- The bytes of a number, with zeros in front. -/
def bytesOf : Nat → Nat → List UInt8
  | 0, _ => []
  | size + 1, n => bytesOf size (n / 256) ++ [UInt8.ofNat (n % 256)]

/-- A point as four and its two coordinates. -/
def encodePoint (c : Curve) (x y : Nat) : List UInt8 :=
  4 :: bytesOf c.size x ++ bytesOf c.size y

/-- The key that a secret determines. -/
def ofSecret? (curve secret : List UInt8) : Option PublicKey := do
  let (_, c) ← curves.find? fun e => e.1 == curve
  if secret.length != c.size then none
  else
    let (x, y) ← c.publicPoint? (DerValue.ofBytes secret)
    some ⟨curve, encodePoint c x y⟩

/-- The parts of a secret that may follow it: the curve again, and the public point. -/
def ofTail? (curve : List UInt8) (key : PublicKey) : List DerValue → Option PublicKey
  | [] => none
  | [v] =>
      match v.parts? (DerValue.numbered 1) with
      | some [point] => if point.bits? == some key.point then some key else none
      | _ => none
  | v :: rest =>
      match v.parts? (DerValue.numbered 0) with
      | some [named] =>
          if named.tag == DerValue.objectId && named.content == curve then ofTail? curve key rest
          else none
      | _ => none

/-- The public key beside a secret one, which has to belong to it. -/
def ofCurveKey? (curve bytes : List UInt8) : Option PublicKey := do
  match ← DerValue.whole? bytes with
  | version :: secret :: rest =>
      if version == ⟨DerValue.integer, [1]⟩ && secret.tag == DerValue.octetString then
        ofTail? curve (← ofSecret? curve secret.content) rest
      else none
  | _ => none

/-- The key in a wrapping that names its algorithm. -/
def ofWrapped? (bytes : List UInt8) : Option PublicKey := do
  match ← DerValue.whole? bytes with
  | version :: algorithm :: secret :: _ =>
      if version == ⟨DerValue.integer, [0]⟩ && secret.tag == DerValue.octetString then
        ofCurveKey? (← curveOf? algorithm) secret.content
      else none
  | _ => none

def ofPrivateKey? (key : PrivateKey) : Option PublicKey :=
  match key.form with
  | .pkcs8 => ofWrapped? key.content
  | .sec1 => curves.findSome? fun e => ofCurveKey? e.1 key.content
  | .pkcs1 => none

/-- The public key of a certificate of version three. -/
def ofCertificate? (bytes : List UInt8) : Option DerValue := do
  match ← DerValue.whole? bytes with
  | [info, algorithm, signature] =>
      match ← info.parts? DerValue.group with
      | version :: serial :: inner :: issuer :: validity :: subject :: key :: _ =>
          let groups := [algorithm, inner, issuer, validity, subject, key]
          if version == ⟨DerValue.numbered 0, [DerValue.integer, 1, 2].map UInt8.ofNat⟩ &&
              serial.tag == DerValue.integer && groups.all (·.tag == DerValue.group) &&
              inner == algorithm && signature.bits?.isSome then some key
          else none
      | _ => none
  | _ => none

end PublicKey

def KeyForm.ofSection? : SectionKind → Option KeyForm
  | .rsaKey => some .pkcs1
  | .curveKey => some .sec1
  | .privateKey => some .pkcs8
  | _ => none

def readCertificates (pem : List UInt8) : Except String (List (List UInt8)) :=
  match (Text.ofUtf8? pem).bind PemSection.ofText? with
  | none => .error "unreadable section"
  | some sections => .ok ((sections.filter (·.kind == .certificate)).map PemSection.content)

def readPrivateKey (pem : List UInt8) : Except String (Option PrivateKey) :=
  match (Text.ofUtf8? pem).bind PemSection.keyOfText? with
  | none => .error "unreadable section"
  | some found =>
      .ok (found.bind fun s => (KeyForm.ofSection? s.kind).map fun form => ⟨form, s.content⟩)

/-- The key belongs to the first certificate of the chain. -/
def acceptMaterial (chain : List (List UInt8)) (key : PrivateKey) : Except String Unit :=
  match PublicKey.ofPrivateKey? key, (chain.head?).bind PublicKey.ofCertificate? with
  | none, _ => .error "unusable key"
  | _, none => .error "unusable certificate"
  | some key, some subject =>
      if PublicKey.ofSubject? subject == some key then .ok ()
      else .error "the key belongs to another certificate"

/-- The library for secure connections that scenarios are played with. -/
def tlsLibrary : TlsLibrary where
  certificates := readCertificates
  privateKey? := readPrivateKey
  versions := .ok ()
  accept := acceptMaterial

end HttpService.Scenario

import HttpService.Encoding.Base64

/-!
# Sections of text

The reader of files that scenarios are played with: binary material as text, in sections between a
line that begins with a label and one that ends with the same label. Text between sections is
skipped, and so are sections with labels that are not known.
-/

namespace HttpService.Scenario

inductive SectionKind
  | certificate
  | publicKey
  | rsaKey
  | privateKey
  | curveKey
  | revocations
  | signingRequest
  deriving DecidableEq, Repr

namespace SectionKind

def label : SectionKind → String
  | certificate => "CERTIFICATE"
  | publicKey => "PUBLIC KEY"
  | rsaKey => "RSA PRIVATE KEY"
  | privateKey => "PRIVATE KEY"
  | curveKey => "EC PRIVATE KEY"
  | revocations => "X509 CRL"
  | signingRequest => "CERTIFICATE REQUEST"

def all : List SectionKind :=
  [certificate, publicKey, rsaKey, privateKey, curveKey, revocations, signingRequest]

def ofLabel? (cs : List Char) : Option SectionKind :=
  all.find? fun k => k.label.toList == cs

/-- The kinds that hold a key to sign with. -/
def isKey : SectionKind → Bool
  | rsaKey | privateKey | curveKey => true
  | _ => false

end SectionKind

structure PemSection where
  kind : SectionKind
  content : List UInt8

namespace PemSection

def lines : List Char → List (List Char)
  | [] => [[]]
  | c :: rest =>
      if c == '\n' || c == '\r' then [] :: lines rest
      else
        match lines rest with
        | [] => [[c]]
        | line :: others => (c :: line) :: others

def beginMark : List Char := "-----BEGIN ".toList

def endMark (label : List Char) : List Char :=
  "-----END ".toList ++ label ++ "-----".toList

/-- The label of a line that begins a section: what is left without the five dashes at its end. -/
def labelOf? (line : List Char) : Option (List Char) :=
  let tail := (line.reverse.takeWhile fun c => c == '-' || c == ' ')
  let dashes := (tail.filter (· == '-')).length
  let closing := (tail.reverse.dropWhile (· == ' ')).length
  if dashes == 5 then some ((line.take (line.length - closing)).drop beginMark.length) else none

/-- What has been read of a section that is open. -/
structure Reading where
  label : Option (List Char) := none
  body : List Char := []

/-- What reading the next section gives. -/
inductive Next
  | done
  | broken
  | found (s : PemSection) (rest : List (List Char))

/-- The next section and the lines after it. -/
def next (r : Reading) : List (List Char) → Next
  | [] => if r.label.isNone then .done else .broken
  | line :: rest =>
      if beginMark.isPrefixOf line then
        match labelOf? line with
        | some label => next { r with label := some label } rest
        | none => .broken
      else
        match r.label with
        | none => next r rest
        | some label =>
            if (endMark label).isPrefixOf line then
              match SectionKind.ofLabel? label, Encoding.Base64.decode? r.body with
              | none, _ => next {} rest
              | some _, none => .broken
              | some kind, some content => .found ⟨kind, content⟩ rest
            else next { r with body := r.body ++ line } rest

/-- All sections; nothing if one cannot be read. The first argument is at least the number of
lines. -/
def all? : Nat → List (List Char) → Option (List PemSection)
  | 0, _ => some []
  | n + 1, lines =>
      match next {} lines with
      | .done => some []
      | .broken => none
      | .found s rest => (all? n rest).map (s :: ·)

/-- The first section of a wanted kind; what comes after it is not read. -/
def first? (wanted : SectionKind → Bool) : Nat → List (List Char) → Option (Option PemSection)
  | 0, _ => some none
  | n + 1, lines =>
      match next {} lines with
      | .done => some none
      | .broken => none
      | .found s rest => if wanted s.kind then some (some s) else first? wanted n rest

/-- The sections of a text. -/
def ofText? (text : String) : Option (List PemSection) :=
  let ls := lines text.toList
  all? ls.length ls

/-- The first key of a text. -/
def keyOfText? (text : String) : Option (Option PemSection) :=
  let ls := lines text.toList
  first? SectionKind.isKey ls.length ls

end PemSection

end HttpService.Scenario

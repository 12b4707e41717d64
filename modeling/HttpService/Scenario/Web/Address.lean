import HttpService.Encoding.Base64
import HttpService.Net.Url
import HttpService.Scenario.Web.Host
import HttpService.Text.Blank
import HttpService.Text.Natural

/-!
# Web addresses of a scenario

The reader of addresses that scenarios are played with: absolute addresses as text in both
directions. Reading brings them into a normal form: letters of scheme and host are small, the port of
the scheme is left out, dot segments are resolved, and what may not stand in a part is written as
percent escapes.
-/

namespace HttpService.Scenario

structure Authority where
  username : String := ""
  password : String := ""
  host : Option Host
  port : Option Nat := none
  deriving DecidableEq, Repr

inductive UrlPath
  | segments (names : List String)
  /-- The path of an address without authority that does not start with a slash. -/
  | opaquePath (text : String)
  deriving DecidableEq, Repr

structure WebAddress where
  scheme : String
  authority : Option Authority
  path : UrlPath
  query : Option String := none
  fragment : Option String := none
  deriving DecidableEq, Repr

namespace WebAddress

/-! ## Schemes -/

/-- The schemes whose addresses always have a host, with their ports. -/
def hostedSchemes : List (String × Nat) :=
  [("http", 80), ("https", 443), ("ws", 80), ("wss", 443), ("ftp", 21)]

def defaultPort? (scheme : String) : Option Nat :=
  (hostedSchemes.find? fun s => s.1 == scheme).map Prod.snd

/-- Where a backslash counts as a slash. -/
def isSpecial (scheme : String) : Bool :=
  scheme == "file" || (defaultPort? scheme).isSome

def isLetter (c : Char) : Bool :=
  ('a' ≤ c && c ≤ 'z') || ('A' ≤ c && c ≤ 'Z')

def isSchemeChar (c : Char) : Bool :=
  isLetter c || c.isDigit || c == '+' || c == '-' || c == '.'

/-- The scheme in small letters and what follows its colon. -/
def scheme? (cs : List Char) : Option (String × List Char) :=
  match cs.span isSchemeChar with
  | (c :: name, ':' :: rest) =>
      if isLetter c then some (String.ofList ((c :: name).map Char.toLower), rest) else none
  | _ => none

/-! ## What is escaped where -/

def escapedInFragment (c : Char) : Bool :=
  Host.isControl c || " \"<>\x60".toList.contains c

def escapedInPath (c : Char) : Bool :=
  escapedInFragment c || "#?\x7b\x7d".toList.contains c

def escapedInUser (c : Char) : Bool :=
  escapedInPath c || "/:;=@[\\]^|".toList.contains c

def escapedInQuery (special : Bool) (c : Char) : Bool :=
  Host.isControl c || " \"#<>".toList.contains c || (special && c.toNat == 39)

def escape (escaped : Char → Bool) (cs : List Char) : String :=
  String.ofList (Host.percentEncode escaped cs)

/-! ## Authorities -/

def isSlash (special : Bool) (c : Char) : Bool :=
  c == '/' || (special && c == '\\')

def endsAuthority (special : Bool) (c : Char) : Bool :=
  isSlash special c || c == '?' || c == '#'

/-- The part before the last at sign, and the part after it. -/
def splitUser (cs : List Char) : Option (List Char) × List Char :=
  match cs.reverse.span (· != '@') with
  | (host, '@' :: user) => (some user.reverse, host.reverse)
  | _ => (none, cs)

/-- Splits a host from its port at the first colon outside brackets. -/
def splitPort : Bool → List Char → List Char × Option (List Char)
  | _, [] => ([], none)
  | inside, c :: rest =>
      if c == ':' && !inside then ([], some rest)
      else
        let within := if c == '[' then true else if c == ']' then false else inside
        let (host, port) := splitPort within rest
        (c :: host, port)

/-- A port; none if it is left out or that of the scheme. -/
def port? (scheme : String) (cs : List Char) : Option (Option Nat) :=
  if cs.isEmpty then some none
  else do
    let n ← Text.digits? cs
    if 65535 < n then none
    else if defaultPort? scheme == some n then some none else some (some n)

def hostOf? (special : Bool) (host : List Char) : Option (Option Host) :=
  let text := String.ofList host
  if special then
    if host.isEmpty then none else (Host.parse? text).map some
  else if host.isEmpty then some none
  else (Host.parseOpaque? text).map some

def authority? (scheme : String) (cs : List Char) : Option Authority := do
  let (user, place) := splitUser cs
  let (hostText, portText) := splitPort false place
  let host ← hostOf? (isSpecial scheme) hostText
  let port ← match portText with
    | none => some none
    | some p => if host.isNone then none else port? scheme p
  let (name, word) := (user.getD []).span (· != ':')
  some
    { username := escape escapedInUser name
      password := escape escapedInUser (word.drop 1)
      host := host
      port := port }

/-! ## Paths -/

def segmentsOf (special : Bool) : List Char → List (List Char)
  | [] => [[]]
  | c :: rest =>
      if isSlash special c then [] :: segmentsOf special rest
      else
        match segmentsOf special rest with
        | [] => [[c]]
        | first :: others => (c :: first) :: others

/-- A segment of small letters with its escaped dots replaced. -/
def plainDots (segment : List Char) : List Char :=
  match segment with
  | '%' :: '2' :: e :: rest =>
      if e == 'e' || e == 'E' then '.' :: plainDots rest else '%' :: '2' :: e :: rest
  | '.' :: rest => '.' :: plainDots rest
  | cs => cs

/-- Resolves dot segments; the names so far are in reverse. -/
def resolve : List String → List (List Char) → List String
  | done, [] => done.reverse
  | done, segment :: rest =>
      let dots := plainDots segment
      let left := if rest.isEmpty then [""] else []
      if dots == ['.', '.'] then resolve (left ++ done.drop 1) rest
      else if dots == ['.'] then resolve (left ++ done) rest
      else resolve (escape escapedInPath segment :: done) rest

/-- The path after an authority or a first slash. -/
def pathOf (special : Bool) (cs : List Char) : UrlPath :=
  match cs with
  | [] => .segments (if special then [""] else [])
  | c :: rest =>
      if isSlash special c then .segments (resolve [] (segmentsOf special rest))
      else .segments (resolve [] (segmentsOf special (c :: rest)))

/-! ## Reading -/

/-- Splits off the fragment and then the query. -/
def splitTail (cs : List Char) : List Char × Option (List Char) × Option (List Char) :=
  let (kept, fragment) := Text.cutChars '#' cs
  let (path, query) := Text.cutChars '?' kept
  (path, query, fragment)

/-- Control characters and blanks at the ends do not count, and line ends and tabs nowhere. -/
def significant (s : String) : List Char :=
  (Text.trimMatches (fun c => c.toNat ≤ 0x20) s.toList).filter fun c =>
    c != '\t' && c != '\n' && c != '\r'

/-- The authority and the path of an address after its scheme. -/
def hierarchy? (scheme : String) (cs : List Char) : Option (Option Authority × UrlPath) :=
  let special := isSpecial scheme
  let located (rest : List Char) : Option (Option Authority × UrlPath) :=
    let (place, path) := rest.span fun c => !endsAuthority special c
    (authority? scheme place).map fun a => (some a, pathOf special path)
  if scheme == "file" then
    match cs with
    | a :: b :: rest =>
        if isSlash true a && isSlash true b then
          let (place, path) := rest.span fun c => !endsAuthority true c
          if place.isEmpty then some (some { host := none }, pathOf true path)
          else (Host.parse? (String.ofList place)).map fun h =>
            (some { host := if h == .domain "localhost" then none else some h }, pathOf true path)
        else some (some { host := none }, pathOf true cs)
    | _ => some (some { host := none }, pathOf true cs)
  else if special then located (cs.dropWhile (isSlash true))
  else
    match cs with
    | '/' :: '/' :: rest => located rest
    | '/' :: _ => some (none, pathOf false cs)
    | _ => some (none, .opaquePath (escape Host.isControl cs))

def parse? (s : String) : Option WebAddress := do
  let (scheme, rest) ← scheme? (significant s)
  let special := isSpecial scheme
  let (body, query, fragment) := splitTail rest
  let (authority, path) ← hierarchy? scheme body
  some
    { scheme := scheme
      authority := authority
      path := path
      query := query.map (escape (escapedInQuery special))
      fragment := fragment.map (escape escapedInFragment) }

/-! ## Writing -/

def host? (u : WebAddress) : Option Host :=
  u.authority.bind Authority.host

def credentials (a : Authority) : String :=
  if a.username.isEmpty && a.password.isEmpty then ""
  else if a.password.isEmpty then a.username ++ "@"
  else a.username ++ ":" ++ a.password ++ "@"

def authorityText (a : Authority) : String :=
  credentials a ++ ((a.host.map Host.toString).getD "") ++
    ((a.port.map fun p => ":" ++ ToString.toString p).getD "")

def pathText : UrlPath → String
  | .segments names => String.join (names.map ("/" ++ ·))
  | .opaquePath text => text

def toString (u : WebAddress) : String :=
  u.scheme ++ ":" ++ ((u.authority.map fun a => "//" ++ authorityText a).getD "") ++
    pathText u.path ++ ((u.query.map ("?" ++ ·)).getD "") ++
    ((u.fragment.map ("#" ++ ·)).getD "")

/-- The text that percent escapes stand for. -/
def unescape? (s : String) : Option String :=
  Text.ofUtf8? (Encoding.Form.percentDecode (Text.utf8 s))

/-- The name and the password that an address carries. -/
def login? (u : WebAddress) : Option (String × Option String) := do
  let a ← u.authority
  let name ← unescape? a.username
  let word := if a.password.isEmpty then none else unescape? a.password
  if name.isEmpty && word.isNone then none else some (name, word)

/-- How a name and a password are sent. -/
def basic (name : String) (word : Option String) : String :=
  "Basic " ++ Encoding.Base64.encode (Text.utf8 (name ++ ":" ++ word.getD ""))

def withoutLogin (u : WebAddress) : WebAddress :=
  if u.login?.isNone then u
  else { u with authority := u.authority.map fun a => { a with username := "", password := "" } }

/-- What a client is told about an address. -/
def report (u : WebAddress) : Url where
  text := u.toString
  bare := u.withoutLogin.toString
  login := u.login?.map fun (name, word) => basic name word
  hosted := u.host?.isSome

end WebAddress

/-- The reader of addresses that scenarios are played with. -/
def urls : UrlReader where
  read text :=
    match WebAddress.parse? text with
    | some u => .ok u.report
    | none => .error "unreadable address"

end HttpService.Scenario

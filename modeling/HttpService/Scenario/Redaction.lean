import HttpService.Json.Value
import HttpService.Text.Split

/-!
# Redaction

What differs from run to run is hidden in reports: times and durations become stars, the wording of
components that read documents becomes a star, and fresh tokens and identifiers are numbered in the
order in which they appear.
-/

namespace HttpService.Scenario

/-- The members of a body whose values are hidden. -/
def hiddenMembers : List String :=
  ["expires_at", "timestamp", "avg_duration_ms", "max_duration_ms", "duration_ms", "uptime_secs"]

def isNumberChar (c : Char) : Bool :=
  c.isDigit || c == '-' || c == '+' || c == '.' || c == 'e' || c == 'E'

/-- What follows a number, or a string without quotes in it. -/
def dropValue? : List Char → Option (List Char)
  | '"' :: rest =>
      match rest.dropWhile (· != '"') with
      | '"' :: after => some after
      | _ => none
  | c :: rest =>
      if c.isDigit || c == '-' then some ((c :: rest).dropWhile isNumberChar) else none
  | [] => none

/-- A hidden member's name at the start, and what follows its value. -/
def hidden? (cs : List Char) : Option (List Char × List Char) :=
  hiddenMembers.findSome? fun name =>
    let lead := ("\"" ++ name ++ "\":").toList
    if lead.isPrefixOf cs then (dropValue? (cs.drop lead.length)).map fun after => (lead, after)
    else none

/-- Hides values; the first argument is at least the length of the text. -/
def hideValues : Nat → List Char → List Char
  | 0, cs => cs
  | _, [] => []
  | n + 1, c :: rest =>
      match if c == '"' then hidden? (c :: rest) else none with
      | some (lead, after) => lead ++ '"' :: '*' :: '"' :: hideValues n after
      | none => c :: hideValues n rest

/-- What follows the end of a string. -/
def afterString : List Char → List Char
  | '\\' :: _ :: rest => afterString rest
  | '"' :: rest => '"' :: rest
  | _ :: rest => afterString rest
  | [] => []

def faultLead : String := "invalid JSON: "

/-- Hides the wording of faults in messages; the first argument is at least the length. -/
def hideFaults : Nat → List Char → List Char
  | 0, cs => cs
  | _, [] => []
  | n + 1, c :: rest =>
      let lead := ("\"message\":\"" ++ faultLead).toList
      if c == '"' && lead.isPrefixOf (c :: rest) then
        lead ++ '*' :: hideFaults n (afterString ((c :: rest).drop lead.length))
      else c :: hideFaults n rest

def redactBody (s : String) : String :=
  let cs := s.toList
  String.ofList (hideFaults cs.length (hideValues cs.length cs))

/-- A message without the wording of a fault. -/
def redactMessage (s : String) : String :=
  if Text.startsWith s faultLead then faultLead ++ "*" else s

/-! ## Fresh tokens and identifiers -/

def isSegmentChar (c : Char) : Bool :=
  c.isAlphanum || c == '-' || c == '_'

def isToken (segments : List (List Char)) : Bool :=
  match segments with
  | [a, b, c] => ['e', 'y', 'J'].isPrefixOf a && ['e', 'y', 'J'].isPrefixOf b && !c.isEmpty
  | _ => false

/-- A token at the start and what follows it. -/
def tokenAt? (cs : List Char) : Option (String × List Char) :=
  if ['e', 'y', 'J'].isPrefixOf cs then
    let a := cs.takeWhile isSegmentChar
    let r1 := cs.drop (a.length + 1)
    let b := r1.takeWhile isSegmentChar
    let r2 := r1.drop (b.length + 1)
    let c := r2.takeWhile isSegmentChar
    let token := a ++ '.' :: b ++ '.' :: c
    if isToken [a, b, c] && token.isPrefixOf cs then
      some (String.ofList token, cs.drop token.length)
    else none
  else none

def isHexDigit (c : Char) : Bool :=
  c.isDigit || ('a' ≤ c && c ≤ 'f')

def isIdentifier : Nat → List Char → Bool
  | _, [] => true
  | i, c :: rest =>
      (if i == 8 || i == 13 || i == 18 || i == 23 then c == '-' else isHexDigit c) &&
        isIdentifier (i + 1) rest

/-- An identifier at the start and what follows it. -/
def identifierAt? (cs : List Char) : Option (String × List Char) :=
  match cs with
  | c :: _ =>
      if isHexDigit c then
        let lead := cs.take 36
        if lead.length == 36 && isIdentifier 0 lead then some (String.ofList lead, cs.drop 36)
        else none
      else none
  | [] => none

def occursIn (part : List Char) : List Char → Bool
  | [] => part.isEmpty
  | c :: rest => part.isPrefixOf (c :: rest) || occursIn part rest

/-- The names given so far to what is not in the description. -/
structure Names where
  known : List Char
  tokens : List String := []
  identifiers : List String := []

namespace Names

def isKnown (n : Names) (s : String) : Bool :=
  occursIn s.toList n.known

/-- A name's number, counted from one, and the names with it. -/
def number (names : List String) (s : String) : Nat × List String :=
  if names.contains s then (names.findIdx (· == s) + 1, names)
  else (names.length + 1, names ++ [s])

def token (n : Names) (s : String) : String × Names :=
  if n.isKnown s then (s, n)
  else
    let (i, tokens) := number n.tokens s
    ("jwt:" ++ toString i, { n with tokens := tokens })

def identifier (n : Names) (s : String) : String × Names :=
  if n.isKnown s then (s, n)
  else
    let (i, identifiers) := number n.identifiers s
    ("uuid:" ++ toString i, { n with identifiers := identifiers })

/-- Rewrites a text; the first argument is at least its length. -/
def chars : Nat → Names → List Char → List Char × Names
  | 0, n, cs => (cs, n)
  | _, n, [] => ([], n)
  | fuel + 1, n, c :: rest =>
      match tokenAt? (c :: rest) with
      | some (found, after) =>
          let (shown, n) := n.token found
          let (out, n) := chars fuel n after
          (shown.toList ++ out, n)
      | none =>
          match identifierAt? (c :: rest) with
          | some (found, after) =>
              let (shown, n) := n.identifier found
              let (out, n) := chars fuel n after
              (shown.toList ++ out, n)
          | none =>
              let (out, n) := chars fuel n rest
              (c :: out, n)

def text (n : Names) (s : String) : String × Names :=
  let cs := s.toList
  let (out, n) := chars cs.length n cs
  (String.ofList out, n)

mutual

/-- Rewrites the texts of a value, objects in the order of their members. -/
def json (n : Names) : Json → Json × Names
  | .text s =>
      let (s, n) := n.text s
      (.text s, n)
  | .array items =>
      let (items, n) := jsonItems n items
      (.array items, n)
  | .object members =>
      let (members, n) := jsonMembers n members
      (.object members, n)
  | j => (j, n)

def jsonItems (n : Names) : List Json → List Json × Names
  | [] => ([], n)
  | j :: rest =>
      let (j, n) := json n j
      let (rest, n) := jsonItems n rest
      (j :: rest, n)

def jsonMembers (n : Names) : List (String × Json) → List (String × Json) × Names
  | [] => ([], n)
  | (name, j) :: rest =>
      let (name, n) := n.text name
      let (j, n) := json n j
      let (rest, n) := jsonMembers n rest
      ((name, j) :: rest, n)

end

end Names

/-- A report without what is fresh in it: neither tokens nor identifiers but those of a given
description. -/
def redact (description : String) (report : Json) : Json :=
  ((Names.mk description.toList [] []).json report).1

end HttpService.Scenario

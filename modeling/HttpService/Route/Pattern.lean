import HttpService.Failure.Basic
import HttpService.Text.Quoted
import HttpService.Text.Split

/-!
# Route patterns

A pattern is literal text with placeholders: names in braces that stand for one or more characters
other than slashes. Of several ways to match, an earlier placeholder takes as much as it can.
-/

namespace HttpService

inductive Part
  | literal (text : List Char)
  | placeholder (name : List Char)
  deriving DecidableEq, Repr

/-- Why a text is no pattern. -/
inductive PatternFlaw
  | relative
  | unbalanced
  | unclosed
  | badName
  | repeatedName
  deriving DecidableEq, Repr

namespace PatternFlaw

def reason : PatternFlaw → String
  | relative => "must start with '/'"
  | unbalanced => "unbalanced '\x7d'"
  | unclosed => "unclosed '\x7b'"
  | badName => "placeholder names must be identifiers"
  | repeatedName => "duplicate placeholder"

def toFailure (f : PatternFlaw) (text : String) : Failure :=
  (Failure.invalidArgument
    ("invalid route pattern " ++ Text.quoted text ++ ": " ++ f.reason)).withField
      "pattern" (.text text)

end PatternFlaw

structure Pattern where
  text : String
  parts : List Part
  deriving DecidableEq, Repr

namespace Pattern

def isBrace (c : Char) : Bool :=
  c == '\x7b' || c == '\x7d'

def isNameStart (c : Char) : Bool :=
  c.isAlpha || c == '_'

def isNameChar (c : Char) : Bool :=
  c.isAlphanum || c == '_'

/-- Names are identifiers of ASCII letters, digits and underscores. -/
def isName : List Char → Bool
  | [] => false
  | c :: rest => isNameStart c && rest.all isNameChar

theorem length_drop_lt {α : Type} {c : α} {cs rest : List α} {n : Nat} (h : cs.drop n = c :: rest) :
    rest.length < cs.length := by
  have := congrArg List.length h
  simp at this
  omega

/-- Reads text and placeholders in turn; names that have occurred may not occur again. -/
def parse (names : List (List Char)) (cs : List Char) : Except PatternFlaw (List Part) :=
  let text := cs.takeWhile fun c => !isBrace c
  match _h : cs.drop text.length with
  | [] => .ok [.literal text]
  | '\x7b' :: after =>
      let name := after.takeWhile (· != '\x7d')
      match _h' : after.drop name.length with
      | [] => .error .unclosed
      | _ :: rest =>
          if !isName name then .error .badName
          else if names.contains name then .error .repeatedName
          else do
            let more ← parse (names ++ [name]) rest
            .ok (.literal text :: .placeholder name :: more)
  | _ :: _ => .error .unbalanced
termination_by cs.length
decreasing_by
  have h1 := length_drop_lt _h
  have h2 := length_drop_lt _h'
  omega

def compile (text : String) : Except Failure Pattern :=
  match text.toList with
  | '/' :: _ =>
      match parse [] text.toList with
      | .ok parts => .ok ⟨text, parts⟩
      | .error flaw => .error (flaw.toFailure text)
  | _ => .error (PatternFlaw.relative.toFailure text)

/-- The names of the placeholders in their order. -/
def names (p : Pattern) : List String :=
  p.parts.filterMap fun
    | .literal _ => none
    | .placeholder name => some (String.ofList name)

/-- From a length down to one. -/
def descending : Nat → List Nat
  | 0 => []
  | n + 1 => (n + 1) :: descending n

/-- What the placeholders stand for if the parts match all of a text. -/
def matchParts : List Part → List Char → Option (List (List Char × List Char))
  | [], [] => some []
  | [], _ :: _ => none
  | .literal text :: parts, cs =>
      if text.isPrefixOf cs then matchParts parts (cs.drop text.length) else none
  | .placeholder name :: parts, cs =>
      (descending (cs.takeWhile (· != '/')).length).findSome? fun n =>
        (matchParts parts (cs.drop n)).map ((name, cs.take n) :: ·)

/-- The values of the placeholders in a path that matches. -/
def captures (p : Pattern) (path : String) : Option (Table String) :=
  (matchParts p.parts path.toList).map fun found =>
    Table.ofList (found.map fun (name, value) => (String.ofList name, String.ofList value))

/-- Puts a pattern below a path: one slash stands where they meet, and nothing below a path is the
path itself. -/
def join (above below : String) : String :=
  if below.isEmpty then above
  else
    let trimmed := String.ofList (above.toList.reverse.dropWhile (· == '/')).reverse
    if Text.startsWith below "/" then trimmed ++ below else trimmed ++ "/" ++ below

end Pattern

end HttpService

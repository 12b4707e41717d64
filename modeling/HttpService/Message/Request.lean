import HttpService.Message.Header
import HttpService.Text.Split

/-!
# Requests

What a client asks for: a method, a target with its query, headers and a body of text.
-/

namespace HttpService

inductive Method
  | get
  | head
  | post
  | put
  | patch
  | delete
  | options
  | trace
  | connect
  | other (name : String)
  deriving DecidableEq, Repr

namespace Method

def name : Method → String
  | get => "GET"
  | head => "HEAD"
  | post => "POST"
  | put => "PUT"
  | patch => "PATCH"
  | delete => "DELETE"
  | options => "OPTIONS"
  | trace => "TRACE"
  | connect => "CONNECT"
  | other name => name

def ofName (s : String) : Method :=
  match s with
  | "GET" => get
  | "HEAD" => head
  | "POST" => post
  | "PUT" => put
  | "PATCH" => patch
  | "DELETE" => delete
  | "OPTIONS" => options
  | "TRACE" => trace
  | "CONNECT" => connect
  | _ => other s

/-- The methods that change something. -/
def isWrite : Method → Bool
  | post | put | patch | delete => true
  | _ => false

end Method

/-- What a request asks for. -/
structure Target where
  path : String
  query : Option String
  deriving DecidableEq, Repr

namespace Target

/-- Splits a path at its question mark; a fragment is dropped. -/
def ofPathAndQuery (s : String) : Target :=
  let (kept, _) := Text.cut '#' s
  let (path, query) := Text.cut '?' kept
  ⟨if path.isEmpty then "/" else path, query⟩

/-- The part after a scheme and its separator, from the end of the authority. -/
def afterAuthority (cs : List Char) : List Char :=
  cs.dropWhile fun c => c != '/' && c != '?' && c != '#'

/-- The characters after the first `://`, if there is one. -/
def afterScheme? : List Char → Option (List Char)
  | ':' :: '/' :: '/' :: rest => some rest
  | _ :: rest => afterScheme? rest
  | [] => none

/-- Reads a request target: a path, an absolute address, an authority alone, or an asterisk. -/
def parse (s : String) : Target :=
  if Text.startsWith s "/" then ofPathAndQuery s
  else if s == "*" then ⟨"*", none⟩
  else
    match afterScheme? s.toList with
    | some rest => ofPathAndQuery (String.ofList (afterAuthority rest))
    | none => ⟨"", none⟩

end Target

structure Request where
  method : Method
  target : Target
  headers : Headers
  body : String

namespace Request

def path (r : Request) : String :=
  r.target.path

end Request

end HttpService

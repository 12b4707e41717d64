import HttpService.Message.Header
import HttpService.Text.Split
import HttpService.Context
import HttpService.Table

/-!
# Rate limiting

A sliding window for each client: a request is allowed if fewer than the limit of the allowed ones
before it are younger than the window. Only times that can still matter are kept.
-/

namespace HttpService

/-- How many requests of one client are allowed in how long a time, and how often clients without
recent requests are forgotten. -/
structure RateLimit where
  limit : Nat := 100
  window : Span := Span.ofSeconds 60
  /-- The window itself, unless given. -/
  sweepInterval : Option Span := none
  deriving DecidableEq, Repr

namespace RateLimit

def interval (r : RateLimit) : Span :=
  r.sweepInterval.getD r.window

/-- Whether a background task forgets clients: never with an interval of zero. -/
def sweeps (r : RateLimit) (inRuntime : Bool) : Bool :=
  inRuntime && r.interval.nanos != 0

def describe (r : RateLimit) (sweeping : Bool) : String :=
  "RateLimitMiddleware \x7b limit: " ++ toString r.limit ++ ", window: " ++ r.window.describe ++
    ", sweeper: " ++ toString sweeping ++ ", .. \x7d"

end RateLimit

/-- The times of the allowed requests of each client, oldest first. -/
abbrev RequestLog := Table (List Nat)

inductive Decision
  | allowed (remaining : Nat)
  /-- Refused, with the seconds after which another try succeeds. -/
  | limited (retryAfter : Nat)
  /-- Refused, but the seconds to wait are more than 64 bits can count. -/
  | overflow
  deriving DecidableEq, Repr

namespace RequestLog

/-- Drops the times that are at least a window old. -/
def prune (times : List Nat) (now : Nat) (window : Span) : List Nat :=
  times.dropWhile fun t => window.nanos ≤ now - t

/-- Forgets the clients without a recent request. -/
def sweep (log : RequestLog) (now : Nat) (window : Span) : RequestLog :=
  (log.map fun (k, times) => (k, prune times now window)).filter fun e => !e.2.isEmpty

/-- A span in whole seconds, rounded up. -/
def secondsUp (wait : Span) : Nat :=
  wait.seconds + if wait.subsec > 0 then 1 else 0

/-- Refuses for a span, of which the client is told whole seconds and at least one. -/
def refuse (wait : Span) : Decision :=
  if secondsUp wait < Nat.pow 2 64 then .limited (max 1 (secondsUp wait)) else .overflow

/-- Decides on a request of a client at a time. -/
def check (r : RateLimit) (log : RequestLog) (now : Nat) (key : String) :
    Decision × RequestLog :=
  let times := prune ((log.find? key).getD []) now r.window
  if r.limit ≤ times.length then
    let age := match times with
      | oldest :: _ => now - oldest
      | [] => 0
    (refuse ⟨r.window.nanos - age⟩, log.insert key times)
  else
    let grown := times ++ [now]
    (.allowed (r.limit - grown.length), log.insert key grown)

end RequestLog

/-- The first value of a header without blanks around it, if anything is left. -/
def trimmedHeader? (h : Headers) (name : String) : Option String :=
  match h.text? name with
  | some value =>
      let value := Text.trim value
      if value.isEmpty then none else some value
  | none => none

/-- The first of the addresses a request was forwarded for. -/
def forwardedFor? (h : Headers) : Option String := do
  let chain ← trimmedHeader? h "x-forwarded-for"
  let first := Text.trim (Text.cut ',' chain).1
  if first.isEmpty then none else some first

/-- Whom a request counts for: the client named by proxies, else the peer's address. -/
def clientKey (h : Headers) (remote : Option SocketAddress) : String :=
  match (forwardedFor? h).or (trimmedHeader? h "x-real-ip") with
  | some client => client
  | none =>
      match remote with
      | some a => a.ip.toString
      | none => "unknown"

end HttpService

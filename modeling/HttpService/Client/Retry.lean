import HttpService.Message.Response
import HttpService.Time.Span

/-!
# Retry policies

When a call is made again and how long to wait before that. The wait doubles with every attempt,
from a base up to a cap.
-/

namespace HttpService

/-- How an attempt has ended. -/
abbrev Outcome := Except Failure Response

structure RetryPolicy where
  maxRetries : Nat
  baseInterval : Span
  maxBackoff : Span
  /-- The outcomes after which another attempt makes sense. -/
  retryable : Outcome → Bool

namespace RetryPolicy

/-- Server errors and failures of the network may pass. -/
def transient (response : Option Response) (failure : Option Failure) : Bool :=
  match response, failure with
  | some r, _ => 500 ≤ r.status && r.status ≤ 599
  | none, some f => f.code == .networkError
  | none, none => false

def isTransient : Outcome → Bool
  | .ok r => transient (some r) none
  | .error f => transient none (some f)

def standard : RetryPolicy where
  maxRetries := 3
  baseInterval := .ofMillis 500
  maxBackoff := .ofSeconds 5
  retryable := isTransient

def none : RetryPolicy where
  maxRetries := 0
  baseInterval := .zero
  maxBackoff := .zero
  retryable := isTransient

/-- Whole milliseconds, as far as they fit in one word. -/
def shownMillis (s : Span) : Json :=
  Json.ofNat (min s.millis (Nat.pow 2 64 - 1))

/-- A policy whose base is not above its cap. -/
def new (maxRetries : Nat) (baseInterval maxBackoff : Span) : Except Failure RetryPolicy :=
  if maxBackoff.nanos < baseInterval.nanos then
    .error (((Failure.invalidArgument "retry base interval exceeds max backoff").withField
      "base_interval_ms" (shownMillis baseInterval)).withField
      "max_backoff_ms" (shownMillis maxBackoff))
  else .ok ⟨maxRetries, baseInterval, maxBackoff, isTransient⟩

def withRetryable (p : RetryPolicy) (retryable : Outcome → Bool) : RetryPolicy :=
  { p with retryable := retryable }

/-- The power of two for an attempt, as far as it fits in half a word. -/
def factor (attempt : Nat) : Nat :=
  if attempt ≤ 32 then Nat.pow 2 (attempt - 1) else Nat.pow 2 32 - 1

/-- The wait before an attempt; the first one, numbered zero, is made at once. -/
def backoff (p : RetryPolicy) (attempt : Nat) : Span :=
  if attempt = 0 then .zero
  else
    let delay := p.baseInterval.nanos * factor attempt
    if delay ≤ Span.max.nanos then ⟨min delay p.maxBackoff.nanos⟩ else p.maxBackoff

/-- The first waits of a policy, at most so many. -/
def delays (p : RetryPolicy) (count : Nat) : List Span :=
  (List.range (min count p.maxRetries)).map fun i => p.backoff (i + 1)

/-- Policies with the same numbers count as equal, whatever they retry. -/
def same (p q : RetryPolicy) : Bool :=
  p.maxRetries == q.maxRetries && p.baseInterval == q.baseInterval && p.maxBackoff == q.maxBackoff

/-- What diagnostics show. -/
def describe (p : RetryPolicy) : String :=
  "RetryPolicy \x7b max_retries: " ++ toString p.maxRetries ++ ", base_interval: " ++
    p.baseInterval.describe ++ ", max_backoff: " ++ p.maxBackoff.describe ++ ", .. \x7d"

end RetryPolicy

end HttpService

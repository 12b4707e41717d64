import HttpService.Client.Answer

/-!
# Exchanges

A call is one attempt and, as long as its policy says so, further ones after a wait. A signal that
fires stops the call, whether it is trying or waiting; of two things at one time the signal counts.
-/

namespace HttpService

/-- What an attempt meets. -/
structure Trial where
  took : Span
  outcome : Outcome

/-- What carries requests. -/
structure Network where
  /-- What answers an attempt, given its number, counted from zero, and its time. -/
  answer : Nat → Nat → Prepared → Trial
  /-- A copy for a further attempt, if there can be one: a body that is a stream has none. -/
  copy? : Prepared → Option Prepared

/-- Why an attempt has no response. -/
inductive TransportFault
  | timedOut
  | unreachable
  | unreadableBody
  | rejected
  deriving DecidableEq, Repr

namespace TransportFault

def message : TransportFault → String
  | timedOut => "request timed out"
  | unreachable => "connection failed"
  | unreadableBody => "failed to read response body"
  | rejected => "request failed"

def toFailure (fault : TransportFault) (url : Url) : Failure :=
  ((Failure.network fault.message).withField "url" (.text url.bare)).withCause
    (.foreign { text := fault.message, stable := false })

end TransportFault

/-- What has happened in a call. -/
structure Exchange where
  /-- The requests that were sent and when, the first one first. -/
  sent : List (Nat × Prepared) := []
  /-- How long the call has waited before each further attempt. -/
  waits : List Span := []
  ended : Nat
  outcome : Outcome

/-- Where a call stands before an attempt. -/
structure Round where
  /-- The request to send. The attempt takes it and leaves a copy, if there can be one. -/
  template : Option Prepared
  attempt : Nat := 0
  now : Nat
  sent : List (Nat × Prepared) := []
  waits : List Span := []

/-- What comes of an attempt: the call ends, or it goes on to a further one. -/
inductive Turn
  | ends (e : Exchange)
  | again (r : Round)

/-- Whether a signal has fired at a time. -/
def fired (signal : Option Nat) (time : Nat) : Bool :=
  match signal with
  | some t => t ≤ time
  | none => false

/-- An attempt that takes longer than it may has failed when its time is over. -/
def Prepared.limited (p : Prepared) (trial : Trial) : Trial :=
  if p.timeout.nanos < trial.took.nanos then
    ⟨p.timeout, .error (TransportFault.timedOut.toFailure p.url)⟩
  else trial

namespace Exchange

def cancelled : Failure :=
  .cancelled "operation cancelled"

def cancelledWaiting (attempt : Nat) : Failure :=
  (Failure.cancelled "request cancelled during retry backoff").withField "attempt"
    (Json.ofNat attempt)

def consumed : Failure :=
  .internal "request consumed without an outcome"

end Exchange

namespace Round

def start (p : Prepared) (now : Nat) : Round :=
  { template := some p, now := now }

def stop (r : Round) (time : Nat) (outcome : Outcome) : Turn :=
  .ends { sent := r.sent, waits := r.waits, ended := time, outcome := outcome }

/-- The end of a call that its signal has stopped, at the time that it fired or at a later one. -/
def stopped (r : Round) (signal : Option Nat) (time : Nat) (f : Failure) : Turn :=
  r.stop (max time (signal.getD time)) (.error f)

/-- One attempt, and the wait after it if there is to be another. -/
def turn (net : Network) (policy : RetryPolicy) (signal : Option Nat) (r : Round) : Turn :=
  match r.template with
  | none => r.stop r.now (.error Exchange.consumed)
  | some p =>
      if fired signal r.now then r.stopped signal r.now Exchange.cancelled
      else
        let trial := p.limited (net.answer r.attempt r.now p)
        let after := r.now + trial.took.nanos
        let tried := { r with template := net.copy? p, sent := r.sent ++ [(r.now, p)] }
        if fired signal after then tried.stopped signal r.now Exchange.cancelled
        else if !policy.retryable trial.outcome || policy.maxRetries ≤ r.attempt ||
            tried.template.isNone then
          tried.stop after trial.outcome
        else
          let attempt := r.attempt + 1
          let wait := policy.backoff attempt
          let next := after + wait.nanos
          if fired signal next then tried.stopped signal after (Exchange.cancelledWaiting attempt)
          else
            .again { tried with attempt := attempt, now := next, waits := r.waits ++ [wait] }

variable {net : Network} {policy : RetryPolicy} {signal : Option Nat} {r r' : Round}

/-- A further attempt has the next number and a request, and the policy allows it. -/
theorem turn_eq_again (again : r.turn net policy signal = .again r') :
    r'.attempt = r.attempt + 1 ∧ r.attempt < policy.maxRetries ∧ r'.template.isSome := by
  unfold turn stopped stop at again
  split at again
  · cases again
  · dsimp only at again
    split at again
    · cases again
    · split at again
      · cases again
      · split at again
        · cases again
        · next goes =>
            split at again
            · cases again
            · cases again
              simp only [Bool.or_eq_true, decide_eq_true_eq, not_or] at goes
              obtain ⟨⟨-, allowed⟩, copied⟩ := goes
              exact ⟨rfl, Nat.lt_of_not_le allowed,
                Option.isSome_iff_ne_none.mpr (mt Option.isNone_iff_eq_none.mpr copied)⟩

/-- The attempts from a round on. -/
def play (net : Network) (policy : RetryPolicy) (signal : Option Nat) (r : Round) : Exchange :=
  match _turned : r.turn net policy signal with
  | .ends e => e
  | .again next => play net policy signal next
  termination_by policy.maxRetries - r.attempt
  decreasing_by
    obtain ⟨later, allowed, -⟩ := turn_eq_again _turned
    omega

end Round

namespace Call

/-- Makes a call. A signal may fire at a time of its own, and that of the call stops it. A call that
cannot be prepared sends nothing. -/
def send (c : Call) (reason : Nat → Option String) (net : Network) (fires : Nat → Option Nat)
    (now : Nat) : Exchange :=
  match c.prepare with
  | .error f => { ended := now, outcome := .error f }
  | .ok p =>
      let e := (Round.start p now).play net c.retry (c.signal.bind fires)
      { e with outcome := p.judge reason e.outcome }

end Call

end HttpService

import HttpService.Limit.Limiter

/-!
# Background sweeps

A limiter that runs forgets clients at every multiple of its interval, counted from the first time
that background work is looked at. Sweeps that were missed while the clock jumped are made up for by
one, because all of them would look at the same time.
-/

namespace HttpService

/-- How far a limiter's background sweeps have come. -/
inductive Sweeping
  | never
  | unstarted
  | due (time : Nat)
  deriving DecidableEq, Repr

structure RunningLimiter where
  rate : RateLimit
  log : RequestLog := []
  sweeping : Sweeping
  deriving DecidableEq, Repr

namespace RunningLimiter

/-- A limiter that has seen no request, inside a runtime or not. -/
def start (rate : RateLimit) (inRuntime : Bool) : RunningLimiter where
  rate := rate
  sweeping := if rate.sweeps inRuntime then .unstarted else .never

def isSweeping (l : RunningLimiter) : Bool :=
  l.sweeping != .never

/-- How many clients are remembered. -/
def tracked (l : RunningLimiter) : Nat :=
  l.log.length

/-- Forgets the clients without recent requests, and tells how many these were. -/
def sweep (l : RunningLimiter) (now : Nat) : Nat × RunningLimiter :=
  let kept := l.log.sweep now l.rate.window
  (l.log.length - kept.length, { l with log := kept })

/-- The first multiple of the interval after a time, counted from a time before it. -/
def nextDue (due interval now : Nat) : Nat :=
  due + ((now - due) / interval + 1) * interval

/-- Does the sweep that is due, if one is, and starts to count the time for the first one. -/
def tick (l : RunningLimiter) (now : Nat) : Nat × RunningLimiter :=
  match l.sweeping with
  | .never => (0, l)
  | .unstarted => (0, { l with sweeping := .due (now + l.rate.interval.nanos) })
  | .due time =>
      if time ≤ now then
        let (removed, swept) := l.sweep now
        (removed, { swept with sweeping := .due (nextDue time l.rate.interval.nanos now) })
      else (0, l)

/-- When a sweep is due that may find something. -/
def nextWork (l : RunningLimiter) : Option Nat :=
  match l.sweeping with
  | .due time => if l.log.isEmpty then none else some time
  | _ => none

def describe (l : RunningLimiter) : String :=
  l.rate.describe l.isSweeping

end RunningLimiter

end HttpService

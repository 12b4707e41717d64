import HttpService.Json.Value
import HttpService.Time.Instant

/-!
# Metric history

The most recent requests and host samples, in the order of recording, each in a buffer of bounded
size. A summary counts the retained requests and averages their durations.
-/

namespace HttpService

structure HttpMetric where
  method : String
  path : String
  status : Nat
  durationMs : Float
  timestamp : Instant

structure SystemMetric where
  cpuPercent : Float
  memoryPercent : Float
  diskPercent : Float
  timestamp : Instant

structure HttpSummary where
  requests : Nat := 0
  serverErrors : Nat := 0
  clientErrors : Nat := 0
  avgDurationMs : Float := 0
  maxDurationMs : Float := 0

/-- The object of a host sample, its members in ascending order. -/
def SystemMetric.toJson (m : SystemMetric) : Json :=
  .object
    [("cpu_percent", Json.ofFloat m.cpuPercent), ("disk_percent", Json.ofFloat m.diskPercent),
     ("memory_percent", Json.ofFloat m.memoryPercent), ("timestamp", .text m.timestamp.toString)]

/-- The object of a summary, its members in ascending order. -/
def HttpSummary.toJson (s : HttpSummary) : Json :=
  .object
    [("avg_duration_ms", Json.ofFloat s.avgDurationMs),
     ("client_errors", Json.ofNat s.clientErrors),
     ("max_duration_ms", Json.ofFloat s.maxDurationMs), ("requests", Json.ofNat s.requests),
     ("server_errors", Json.ofNat s.serverErrors)]

/-- The greater of two numbers; a number is preferred to an undefined value. -/
def greater (a b : Float) : Float :=
  if a.isNaN then b else if b.isNaN then a else if a < b then b else a

/-- A summary with one more request in it. The average is left to the end. -/
def HttpSummary.count (s : HttpSummary) (m : HttpMetric) : HttpSummary :=
  let counted :=
    if 500 ≤ m.status then { s with serverErrors := s.serverErrors + 1 }
    else if 400 ≤ m.status ∧ m.status ≤ 499 then { s with clientErrors := s.clientErrors + 1 }
    else s
  { counted with
    requests := s.requests + 1
    maxDurationMs := greater s.maxDurationMs m.durationMs }

/-- One more request in a summary, and its duration in a total. -/
def HttpSummary.tally (s : HttpSummary × Float) (m : HttpMetric) : HttpSummary × Float :=
  (s.1.count m, s.2 + m.durationMs)

/-- Counts one request after the other. -/
def summarize (metrics : List HttpMetric) : HttpSummary :=
  let (counted, total) := metrics.foldl HttpSummary.tally ({}, 0)
  if 0 < counted.requests then
    { counted with avgDurationMs := total / counted.requests.toFloat }
  else counted

structure Collector where
  http : List HttpMetric := []
  system : List SystemMetric := []
  httpCapacity : Nat := 1000
  systemCapacity : Nat := 100

namespace Collector

def maxHttp : Nat := 1000

def maxSystem : Nat := 100

/-- Capacities are at least one and at most the built-in limits. -/
def withCapacity (http system : Nat) : Collector where
  httpCapacity := min (max http 1) maxHttp
  systemCapacity := min (max system 1) maxSystem

def new : Collector :=
  withCapacity maxHttp maxSystem

/-- Drops the oldest items as long as there is no room for one more. -/
def makeRoom (capacity : Nat) : List α → List α
  | [] => []
  | a :: rest => if capacity ≤ rest.length + 1 then makeRoom capacity rest else a :: rest

/-- Makes room, then adds an item. -/
def pushBounded (capacity : Nat) (buffer : List α) (a : α) : List α :=
  makeRoom capacity buffer ++ [a]

def recordHttp (c : Collector) (m : HttpMetric) : Collector :=
  { c with http := pushBounded c.httpCapacity c.http m }

def recordSystem (c : Collector) (m : SystemMetric) : Collector :=
  { c with system := pushBounded c.systemCapacity c.system m }

def clearHttp (c : Collector) : Collector :=
  { c with http := [] }

def clearSystem (c : Collector) : Collector :=
  { c with system := [] }

/-- Clears one buffer after the other. -/
def clear (c : Collector) : Collector :=
  c.clearHttp.clearSystem

/-- A copy of the retained requests, the oldest first. -/
def httpMetrics (c : Collector) : List HttpMetric :=
  c.http

/-- A copy of the retained host samples, the oldest first. -/
def systemMetrics (c : Collector) : List SystemMetric :=
  c.system

/-- A summary of the buffer itself, without a copy. -/
def summary (c : Collector) : HttpSummary :=
  summarize c.http

end Collector

end HttpService

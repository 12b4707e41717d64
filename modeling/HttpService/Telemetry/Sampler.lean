import HttpService.Telemetry.Collector
import HttpService.Telemetry.Meters

/-!
# Host sampling

A background task reads the host at once and then at every interval, records what it reads, and
skips readings that fail. Stopping it ends the readings and keeps what was recorded.
-/

namespace HttpService

structure Sampler where
  interval : Nat
  /-- The numbers of the readings that fail. -/
  failing : List Nat
  reading : SystemMetric
  collector : Collector
  meters : Meters := {}
  now : Nat := 0
  calls : Nat := 0
  /-- When the next reading is due; nothing once the task has ended. -/
  due : Option Nat := some 0

namespace Sampler

/-- A task with an interval of zero ends before its first reading. -/
def start (interval : Nat) (failing : List Nat) (reading : SystemMetric) (collector : Collector) :
    Sampler :=
  { interval := interval, failing := failing, reading := reading, collector := collector
    due := if interval = 0 then none else some 0 }

/-- One reading. -/
def tick (s : Sampler) : Sampler :=
  if s.calls ∈ s.failing then { s with calls := s.calls + 1 }
  else
    { s with
      calls := s.calls + 1
      collector := s.collector.recordSystem s.reading
      meters := s.meters.recordSystem s.reading.cpuPercent s.reading.memoryPercent
        s.reading.diskPercent }

/-- Takes the readings that are due up to a time; each round moves the due time on. -/
def catchUp : Nat → Nat → Sampler → Sampler
  | 0, _, s => s
  | rounds + 1, until', s =>
      match s.due with
      | none => s
      | some t =>
          if t ≤ until' then catchUp rounds until' { s.tick with due := some (t + s.interval) }
          else s

/-- Lets a number of milliseconds pass. -/
def sleep (s : Sampler) (ms : Nat) : Sampler :=
  let until' := s.now + ms
  { catchUp (ms + 2) until' s with now := until' }

def stop (s : Sampler) : Sampler :=
  { s with due := none }

def finished (s : Sampler) : Bool :=
  s.due.isNone

end Sampler

end HttpService

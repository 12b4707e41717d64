import HttpService.Table

/-!
# Meters

Named counters, gauges and histograms with labels, each with its current value; a histogram's value
is the number of its observations. A meter exists once it has been touched.
-/

namespace HttpService

inductive MeterKind
  | counter
  | gauge
  | histogram
  deriving DecidableEq, Repr

def MeterKind.name : MeterKind → String
  | counter => "counter"
  | gauge => "gauge"
  | histogram => "histogram"

structure Meters where
  values : Table Float := []

namespace Meters

/-- Kind, name, and labels in ascending order. -/
def key (kind : MeterKind) (name : String) (labels : List (String × String)) : String :=
  kind.name ++ " " ++ name ++ "\x7b" ++
    ",".intercalate ((Table.ofList labels).map fun (k, v) => k ++ "=" ++ v) ++ "\x7d"

def add (m : Meters) (key : String) (amount : Float) : Meters :=
  ⟨m.values.insert key ((m.values.find? key).getD 0 + amount)⟩

def set (m : Meters) (key : String) (value : Float) : Meters :=
  ⟨m.values.insert key value⟩

def requestsTotal : String := "dfs_http_requests_total"
def requestDuration : String := "dfs_http_request_duration_seconds"
def inFlight : String := "dfs_http_in_flight_requests"
def rateLimitedTotal : String := "dfs_http_rate_limited_total"
def cpuPercent : String := "dfs_system_cpu_percent"
def memoryPercent : String := "dfs_system_memory_percent"
def diskPercent : String := "dfs_system_disk_percent"

/-- The meters that have a description. -/
def descriptions : List (MeterKind × String × String) :=
  [(.counter, requestsTotal, "Total number of HTTP requests handled"),
   (.histogram, requestDuration, "HTTP request duration in seconds"),
   (.gauge, inFlight, "HTTP requests currently being handled"),
   (.counter, rateLimitedTotal, "Requests rejected by the rate limiter"),
   (.gauge, cpuPercent, "Host CPU utilisation"),
   (.gauge, memoryPercent, "Host memory utilisation"),
   (.gauge, diskPercent, "Host disk utilisation")]

def recordRequest (m : Meters) (method path : String) (status : Nat) : Meters :=
  (m.add (key .counter requestsTotal
      [("method", method), ("path", path), ("status", toString status)]) 1).add
    (key .histogram requestDuration [("method", method), ("path", path)]) 1

def recordRateLimited (m : Meters) : Meters :=
  m.add (key .counter rateLimitedTotal []) 1

def recordSystem (m : Meters) (cpu memory disk : Float) : Meters :=
  ((m.set (key .gauge cpuPercent []) cpu).set (key .gauge memoryPercent []) memory).set
    (key .gauge diskPercent []) disk

/-- A request begins to be handled. -/
def enter (m : Meters) : Meters :=
  m.add (key .gauge inFlight []) 1

/-- A request is no longer handled. -/
def leave (m : Meters) : Meters :=
  m.add (key .gauge inFlight []) (-1)

end Meters

end HttpService

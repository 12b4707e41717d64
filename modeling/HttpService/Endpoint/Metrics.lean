import HttpService.Route.Router

/-!
# Metrics

A summary of the recorded requests, and the last sample of the host.
-/

namespace HttpService.Endpoint

def metrics : Handler :=
  fun _ _ => Act.update fun s =>
    (.ok (Response.ok (.object
      [("http", s.collector.summary.toJson),
       ("system", Json.ofOption SystemMetric.toJson s.collector.systemMetrics.getLast?)])), s)

def addMetrics (r : Router) : Router × Except Failure Unit :=
  r.handleAll none [(.get, "/metrics", metrics)]

end HttpService.Endpoint

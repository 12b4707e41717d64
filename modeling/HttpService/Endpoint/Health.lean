import HttpService.Route.Router

/-!
# Health

Tells that the service is up, and since when.
-/

namespace HttpService.Endpoint

def version : String := "0.1.0"

def health : Handler :=
  fun _ _ => Act.pure (.ok (Response.ok (.object [("status", .text "ok")])))

/-- The status of a service that started at a reading of the steady clock. -/
def status (started : Nat) : Handler :=
  fun _ _ => do
    let now ← Site.readClock
    Act.pure (.ok (Response.ok (.object
      [("status", .text "ok"), ("uptime_secs", Json.ofNat (Span.mk (now - started)).seconds),
       ("version", .text version)])))

def addHealth (r : Router) (started : Nat) : Router × Except Failure Unit :=
  r.handleAll none [(.get, "/health", health), (.get, "/status", status started)]

end HttpService.Endpoint

import HttpService.Stage.Basic

/-!
# Request metrics

Requests are counted while they are handled, and recorded once they are answered.
-/

namespace HttpService.Stage

def meter (f : Meters → Meters) : Act Flow Unit :=
  Flow.onSite (Act.modify fun s => { s with meters := f s.meters })

/-- Nanoseconds in milliseconds. -/
def milliseconds (nanos : Nat) : Float :=
  nanos.toFloat / 1000000

def metrics : Stage where
  name := "metrics"
  process request next := do
    meter Meters.enter
    let started ← Flow.onSite Site.readClock
    match ← Act.observe (next.run request) with
    | .done response =>
        let ended ← Flow.onSite Site.readClock
        let elapsed := milliseconds (ended - started)
        meter fun m => m.recordRequest request.method.name request.path response.status
        Flow.onSite (Act.modify fun s =>
          let metric := ⟨request.method.name, request.path, response.status, elapsed, s.today⟩
          { s with collector := s.collector.recordHttp metric })
        meter Meters.leave
        Act.pure response
    | ending =>
        meter Meters.leave
        Act.resume ending

end HttpService.Stage

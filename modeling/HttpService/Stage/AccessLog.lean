import HttpService.Stage.Basic

/-!
# Access log

One report for each request that is answered, at a level that depends on the status.
-/

namespace HttpService.Stage

def accessLog : Stage where
  name := "logging"
  process request next := do
    let response ← next.run request
    let c ← Flow.current
    Flow.report (Level.ofStatus response.status) "request completed"
      [("request_id", Flow.shownId c), ("method", request.method.name), ("path", request.path),
       ("remote_addr", (c.remote.map SocketAddress.toString).getD "-"),
       ("status", toString response.status)]
    Act.pure response

end HttpService.Stage

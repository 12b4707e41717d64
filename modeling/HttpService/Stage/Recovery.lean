import HttpService.Stage.Basic

/-!
# Recovery

A panic further in becomes an answer that tells the client nothing about it.
-/

namespace HttpService.Stage

/-- What every client sees of every panic. -/
def panicAnswer (requestId : Option String) : Response :=
  .ofFailure (.internal "internal server error") requestId

def recovery : Stage where
  name := "recovery"
  process request next := do
    match ← Act.observe (next.run request) with
    | .panicked p =>
        let c ← Flow.current
        Flow.report .error "handler panicked"
          [("request_id", Flow.shownId c), ("method", request.method.name),
           ("path", request.path), ("panic", p.message)]
        Act.pure (panicAnswer c.requestId)
    | ending => Act.resume ending

end HttpService.Stage

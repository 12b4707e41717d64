import HttpService.Stage.Basic

/-!
# Transactions around requests

A request that writes runs inside a transaction, which is committed if the response is a success or
a redirection and rolled back otherwise. A transaction whose request is dropped before it has an
outcome is left to the background.
-/

namespace HttpService.Stage

/-- Whether a response with this status keeps what its request has written. -/
def commits (status : Nat) : Bool :=
  200 ≤ status && status < 400

/-- Rolls back, and reports if that fails. -/
def undo (manager : TransactionManager) (id : String) (c : Context) : Act Flow Unit := do
  match ← Flow.onSite (Site.rollback manager id) with
  | .ok () => Act.pure ()
  | .error f =>
      Flow.report .error "rollback failed"
        [("request_id", Flow.shownId c), ("transaction_id", id), ("error", f.display)]

/-- Settles a transaction by the response that has come. -/
def settle (manager : TransactionManager) (id : String) (c : Context) (response : Response) :
    Act Flow Response := do
  if commits response.status then
    match ← Flow.onSite (Site.commit manager id) with
    | .ok () =>
        Flow.report .debug "transaction committed" [("transaction_id", id)]
        Act.pure response
    | .error f =>
        Flow.report .error "commit failed"
          [("request_id", Flow.shownId c), ("transaction_id", id), ("error", f.display)]
        let failed := (Failure.internal "failed to commit transaction").withCause (.failure f)
        Act.pure (.ofFailure failed c.requestId)
  else
    undo manager id c
    Flow.report .debug "transaction rolled back"
      [("transaction_id", id), ("status", toString response.status)]
    Act.pure response

def transaction (manager : TransactionManager) : Stage where
  name := "transaction"
  process request next := do
    if !request.method.isWrite then next.run request
    else
      let c ← Flow.current
      match ← Flow.onSite (Site.begin manager) with
      | .error f =>
          Flow.report .error "failed to begin transaction"
            [("request_id", Flow.shownId c), ("error", f.display)]
          Act.pure (.ofFailure f c.requestId)
      | .ok id =>
          Flow.setContext ((← Flow.current).setTransactionId id)
          match ← Act.observe (next.run request) with
          | .done response => settle manager id c response
          | .panicked p => do
              undo manager id c
              Act.panic p
          | .dropped => do
              Flow.onSite (Site.abandon manager id)
              Act.resume .dropped

end HttpService.Stage

import HttpService.Proofs.Files.Path
import HttpService.Proofs.Route.Selection
import HttpService.Proofs.Stage.Endpoint

/-!
# What the file endpoints pass on

An endpoint asks the store at most once, for its own operation and with the path that the request
gives, and only if that path is absolute. Any other request is refused as an invalid argument with
the store left alone. A failure of the store reaches the client with its code and message.
-/

namespace HttpService

/-- What can be asked of a file store. -/
inductive FileOperation
  | stat
  | list
  | makeDirectory
  | remove

/-- A call to a file store. -/
structure FileCall where
  operation : FileOperation
  path : String

namespace FileOperation

open Endpoint (PathSource)

def method : FileOperation → Method
  | stat | list => .get
  | makeDirectory => .post
  | remove => .delete

/-- The pattern of the operation's route. -/
def pattern : FileOperation → String
  | stat | remove => "/api/v1/files"
  | list => "/api/v1/files/list"
  | makeDirectory => "/api/v1/files/mkdir"

def source : FileOperation → PathSource
  | stat | list | remove => .query
  | makeDirectory => .body

def handler : FileOperation → FileStore → Handler
  | stat => Endpoint.stat
  | list => Endpoint.list
  | makeDirectory => Endpoint.makeDirectory
  | remove => Endpoint.remove

/-- What the store answers if the operation succeeds. -/
def Result : FileOperation → Type
  | stat | makeDirectory => FileInfo
  | list => List FileInfo
  | remove => Unit

def ask : (op : FileOperation) → FileStore → String → Act Site (Except Failure op.Result)
  | stat, store => store.stat
  | list, store => store.list
  | makeDirectory, store => store.makeDirectory
  | remove, store => store.remove

def render : (op : FileOperation) → op.Result → Response
  | stat, (info : FileInfo) => Response.ok info.toJson
  | list, (infos : List FileInfo) => Response.ok (.array (infos.map FileInfo.toJson))
  | makeDirectory, (info : FileInfo) => Response.created info.toJson
  | remove, _ => Response.noContent

end FileOperation

/-- A store that marks the site with each call before it asks another store. -/
def FileStore.marking (mark : FileCall → Site → Site) (store : FileStore) : FileStore where
  stat path := Act.modify (mark ⟨.stat, path⟩) >>= fun _ => store.stat path
  list path := Act.modify (mark ⟨.list, path⟩) >>= fun _ => store.list path
  makeDirectory path := Act.modify (mark ⟨.makeDirectory, path⟩) >>= fun _ =>
    store.makeDirectory path
  remove path := Act.modify (mark ⟨.remove, path⟩) >>= fun _ => store.remove path

/-- The flow with the marks of some calls on its site. -/
def Flow.marked (mark : FileCall → Site → Site) (calls : List FileCall) (flow : Flow) : Flow :=
  { flow with site := calls.foldl (fun site call => mark call site) flow.site }

namespace FileOperation

variable (op : FileOperation) (store : FileStore)

theorem handler_eq (context : Context) (request : Request) :
    op.handler store context request =
      Act.attempt (Act.pure (op.source.read request)) fun path =>
        Act.attempt (op.ask store path) fun a => Act.pure (.ok (op.render a)) := by
  cases op <;> rfl

theorem ask_marking (mark : FileCall → Site → Site) (path : String) (site : Site) :
    op.ask (store.marking mark) path site = op.ask store path (mark ⟨op, path⟩ site) := by
  cases op <;> rfl

/-- How an endpoint can end, with the calls it has made by then, if these have left the site as it is
in the flow: it has refused a request without an absolute path and made none, or it has asked the
store once, with the path that the request gives, and ends as the store has ended. -/
inductive Outcome (request : Request) (flow : Flow) :
    List FileCall → Ending Response × Flow → Prop
  | refused {f : Failure} {r : Response} (refuses : op.source.Refuses request f)
      (unfit : ∀ path, op.source.Gives request path → ¬ IsAbsolute path)
      (invalid : f.code = .invalidArgument) (conveys : r.Conveys f flow.context.requestId) :
      Outcome request flow [] (.done r, flow)
  | answered {path : String} {a : op.Result} {site : Site} (gives : op.source.Gives request path)
      (fits : IsAbsolute path) (asked : op.ask store path flow.site = (.done (.ok a), site)) :
      Outcome request flow [⟨op, path⟩] (.done (op.render a), { flow with site := site })
  | failed {path : String} {f : Failure} {site : Site} {r : Response}
      (gives : op.source.Gives request path) (fits : IsAbsolute path)
      (asked : op.ask store path flow.site = (.done (.error f), site))
      (conveys : r.Conveys f flow.context.requestId) :
      Outcome request flow [⟨op, path⟩]
        (.done r, { flow with site := Next.noted f flow.context.requestId site })
  | panicked {path : String} {p : Panic} {site : Site} (gives : op.source.Gives request path)
      (fits : IsAbsolute path) (asked : op.ask store path flow.site = (.panicked p, site)) :
      Outcome request flow [⟨op, path⟩] (.panicked p, { flow with site := site })
  | dropped {path : String} {site : Site} (gives : op.source.Gives request path)
      (fits : IsAbsolute path) (asked : op.ask store path flow.site = (.dropped, site)) :
      Outcome request flow [⟨op, path⟩] (.dropped, { flow with site := site })

section

variable {op store} {request : Request} {flow : Flow}

/-- Once a path has been read, the handler ends as the store does. -/
theorem handler_of_read {path : String} (read : op.source.read request = .ok path)
    (other : FileStore) (context : Context) : op.handler other context request =
      Act.attempt (op.ask other path) fun a => Act.pure (.ok (op.render a)) := by
  rw [handler_eq, read]
  rfl

theorem outcome_of_gives {path : String} (read : op.source.read request = .ok path)
    (gives : op.source.Gives request path) (fits : IsAbsolute path)
    (mark : FileCall → Site → Site) :
    op.Outcome store request (flow.marked mark [⟨op, path⟩]) [⟨op, path⟩]
      ((Next.endpoint (op.handler (store.marking mark))).run request flow) := by
  have asked := op.ask_marking store mark path flow.site
  have handled := handler_of_read read (store.marking mark) flow.context
  cases run : op.ask store path (mark ⟨op, path⟩ flow.site) with
  | mk ending site =>
      rw [run] at asked
      cases ending with
      | done outcome =>
          cases outcome with
          | ok a =>
              rw [Next.endpoint_ok (by rw [handled]; exact Act.attempt_ok asked _)]
              exact .answered gives fits run
          | error f =>
              rw [Next.endpoint_error (by rw [handled]; exact Act.attempt_error asked _)]
              exact .failed gives fits run (Response.conveys_ofFailure f _)
      | panicked p =>
          rw [Next.endpoint_panicked (by rw [handled]; exact Act.attempt_panicked asked _)]
          exact .panicked gives fits run
      | dropped =>
          rw [Next.endpoint_dropped (by rw [handled]; exact Act.attempt_dropped asked _)]
          exact .dropped gives fits run

theorem outcome_of_refuses {f : Failure} (read : op.source.read request = .error f)
    (refuses : op.source.Refuses request f) (other : FileStore) :
    op.Outcome store request flow [] ((Next.endpoint (op.handler other)).run request flow) := by
  have refused : op.handler other flow.context request flow.site =
      (.done (.error f), flow.site) := by
    rw [handler_eq, read]
    rfl
  have status : f.status = 400 := by rw [Failure.status, refuses.code]; rfl
  have quiet : Next.noted f flow.context.requestId flow.site = flow.site := by
    simp [Next.noted, status]
  rw [Next.endpoint_error refused, quiet]
  exact .refused refuses (fun _ => refuses.not_absolute) refuses.code (Response.conveys_ofFailure f _)

end

/-- The calls of an endpoint as the marks on the site show them. -/
theorem exists_outcome (mark : FileCall → Site → Site) (request : Request) (flow : Flow) :
    ∃ calls, op.Outcome store request (flow.marked mark calls) calls
      ((Next.endpoint (op.handler (store.marking mark))).run request flow) := by
  rcases op.source.read_cases request with ⟨path, gives, fits, read⟩ | ⟨f, refuses, read⟩
  · exact ⟨_, outcome_of_gives read gives fits mark⟩
  · exact ⟨[], outcome_of_refuses read refuses _⟩

/-! ## Behind stages -/

/-- What becomes of a request that passes stages on its way to the endpoint: it reaches the endpoint
once, or a stage answers it and no handler makes a difference. -/
inductive Served (mark : FileCall → Site → Site) (stages : List Stage) (request : Request)
    (flow : Flow) : Ending Response × Flow → Prop
  | reached {stops : List Stop} {request' : Request} {flow' : Flow} {calls : List FileCall}
      {out : Ending Response × Flow}
      (way : WayIn (.endpoint (op.handler (store.marking mark))) stages request flow stops
        request' flow')
      (outcome : op.Outcome store request' (flow'.marked mark calls) calls out) :
      Served mark stages request flow (wayOut stops out)
  | turned {out : Ending Response × Flow}
      (ends : ∀ other : Handler, (compose stages (.endpoint other)).run request flow = out) :
      Served mark stages request flow out

variable {op store} {mark : FileCall → Site → Site} {stages : List Stage} {request : Request}
  {flow : Flow}

theorem served_of_goesOnOnce (single : ∀ stage ∈ stages, stage.GoesOnOnce) :
    op.Served store mark stages request flow
      ((compose stages (.endpoint (op.handler (store.marking mark)))).run request flow) := by
  have journey := journey_run single (.endpoint (op.handler (store.marking mark))) request flow
  generalize (compose stages _).run request flow = out at journey ⊢
  cases journey with
  | through way =>
      obtain ⟨calls, outcome⟩ := op.exists_outcome store mark _ _
      exact .reached way outcome
  | turned split way ends =>
      subst split
      exact .turned fun other => way.run_of_ends ends rfl

end FileOperation

end HttpService

import HttpService.Proofs.Act
import HttpService.Proofs.Message.Envelope

/-!
# How a handler's outcome is answered

The endpoint gives the handler the context and takes back nothing of it: what it adds to a flow is
what the handler has done to the site, and the report of a failure that is the service's own. The
client is told a failure's code and message as they are.
-/

namespace HttpService

/-- The answer conveys the failure to the client: whatever data it expects, it reads the code, the
message and the request id. -/
structure Response.Conveys (r : Response) (f : Failure) (requestId : Option String) : Prop where
  status_eq : r.status = f.status
  read_eq : ∀ (α : Type) (data : Json.Reader α),
    Json.read (Envelope.reader data) r.body =
      .ok ⟨false, none, some ⟨f.code.name, f.message, requestId⟩⟩

theorem Response.conveys_ofFailure (f : Failure) (requestId : Option String) :
    (ofFailure f requestId).Conveys f requestId :=
  ⟨status_ofFailure f requestId, fun _ data => Envelope.read_ofFailure data f requestId⟩

namespace Next

/-- The site after a failure has been answered. -/
def noted (f : Failure) (requestId : Option String) (site : Site) : Site :=
  if 500 ≤ f.status ∧ f.status ≤ 599 then
    site.record .error "handler failed"
      [("request_id", Text.quotedOption requestId), ("error", f.display)] .endpoint
  else site

variable {handler : Handler} {request : Request} {flow : Flow} {site : Site}

theorem endpoint_ok {response : Response}
    (answers : handler flow.context request flow.site = (.done (.ok response), site)) :
    (endpoint handler).run request flow = (.done response, { flow with site := site }) :=
  Flow.onSite_done answers _

theorem endpoint_error {f : Failure}
    (fails : handler flow.context request flow.site = (.done (.error f), site)) :
    (endpoint handler).run request flow =
      (.done (Response.ofFailure f flow.context.requestId),
        { flow with site := noted f flow.context.requestId site }) := by
  refine (Flow.onSite_done fails _).trans ?_
  unfold noted
  by_cases own : 500 ≤ f.status ∧ f.status ≤ 599
  · have reported : (decide (500 ≤ f.status) && decide (f.status ≤ 599)) = true := by
      simpa using own
    simp only [reported, if_pos own]
    rfl
  · have quiet : (decide (500 ≤ f.status) && decide (f.status ≤ 599)) = false := by
      simpa using own
    simp only [quiet, if_neg own]
    rfl

theorem endpoint_panicked {p : Panic}
    (panics : handler flow.context request flow.site = (.panicked p, site)) :
    (endpoint handler).run request flow = (.panicked p, { flow with site := site }) :=
  Flow.onSite_panicked panics _

theorem endpoint_dropped
    (drops : handler flow.context request flow.site = (.dropped, site)) :
    (endpoint handler).run request flow = (.dropped, { flow with site := site }) :=
  Flow.onSite_dropped drops _

theorem signals_noted (f : Failure) (requestId : Option String) (site : Site) :
    (noted f requestId site).signals = site.signals := by
  unfold noted
  split <;> rfl

/-- Nothing that a handler does to its context comes back, but what it does to the signals does. -/
theorem endpoint_keeps (handler : Handler) (request : Request) (flow : Flow) :
    ((endpoint handler).run request flow).2.context = flow.context ∧
      ((endpoint handler).run request flow).2.site.signals =
        (handler flow.context request flow.site).2.signals := by
  cases run : handler flow.context request flow.site with
  | mk ending site =>
      cases ending with
      | done outcome =>
          cases outcome with
          | ok response => exact endpoint_ok run ▸ ⟨rfl, rfl⟩
          | error f => exact endpoint_error run ▸ ⟨rfl, signals_noted f _ site⟩
      | panicked p => exact endpoint_panicked run ▸ ⟨rfl, rfl⟩
      | dropped => exact endpoint_dropped run ▸ ⟨rfl, rfl⟩

end Next

end HttpService

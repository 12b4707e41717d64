import HttpService.Proofs.Act
import HttpService.Stage.AccessLog
import HttpService.Stage.Authentication
import HttpService.Stage.Cors
import HttpService.Stage.Metrics
import HttpService.Stage.RateLimit
import HttpService.Stage.Recovery
import HttpService.Stage.RequestId
import HttpService.Stage.Timeout
import HttpService.Stage.Transaction

/-!
# What clients are told of failures and panics

Of a failure a client is told the code and the message, of a panic nothing at all: runs that differ
only in the rest are answered alike. The one thing that the answer to a panic depends on is the
request id, which no stage changes once it is set.
-/

namespace HttpService

/-! ## Failures -/

/-- Failures that differ in nothing a client is told. -/
structure Failure.Alike (f g : Failure) : Prop where
  code : f.code = g.code
  message : f.message = g.message

namespace Failure.Alike

variable {f g : Failure}

theorem status_eq (alike : f.Alike g) : f.status = g.status :=
  congrArg Code.status alike.code

end Failure.Alike

/-- Handlers that do the same, up to what clients are not told of their failures. -/
def Handler.Alike (h h' : Handler) : Prop :=
  ∀ c request site, h c request site = h' c request site ∨
    ∃ f g after, f.Alike g ∧ h c request site = (.done (.error f), after) ∧
      h' c request site = (.done (.error g), after)

/-- The flow has this request id. -/
def HasId (id : Option String) (f : Flow) : Prop :=
  f.context.requestId = id

namespace Act.Preserves

variable {α β : Type} {id : Option String}

theorem onSite (m : Act Site α) : Preserves (HasId id) (Flow.onSite m) :=
  fun _ is => is

/-- A context read off the flow has the flow's id. -/
theorem current {k : Context → Act Flow β}
    (rest : ∀ c, c.requestId = id → Preserves (HasId id) (k c)) :
    Preserves (HasId id) (Flow.current >>= k) :=
  fun f is => rest f.context is f is

theorem setContext {c : Context} (is : c.requestId = id) :
    Preserves (HasId id) (Flow.setContext c) :=
  fun _ _ => is

/-- The time limit is on the site, and the context that is left is the inner act's. -/
theorem within {m : Act Flow α} (holds : Preserves (HasId id) m) (budget : Span) :
    Preserves (HasId id) (Stage.within budget m) := by
  intro f is
  let due := Site.roundUp (f.site.now + budget.nanos)
  let limit := if Stage.comesFirst due f.site.limit then some due else f.site.limit
  have same : (Stage.within budget m f).2.context =
      (m { f with site := { f.site with limit := limit } }).2.context := by
    unfold Stage.within
    dsimp only
    split <;> rfl
  unfold HasId
  rw [same]
  exact holds _ is

end Act.Preserves

/-- Nothing that lies on the way changes the request id. -/
def Next.KeepsId (next : Next) : Prop :=
  ∀ id request, (next.run request).Preserves (HasId id)

/-- The stage does not change the request id, unless something behind it does. -/
def Stage.KeepsId (stage : Stage) : Prop :=
  ∀ next : Next, next.KeepsId → (Next.through stage next).KeepsId

theorem Next.keepsId_endpoint (handler : Handler) : (endpoint handler).KeepsId := by
  intro id request
  refine .current fun c is => ?_
  refine .bind (.onSite _) fun outcome => ?_
  cases outcome with
  | ok response => exact .pure response
  | error f =>
      dsimp only
      split
      · exact .bind (.onSite _) fun _ => .pure _
      · exact .pure _

theorem keepsId_compose {stages : List Stage} (keep : ∀ stage ∈ stages, stage.KeepsId)
    {terminal : Next} (kept : terminal.KeepsId) : (compose stages terminal).KeepsId := by
  induction stages with
  | nil => exact kept
  | cons stage stages ih =>
      have inner := ih fun s member => keep s (List.mem_cons_of_mem _ member)
      exact keep stage List.mem_cons_self _ inner

/-! ### The service's own stages -/

namespace Stage

theorem keepsId_accessLog : accessLog.KeepsId := by
  intro next kept id request
  refine .bind (kept id request) fun response => ?_
  refine .current fun c is => ?_
  exact .bind (.onSite _) fun _ => .pure response

theorem keepsId_recovery : recovery.KeepsId := by
  intro next kept id request
  refine .bind (kept id request).observe fun ending => ?_
  cases ending with
  | panicked p =>
      refine .current fun c is => ?_
      exact .bind (.onSite _) fun _ => .pure _
  | done response => exact .resume _
  | dropped => exact .resume _

theorem keepsId_metrics : metrics.KeepsId := by
  intro next kept id request
  refine .bind (.onSite _) fun _ => ?_
  refine .bind (.onSite _) fun started => ?_
  refine .bind (kept id request).observe fun ending => ?_
  cases ending with
  | done response =>
      refine .bind (.onSite _) fun ended => ?_
      refine .bind (.onSite _) fun _ => ?_
      refine .bind (.onSite _) fun _ => ?_
      exact .bind (.onSite _) fun _ => .pure response
  | panicked p => exact .bind (.onSite _) fun _ => .resume _
  | dropped => exact .bind (.onSite _) fun _ => .resume _

theorem keepsId_cors (p : CorsPolicy) : (cors p).KeepsId := by
  intro next kept id request
  change Act.Preserves (HasId id) (if request.method = .options then _ else _)
  split
  · exact .bind (.pure _) fun response => .pure _
  · exact .bind (kept id request) fun response => .pure _

theorem keepsId_rateLimit (limiter : Nat) (rate : RateLimit) :
    (rateLimit limiter rate).KeepsId := by
  intro next kept id request
  refine .current fun c is => ?_
  refine .bind (.onSite _) fun decision => ?_
  cases decision with
  | limited retryAfter =>
      refine .bind (.onSite _) fun _ => ?_
      exact .bind (.onSite _) fun _ => .pure _
  | overflow => exact .panic _
  | allowed remaining => exact .bind (kept id request) fun response => .pure _

theorem keepsId_timeout (duration : Span) : (timeout duration).KeepsId := by
  intro next kept id request
  refine .current fun c is => ?_
  refine .bind (.onSite _) fun now => ?_
  refine .bind (.onSite _) fun started => ?_
  split
  · exact .panic _
  · refine .bind (.setContext is) fun _ => ?_
    refine .bind ((kept id request).within _) fun answer => ?_
    cases answer with
    | some response => exact .pure response
    | none =>
        refine .bind (.onSite _) fun _ => ?_
        exact .bind (.onSite _) fun _ => .pure _

theorem keepsId_authentication (g : Gatekeeper) : (authentication g).KeepsId := by
  intro next kept id request
  change Act.Preserves (HasId id) (if g.isPublic request.path then _ else _)
  split
  · exact kept id request
  · refine .bind (.onSite _) fun answer => ?_
    cases answer with
    | error f =>
        refine .current fun c is => ?_
        exact .bind (.onSite _) fun _ => .pure _
    | ok user =>
        refine .current fun c is => ?_
        refine .bind (.onSite _) fun _ => ?_
        exact .bind (.setContext is) fun _ => kept id request

theorem preserves_undo (manager : TransactionManager) (tx : String) (c : Context)
    (id : Option String) : (undo manager tx c).Preserves (HasId id) := by
  refine .bind (.onSite _) fun outcome => ?_
  cases outcome with
  | ok _ => exact .pure _
  | error f => exact .onSite _

theorem preserves_settle (manager : TransactionManager) (tx : String) (c : Context)
    (response : Response) (id : Option String) :
    (settle manager tx c response).Preserves (HasId id) := by
  unfold settle
  split
  · refine .bind (.onSite _) fun outcome => ?_
    cases outcome with
    | ok _ => exact .bind (.onSite _) fun _ => .pure response
    | error f => exact .bind (.onSite _) fun _ => .pure _
  · refine .bind (preserves_undo manager tx c id) fun _ => ?_
    exact .bind (.onSite _) fun _ => .pure response

/-- Whether it settles the transaction, raises a panic again or leaves the transaction. -/
theorem keepsId_transaction (manager : TransactionManager) : (transaction manager).KeepsId := by
  intro next kept id request
  change Act.Preserves (HasId id) (if !request.method.isWrite then _ else _)
  split
  · exact kept id request
  · refine .current fun c is => ?_
    refine .bind (.onSite _) fun begun => ?_
    cases begun with
    | error f => exact .bind (.onSite _) fun _ => .pure _
    | ok tx =>
        refine .current fun c' is' => ?_
        refine .bind (.setContext is') fun _ => ?_
        refine .bind (kept id request).observe fun ending => ?_
        cases ending with
        | done response => exact preserves_settle manager tx c response id
        | panicked p => exact .bind (preserves_undo manager tx c id) fun _ => .panic _
        | dropped => exact .bind (.onSite _) fun _ => .resume _

/-- The service's own stages but for the one that sets the request id. -/
inductive Standard : Stage → Prop
  | accessLog : Standard accessLog
  | recovery : Standard recovery
  | metrics : Standard metrics
  | cors (p : CorsPolicy) : Standard (cors p)
  | rateLimit (limiter : Nat) (rate : RateLimit) : Standard (rateLimit limiter rate)
  | timeout (duration : Span) : Standard (timeout duration)
  | authentication (g : Gatekeeper) : Standard (authentication g)
  | transaction (manager : TransactionManager) : Standard (transaction manager)

theorem Standard.keepsId {stage : Stage} (standard : stage.Standard) : stage.KeepsId := by
  cases standard with
  | accessLog => exact keepsId_accessLog
  | recovery => exact keepsId_recovery
  | metrics => exact keepsId_metrics
  | cors p => exact keepsId_cors p
  | rateLimit limiter rate => exact keepsId_rateLimit limiter rate
  | timeout duration => exact keepsId_timeout duration
  | authentication g => exact keepsId_authentication g
  | transaction manager => exact keepsId_transaction manager

/-- The id that a request is given: its client's, or else a fresh one. -/
def givenId (request : Request) (site : Site) : String :=
  match incomingId? request.headers with
  | some (id, _) => id
  | none => (Uuid.ofSeed site.seed).toString

/-- Behind the stage that sets it the id stays. -/
theorem requestId_process {next : Next} (kept : next.KeepsId) (request : Request) (flow : Flow) :
    (requestId.process request next flow).2.context.requestId =
      some (givenId request flow.site) := by
  have onward (id header : String) : Act.Preserves (HasId (some id)) (next.run
      { request with headers := request.headers.insert requestIdHeader header } >>=
        fun response => Act.pure (response.withHeader requestIdHeader header)) :=
    .bind (kept _ _) fun response => .pure _
  have set (id header : String) (site : Site) :=
    onward id header { context := flow.context.setRequestId id, site := site } rfl
  unfold givenId requestId
  dsimp only
  cases incomingId? request.headers with
  | some found => exact set found.1 found.2 flow.site
  | none => exact set _ _ { flow.site with seed := flow.site.seed + 1 }

/-! ## Panics -/

section Recovery

variable {request : Request} {next : Next} {flow g : Flow}

end Recovery

end Stage

end HttpService

import HttpService.Proofs.Stage.Onion
import HttpService.Stage.AccessLog
import HttpService.Stage.Authentication
import HttpService.Stage.Cors
import HttpService.Stage.Metrics
import HttpService.Stage.RateLimit
import HttpService.Stage.Recovery
import HttpService.Stage.RequestId
import HttpService.Stage.Timeout
import HttpService.Stage.Transaction

/-!
# How stages treat what lies behind them

A stage forwards if it goes on at most once, and then with the route parameters that it was given.
The service's own stages all do, and what they do not set themselves they pass on like these. Behind
stages that keep the parameters only what they do with these parameters counts.
-/

namespace HttpService

/-- Acts that cannot be told apart on flows with these parameters. -/
def SameOn (params : Table String) (a b : Request → Act Flow Response) : Prop :=
  ∀ request flow, flow.context.params = params → a request flow = b request flow

/-- The stage sets no route parameters before it goes on: what lies behind it counts only for the
parameters that the stage was given itself. -/
def Stage.KeepsParams (stage : Stage) : Prop :=
  ∀ (params : Table String) (next other : Next), next.label = other.label →
    SameOn params next.run other.run →
      SameOn params (fun request => stage.process request next)
        fun request => stage.process request other

theorem SameOn.compose {params : Table String} {next other : Next} {stages : List Stage}
    (keep : ∀ stage ∈ stages, stage.KeepsParams) (label : next.label = other.label)
    (same : SameOn params next.run other.run) :
    SameOn params (compose stages next).run (HttpService.compose stages other).run := by
  induction stages with
  | nil => exact same
  | cons stage stages ih =>
      have inner := ih fun s member => keep s (List.mem_cons_of_mem _ member)
      exact keep stage List.mem_cons_self params _ _ (label_compose label stages) inner

/-! ## Forwarding -/

/-- With this flow the act runs what lies behind it once, in a context where this is seen, or not at
all. -/
def Forwards {β : Type} (seen : Context → β) (value : β) (flow : Flow)
    (m : Next → Act Flow Response) : Prop :=
  (∃ request' flow', seen flow'.context = value ∧
      ∀ label (next : Next), next.label = label →
        m next flow = m ⟨label, fun _ _ => next.run request' flow'⟩ flow) ∨
    ∃ out, ∀ next : Next, m next flow = out

namespace Forwards

variable {α β : Type} {seen : Context → β} {value : β} {flow : Flow}

theorem const (a : Act Flow Response) : Forwards seen value flow fun _ => a :=
  .inr ⟨a flow, fun _ => rfl⟩

theorem run (kept : seen flow.context = value) (request : Request)
    (k : Response → Act Flow Response) :
    Forwards seen value flow fun next => next.run request >>= k :=
  .inl ⟨request, flow, kept, fun _ _ _ => rfl⟩

theorem observe (kept : seen flow.context = value) (request : Request)
    (k : Ending Response → Act Flow Response) :
    Forwards seen value flow fun next => Act.observe (next.run request) >>= k :=
  .inl ⟨request, flow, kept, fun _ _ _ => rfl⟩

theorem last (kept : seen flow.context = value) (request : Request) :
    Forwards seen value flow fun next => next.run request :=
  .inl ⟨request, flow, kept, fun _ _ _ => rfl⟩

/-- The flow that goes on has a limit of its own. -/
theorem within (kept : seen flow.context = value) (budget : Span) (request : Request)
    (k : Option Response → Act Flow Response) :
    Forwards seen value flow fun next => Stage.within budget (next.run request) >>= k := by
  let due := Site.roundUp (flow.site.now + budget.nanos)
  let limit := if Stage.comesFirst due flow.site.limit then some due else flow.site.limit
  exact .inl ⟨request, { flow with site := { flow.site with limit := limit } }, kept,
    fun _ _ _ => rfl⟩

theorem ite {condition : Prop} [Decidable condition] {m m' : Next → Act Flow Response}
    (holds : condition → Forwards seen value flow m)
    (fails : ¬ condition → Forwards seen value flow m') :
    Forwards seen value flow fun next => if condition then m next else m' next := by
  by_cases h : condition
  · simpa only [if_pos h] using holds h
  · simpa only [if_neg h] using fails h

/-- After a first act that has nothing to do with what lies behind. -/
theorem bind {a : Act Flow α} {k : α → Next → Act Flow Response}
    (rest : ∀ x flow', a flow = (.done x, flow') → Forwards seen value flow' (k x)) :
    Forwards seen value flow fun next => a >>= fun x => k x next := by
  cases first : a flow with
  | mk ending flow' =>
      cases ending with
      | done x =>
          have continued (next : Next) : (a >>= fun x => k x next) flow = k x next flow' :=
            Act.bind_done first _
          obtain ⟨request', flow'', kept, same⟩ | ⟨out, same⟩ := rest x flow' first
          · refine .inl ⟨request', flow'', kept, fun label next labelled => ?_⟩
            exact (continued next).trans ((same label next labelled).trans (continued _).symm)
          · exact .inr ⟨out, fun next => (continued next).trans (same next)⟩
      | panicked p => exact .inr ⟨(.panicked p, flow'), fun _ => Act.bind_panicked first _⟩
      | dropped => exact .inr ⟨(.dropped, flow'), fun _ => Act.bind_dropped first _⟩

theorem onSite {m : Act Site α} {k : α → Next → Act Flow Response}
    (rest : ∀ x site, Forwards seen value { flow with site := site } (k x)) :
    Forwards seen value flow fun next => Flow.onSite m >>= fun x => k x next :=
  bind fun x flow' done => by
    have shape : { flow with site := (m flow.site).2 } = flow' := congrArg Prod.snd done
    exact shape ▸ rest x _

theorem current {k : Context → Next → Act Flow Response}
    (rest : Forwards seen value flow (k flow.context)) :
    Forwards seen value flow fun next => Flow.current >>= fun c => k c next :=
  bind fun c flow' done => by
    cases done
    exact rest

theorem setContext {c : Context} {k : Next → Act Flow Response}
    (rest : Forwards seen value { flow with context := c } k) :
    Forwards seen value flow fun next => Flow.setContext c >>= fun _ => k next :=
  bind fun _ flow' done => by
    cases done
    exact rest

end Forwards

/-- The stage forwards every request, and what lies behind it sees as much of the context as the
stage itself. -/
def Stage.PassesOn {β : Type} (stage : Stage) (seen : Context → β) : Prop :=
  ∀ request flow, Forwards seen (seen flow.context) flow (stage.process request)

namespace Stage.PassesOn

variable {β : Type} {stage : Stage} {seen : Context → β}

theorem goesOnOnce (passes : stage.PassesOn seen) : stage.GoesOnOnce := by
  intro label request flow
  by_cases ends : ∃ out, Stop.Ends ⟨stage, label, request, flow⟩ out
  · exact .inr ends
  · obtain ⟨request', flow', -, same⟩ | ⟨out, same⟩ := passes request flow
    · exact .inl ⟨request', flow', same label, ends⟩
    · exact .inr ⟨out, fun next _ => same next⟩

/-- Wherever the stage goes on, it does so with what it was given. -/
theorem seen_eq (passes : stage.PassesOn seen) {label : Option String}
    {request request' : Request} {flow flow' : Flow}
    (onward : Stop.GoesOn ⟨stage, label, request, flow⟩ request' flow') :
    seen flow'.context = seen flow.context := by
  obtain ⟨given, with', kept, same⟩ | ⟨out, same⟩ := passes request flow
  · obtain ⟨-, rfl⟩ := Stop.GoesOn.unique ⟨same label, onward.depends⟩ onward
    exact kept
  · exact absurd ⟨out, fun next _ => same next⟩ onward.depends

end Stage.PassesOn

/-- The stage forwards every request with the parameters that have come with it. -/
def Stage.Forwarding (stage : Stage) : Prop :=
  stage.PassesOn Context.params

namespace Stage.Forwarding

variable {stage : Stage}

theorem goesOnOnce (forwarding : stage.Forwarding) : stage.GoesOnOnce :=
  PassesOn.goesOnOnce forwarding

theorem keepsParams (forwarding : stage.Forwarding) : stage.KeepsParams := by
  intro params next other label same request flow kept
  change stage.process request next flow = stage.process request other flow
  obtain ⟨request', flow', given, through⟩ | ⟨out, ends⟩ := forwarding request flow
  · rw [through _ next rfl, through _ other label.symm, same request' flow' (given.trans kept)]
  · rw [ends next, ends other]

end Stage.Forwarding

/-! ## The service's own stages -/

namespace Stage

section

variable {β : Type} (seen : Context → β)

theorem passesOn_accessLog : accessLog.PassesOn seen :=
  fun request _ => .run rfl request _

theorem passesOn_recovery : recovery.PassesOn seen :=
  fun request _ => .observe rfl request _

theorem passesOn_metrics : metrics.PassesOn seen := by
  intro request flow
  refine .onSite fun _ entered => ?_
  refine .onSite fun started read => ?_
  exact .observe (by rfl) request _

theorem passesOn_cors (p : CorsPolicy) : (cors p).PassesOn seen := by
  intro request flow
  unfold cors
  refine .ite (fun preflight => ?_) fun other => ?_
  · exact .const _
  · exact .run (by rfl) request _

theorem passesOn_rateLimit (limiter : Nat) (rate : RateLimit) :
    (rateLimit limiter rate).PassesOn seen := by
  intro request flow
  refine .current ?_
  refine .onSite fun decision decided => ?_
  cases decision with
  | limited retryAfter => exact .const _
  | overflow => exact .const _
  | allowed remaining =>
      dsimp only
      exact .run (by rfl) request _

end

section

variable {β : Type} {seen : Context → β}

theorem passesOn_requestId (other : ∀ c id, seen (c.setRequestId id) = seen c) :
    requestId.PassesOn seen := by
  intro request flow
  have rest (found : String × String) (site : Site) :
      Forwards seen (seen flow.context) { flow with site := site } fun next => (do
        let c ← Flow.current
        Flow.setContext (c.setRequestId found.1)
        let response ← next.run
          { request with headers := request.headers.insert requestIdHeader found.2 }
        Act.pure (response.withHeader requestIdHeader found.2)) := by
    refine .current ?_
    refine .setContext ?_
    exact .run (other _ _) _ _
  unfold requestId
  dsimp only
  cases incomingId? request.headers with
  | some found => exact rest found flow.site
  | none => exact .onSite fun n site => rest _ site

theorem passesOn_timeout (duration : Span) (other : ∀ c due, seen (c.setDeadline due) = seen c) :
    (timeout duration).PassesOn seen := by
  intro request flow
  refine .current ?_
  refine .onSite fun now read => ?_
  refine .onSite fun started readAgain => ?_
  refine .ite (fun late => .const _) fun early => ?_
  refine .setContext ?_
  exact .within (other _ _) _ request _

theorem passesOn_authentication (g : Gatekeeper) (other : ∀ c u, seen (c.setUser u) = seen c) :
    (authentication g).PassesOn seen := by
  intro request flow
  refine .ite (fun exempt => .last rfl request) fun guarded => ?_
  refine .onSite fun answer asked => ?_
  cases answer with
  | error f => exact .const _
  | ok user =>
      refine .current ?_
      refine .onSite fun _ reported => ?_
      refine .setContext ?_
      exact .last (other _ _) request

theorem passesOn_transaction (manager : TransactionManager)
    (other : ∀ c id, seen (c.setTransactionId id) = seen c) :
    (transaction manager).PassesOn seen := by
  intro request flow
  refine .ite (fun reads => .last rfl request) fun writes => ?_
  refine .current ?_
  refine .onSite fun begun asked => ?_
  cases begun with
  | error f => exact .const _
  | ok id =>
      refine .current ?_
      refine .setContext ?_
      exact .observe (other _ _) request _

end

theorem forwarding_accessLog : accessLog.Forwarding :=
  passesOn_accessLog _

theorem forwarding_recovery : recovery.Forwarding :=
  passesOn_recovery _

theorem forwarding_cors (p : CorsPolicy) : (cors p).Forwarding :=
  passesOn_cors _ p

end Stage

end HttpService

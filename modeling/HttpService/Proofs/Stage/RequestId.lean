import HttpService.Proofs.Message.Envelope
import HttpService.Proofs.Stage.Disclosure
import HttpService.Proofs.Uuid

/-!
# One request id for each request

A request is given an id and a header: its own header and what is left of that without the blanks
around it, or else a fresh id, which is both. Behind the stage that does so the header is the
request's and the response's, and the id is in every context and in the envelope of every failure.
The two are the same text unless the header has blanks around it.
-/

namespace HttpService

/-! ## What a request is given -/

namespace Stage

/-- The header that a request is given: its own if that is text and not blank, or else a fresh
id. -/
def givenHeader (request : Request) (site : Site) : String :=
  match incomingId? request.headers with
  | some (_, header) => header
  | none => (Uuid.ofSeed site.seed).toString

/-- The request as the stages behind see it. -/
def withId (request : Request) (header : String) : Request :=
  { request with headers := request.headers.insert requestIdHeader header }

section

variable {h : Headers} {request : Request} {site : Site}

theorem incomingId?_of_text {header : String} (text : h.text? requestIdHeader = some header)
    (full : Text.blank header = false) : incomingId? h = some (Text.trim header, header) := by
  simp [incomingId?, text, full]

theorem incomingId?_of_blank
    (blank : ∀ header, h.text? requestIdHeader = some header → Text.blank header = true) :
    incomingId? h = none := by
  unfold incomingId?
  cases text : h.text? requestIdHeader with
  | none => rfl
  | some header => exact if_pos (blank header text)

/-- There is an incoming id or there is none. -/
theorem incomingId?_cases (h : Headers) :
    (∃ header, h.text? requestIdHeader = some header ∧ Text.blank header = false) ∨
      ∀ header, h.text? requestIdHeader = some header → Text.blank header = true := by
  cases text : h.text? requestIdHeader with
  | none => exact .inr nofun
  | some header =>
      cases blank : Text.blank header with
      | false => exact .inl ⟨header, rfl, blank⟩
      | true =>
          right
          rintro _ ⟨⟩
          exact blank

theorem givenHeader_of_text {header : String}
    (text : request.headers.text? requestIdHeader = some header)
    (full : Text.blank header = false) : givenHeader request site = header := by
  rw [givenHeader, incomingId?_of_text text full]

theorem givenHeader_of_blank
    (blank : ∀ header, request.headers.text? requestIdHeader = some header →
      Text.blank header = true) :
    givenHeader request site = (Uuid.ofSeed site.seed).toString := by
  rw [givenHeader, incomingId?_of_blank blank]

theorem not_blank_givenHeader (request : Request) (site : Site) :
    Text.blank (givenHeader request site) = false := by
  rcases incomingId?_cases request.headers with ⟨header, text, full⟩ | blank
  · rw [givenHeader_of_text text full]
    exact full
  · rw [givenHeader_of_blank blank]
    exact Uuid.not_blank_toString _

/-- The id is the header without the blanks around it; a fresh one has none. -/
theorem givenId_eq (request : Request) (site : Site) :
    givenId request site = Text.trim (givenHeader request site) := by
  rcases incomingId?_cases request.headers with ⟨header, text, full⟩ | blank
  · rw [givenHeader_of_text text full, givenId, incomingId?_of_text text full]
  · rw [givenHeader_of_blank blank, givenId, incomingId?_of_blank blank, Uuid.trim_toString]

end

/-- Goes on with a header in the request, and sets the header of whatever response there is. -/
def carry (header : String) (request : Request) (next : Next) : Act Flow Response := do
  let response ← next.run (withId request header)
  Act.pure (response.withHeader requestIdHeader header)

/-- What the stage does once it has given a header and an id. -/
theorem requestId_process_eq (request : Request) (flow : Flow) :
    ∃ site, ∀ next : Next,
      requestId.process request next flow = carry (givenHeader request flow.site) request next
        ⟨flow.context.setRequestId (givenId request flow.site), site⟩ := by
  unfold givenHeader givenId requestId
  dsimp only
  cases incomingId? request.headers with
  | some found => exact ⟨flow.site, fun next => rfl⟩
  | none => exact ⟨{ flow.site with seed := flow.site.seed + 1 }, fun next => rfl⟩

end Stage

/-! ## Where the bodies of answers come from -/

/-- The body of an answer to a request with this id: one of the bodies that somebody answers on his
own account, the empty one of a preflight, or the envelope of a failure with the id. -/
inductive Told (own : String → Prop) (id : String) : String → Prop
  | own {body : String} (answered : own body) : Told own id body
  | preflight : Told own id ""
  | failure (f : Failure) : Told own id (Response.ofFailure f (some id)).body

/-- A failure is rendered with the id of the context. -/
theorem Told.ofContext {own : String → Prop} {id : String} {c : Context}
    (is : c.requestId = some id) (f : Failure) :
    Told own id (Response.ofFailure f c.requestId).body :=
  is ▸ .failure f

section

variable {own : String → Prop} {id header : String}

/-- Whoever gets a request with this header, in a context with this id, gives answers of that
kind. -/
def Next.Tells (own : String → Prop) (id header : String) (next : Next) : Prop :=
  ∀ request, request.headers.getAll Stage.requestIdHeader = [header] →
    (next.run request).Gives (HasId (some id)) fun response => Told own id response.body

/-- The stage gives answers of that kind, unless something behind it does not. -/
def Stage.Tells (own : String → Prop) (id header : String) (stage : Stage) : Prop :=
  ∀ next : Next, next.KeepsId → next.Tells own id header →
    (Next.through stage next).Tells own id header

/-- What the handler answers when it gets a request with this header in a context with this id. -/
def Handler.Says (handler : Handler) (id header body : String) : Prop :=
  ∃ c request site response after, c.requestId = some id ∧
    request.headers.getAll Stage.requestIdHeader = [header] ∧
    handler c request site = (.done (.ok response), after) ∧ response.body = body

theorem tells_compose {stages : List Stage} {terminal : Next}
    (keep : ∀ stage ∈ stages, stage.KeepsId) (tell : ∀ stage ∈ stages, stage.Tells own id header)
    (kept : terminal.KeepsId) (told : terminal.Tells own id header) :
    (compose stages terminal).Tells own id header := by
  induction stages with
  | nil => exact told
  | cons stage stages ih =>
      have keepRest : ∀ s ∈ stages, s.KeepsId := fun s member => keep s (.tail _ member)
      have inner := ih keepRest fun s member => tell s (.tail _ member)
      exact tell stage List.mem_cons_self _ (keepsId_compose keepRest kept) inner

end

/-! ### What acts give in a flow with an id -/

namespace Act.Gives

variable {α β : Type} {id : Option String} {Q : α → Prop} {R : β → Prop}

/-- A context read off the flow has the flow's id. -/
theorem current {k : Context → Act Flow β}
    (rest : ∀ c, c.requestId = id → Gives (HasId id) R (k c)) :
    Gives (HasId id) R (Flow.current >>= k) :=
  fun f b g is ends => rest f.context is f b g is ends

theorem onSite {m : Act Site α} (gives : ∀ site a after, m site = (.done a, after) → Q a) :
    Gives (HasId id) Q (Flow.onSite m) := by
  rintro f a g - ends
  have ended : (m f.site).1 = .done a := congrArg Prod.fst ends
  exact gives f.site a (m f.site).2 (Prod.ext ended rfl)

theorem within {m : Act Flow α} (gives : Gives (HasId id) Q m) (budget : Span) :
    Gives (HasId id) (fun answer => ∀ a, answer = some a → Q a) (Stage.within budget m) := by
  rintro f answer g is ends a rfl
  let due := Site.roundUp (f.site.now + budget.nanos)
  let limit := if Stage.comesFirst due f.site.limit then some due else f.site.limit
  let limited : Flow := { f with site := { f.site with limit := limit } }
  -- The only answer there is comes from the inner act, run within its limit.
  have inner : (m limited).1 = .done a := by
    unfold Stage.within at ends
    dsimp only at ends
    split at ends
    · next ended =>
        cases ends
        exact ended
    · cases ends
    · split at ends
      · cases ends
      · cases ends
  exact gives limited a _ is (Prod.ext inner rfl)

end Act.Gives

/-! ### The service's own stages -/

section

variable {own : String → Prop} {id header : String}

theorem Next.tells_endpoint {handler : Handler}
    (said : ∀ body, handler.Says id header body → own body) :
    (endpoint handler).Tells own id header := by
  intro request given
  refine .current fun c is => ?_
  have answers : Act.Gives (HasId (some id))
      (fun outcome => ∀ response, outcome = .ok response → own response.body)
      (Flow.onSite (handler c request)) := by
    refine .onSite fun site outcome after answered response ok => ?_
    subst ok
    exact said _ ⟨c, request, site, response, after, is, given, answered, rfl⟩
  refine .bind (.onSite _) answers fun outcome answered => ?_
  cases outcome with
  | ok response => exact .pure (.own (answered response rfl))
  | error f =>
      dsimp only
      split
      · exact .after (.onSite _) fun _ => .pure (.ofContext is f)
      · exact .pure (.ofContext is f)

namespace Stage

theorem tells_accessLog : accessLog.Tells own id header := by
  intro next kept told request given
  refine .bind (kept _ request) (told request given) fun response said => ?_
  refine .current fun c is => ?_
  exact .after (.onSite _) fun _ => .pure said

theorem tells_recovery : recovery.Tells own id header := by
  intro next kept told request given
  refine .bind (kept _ request).observe (told request given).observe fun ending said => ?_
  cases ending with
  | panicked p =>
      refine .current fun c is => ?_
      exact .after (.onSite _) fun _ => .pure (.ofContext is _)
  | done response => exact .resume said
  | dropped => exact .resume nofun

theorem tells_metrics : metrics.Tells own id header := by
  intro next kept told request given
  refine .after (.onSite _) fun _ => ?_
  refine .after (.onSite _) fun started => ?_
  refine .bind (kept _ request).observe (told request given).observe fun ending said => ?_
  cases ending with
  | done response =>
      refine .after (.onSite _) fun ended => ?_
      refine .after (.onSite _) fun _ => ?_
      refine .after (.onSite _) fun _ => ?_
      exact .after (.onSite _) fun _ => .pure (said response rfl)
  | panicked p => exact .after (.onSite _) fun _ => .resume nofun
  | dropped => exact .after (.onSite _) fun _ => .resume nofun

theorem tells_cors (p : CorsPolicy) : (cors p).Tells own id header := by
  intro next kept told request given
  change Act.Gives (HasId (some id)) _ (if request.method = .options then _ else _)
  split
  · exact .bind (.pure _) (.pure .preflight) fun response said => .pure said
  · exact .bind (kept _ request) (told request given) fun response said => .pure said

theorem tells_rateLimit (limiter : Nat) (rate : RateLimit) :
    (rateLimit limiter rate).Tells own id header := by
  intro next kept told request given
  refine .current fun c is => ?_
  refine .after (.onSite _) fun decision => ?_
  cases decision with
  | limited retryAfter =>
      refine .after (.onSite _) fun _ => ?_
      exact .after (.onSite _) fun _ => .pure (.ofContext is _)
  | overflow => exact .panic _
  | allowed remaining =>
      exact .bind (kept _ request) (told request given) fun response said => .pure said

theorem tells_timeout (duration : Span) : (timeout duration).Tells own id header := by
  intro next kept told request given
  refine .current fun c is => ?_
  refine .after (.onSite _) fun now => ?_
  refine .after (.onSite _) fun started => ?_
  split
  · exact .panic _
  · refine .after (.setContext is) fun _ => ?_
    refine .bind ((kept _ request).within _) ((told request given).within _) fun answer said => ?_
    cases answer with
    | some response => exact .pure (said response rfl)
    | none =>
        refine .after (.onSite _) fun _ => ?_
        exact .after (.onSite _) fun _ => .pure (.ofContext is _)

theorem tells_authentication (g : Gatekeeper) : (authentication g).Tells own id header := by
  intro next kept told request given
  change Act.Gives (HasId (some id)) _ (if g.isPublic request.path then _ else _)
  split
  · exact told request given
  · refine .after (.onSite _) fun answer => ?_
    cases answer with
    | error f =>
        refine .current fun c is => ?_
        exact .after (.onSite _) fun _ => .pure (.ofContext is _)
    | ok user =>
        refine .current fun c is => ?_
        refine .after (.onSite _) fun _ => ?_
        exact .after (.setContext is) fun _ => told request given

theorem gives_settle {manager : TransactionManager} {tx : String} {c : Context}
    {response : Response} (is : c.requestId = some id) (said : Told own id response.body) :
    Act.Gives (HasId (some id)) (fun response => Told own id response.body)
      (settle manager tx c response) := by
  unfold settle
  split
  · refine .after (.onSite _) fun outcome => ?_
    cases outcome with
    | ok _ => exact .after (.onSite _) fun _ => .pure said
    | error f =>
        exact .after (.onSite _) fun _ => .pure (.ofContext is _)
  · refine .after (preserves_undo manager tx c _) fun _ => ?_
    exact .after (.onSite _) fun _ => .pure said

theorem tells_transaction (manager : TransactionManager) :
    (transaction manager).Tells own id header := by
  intro next kept told request given
  change Act.Gives (HasId (some id)) _ (if !request.method.isWrite then _ else _)
  split
  · exact told request given
  · refine .current fun c is => ?_
    refine .after (.onSite _) fun begun => ?_
    cases begun with
    | error f =>
        exact .after (.onSite _) fun _ => .pure (.ofContext is _)
    | ok tx =>
        refine .current fun c' is' => ?_
        refine .after (.setContext is') fun _ => ?_
        refine .bind (kept _ request).observe (told request given).observe fun ending said => ?_
        cases ending with
        | done response => exact gives_settle is (said response rfl)
        | panicked p => exact .after (preserves_undo manager tx c _) fun _ => .panic _
        | dropped => exact .after (.onSite _) fun _ => .resume nofun

theorem Standard.tells {stage : Stage} (standard : stage.Standard) :
    stage.Tells own id header := by
  cases standard with
  | accessLog => exact tells_accessLog
  | recovery => exact tells_recovery
  | metrics => exact tells_metrics
  | cors p => exact tells_cors p
  | rateLimit limiter rate => exact tells_rateLimit limiter rate
  | timeout duration => exact tells_timeout duration
  | authentication g => exact tells_authentication g
  | transaction manager => exact tells_transaction manager

end Stage

end

/-! ## One id -/

namespace Stage

/-- The header and the id of a request are carried to everybody: the header to all requests and
responses, the id to all contexts and envelopes. They are the same but for blanks around the
header. -/
structure Shared (request : Request) (flow : Flow) (header id : String) : Prop where
  incoming : ∀ value, request.headers.text? requestIdHeader = some value →
    Text.blank value = false → header = value
  fresh : (∀ value, request.headers.text? requestIdHeader = some value →
    Text.blank value = true) → header = (Uuid.ofSeed flow.site.seed).toString
  trimmed : id = Text.trim header
  full : Text.blank id = false
  /-- What lies behind is run once, with the header in the request and the id in the context. -/
  onward : ∃ site, ∀ next : Next,
    requestId.process request next flow =
      (next.run (withId request header) >>= fun response =>
          Act.pure (response.withHeader requestIdHeader header))
        ⟨flow.context.setRequestId id, site⟩
  onwardHeader : (withId request header).headers.getAll requestIdHeader = [header]
  response : ∀ next response after, requestId.process request next flow = (.done response, after) →
    response.headers.getAll requestIdHeader = [header]
  context : ∀ next : Next, next.KeepsId →
    (requestId.process request next flow).2.context.requestId = some id
  /-- Behind the service's own stages, and stages that keep to their habits, an answer that nobody
  gives on his own account has the id. -/
  bodies : ∀ (own : String → Prop) (handler : Handler) (stages : List Stage),
    (∀ body, handler.Says id header body → own body) →
    (∀ stage ∈ stages, stage.Standard ∨ stage.KeepsId ∧ stage.Tells own id header) →
    ∀ response after,
      (compose (requestId :: stages) (.endpoint handler)).run request flow =
        (.done response, after) → Told own id response.body
  /-- Whoever reads the envelope of a failure reads the id, whatever data he expects. -/
  envelope : ∀ (α : Type) (data : Json.Reader α) (f : Failure),
    Json.read (Envelope.reader data) (Response.ofFailure f (some id)).body =
      .ok ⟨false, none, some ⟨f.code.name, f.message, some id⟩⟩

section

variable {own : String → Prop} {header id : String} {request : Request} {next : Next}

theorem gives_header_carry (header : String) (request : Request) (next : Next) :
    Act.Gives (fun _ => True)
      (fun response => response.headers.getAll requestIdHeader = [header])
      (carry header request next) :=
  .after (fun _ _ => trivial) fun _ => .pure (Headers.getAll_insert_self ..)

theorem gives_told_carry (kept : next.KeepsId) (told : next.Tells own id header) :
    Act.Gives (HasId (some id)) (fun response => Told own id response.body)
      (carry header request next) :=
  .bind (kept _ _) (told _ (Headers.getAll_insert_self ..)) fun _ said => .pure said

end

/-- Whatever header a request comes with and whatever lies behind. -/
theorem requestId_shared (request : Request) (flow : Flow) :
    Shared request flow (givenHeader request flow.site) (givenId request flow.site) where
  incoming _ text full := givenHeader_of_text text full
  fresh := givenHeader_of_blank
  trimmed := givenId_eq request flow.site
  full := by
    rw [givenId_eq, Text.blank_trim]
    exact not_blank_givenHeader request flow.site
  onward := requestId_process_eq request flow
  onwardHeader := Headers.getAll_insert_self ..
  response next response after ran := by
    obtain ⟨site, goesOn⟩ := requestId_process_eq request flow
    rw [goesOn next] at ran
    exact gives_header_carry _ request next _ response after trivial ran
  context _ kept := requestId_process kept request flow
  bodies := by
    intro own handler stages said keep response after ran
    have keeps : ∀ stage ∈ stages, stage.KeepsId := fun stage member =>
      (keep stage member).elim Standard.keepsId And.left
    have tells : ∀ stage ∈ stages, stage.Tells own _ _ := fun stage member =>
      (keep stage member).elim Standard.tells And.right
    have kept := keepsId_compose keeps (Next.keepsId_endpoint handler)
    have told := tells_compose keeps tells (Next.keepsId_endpoint handler)
      (Next.tells_endpoint said)
    obtain ⟨site, goesOn⟩ := requestId_process_eq request flow
    change requestId.process request (compose stages (.endpoint handler)) flow = _ at ran
    rw [goesOn] at ran
    exact gives_told_carry kept told ⟨flow.context.setRequestId _, site⟩ response after rfl ran
  envelope _ data f := Envelope.read_ofFailure data f _

/-- A header with blanks around it: the two texts differ. -/
theorem requestId_shared_padded :
    let request : Request :=
      { method := .get, target := ⟨"/files", none⟩, headers := [("x-request-id", " r-1 ")],
        body := "" }
    let flow : Flow := { context := Context.withSignal 0, site := {} }
    request.headers.text? requestIdHeader = some " r-1 " ∧ Text.blank " r-1 " = false ∧
      Shared request flow " r-1 " "r-1" := by
  intro request flow
  have shared := requestId_shared request flow
  have header : givenHeader request flow.site = " r-1 " := by decide
  have id : givenId request flow.site = "r-1" := by decide
  rw [header, id] at shared
  exact ⟨by decide, by decide, shared⟩

/-- So there is not always one id: the context does not have the one in the response's header. -/
theorem not_always_one_id :
    ¬ ∀ (request : Request) (flow : Flow) (next : Next) (response : Response) (after : Flow),
      next.KeepsId → requestId.process request next flow = (.done response, after) →
        ∃ id, after.context.requestId = some id ∧
          response.headers.getAll requestIdHeader = [id] := by
  intro one
  let request : Request :=
    { method := .get, target := ⟨"/files", none⟩, headers := [("x-request-id", " r-1 ")],
      body := "" }
  let handler : Handler := fun _ _ => Act.pure (.ok .noContent)
  obtain ⟨id, inContext, inHeader⟩ := one request { context := Context.withSignal 0, site := {} }
    (.endpoint handler) _ _ (Next.keepsId_endpoint handler) rfl
  have trimmed : some "r-1" = some id := by
    rw [← inContext]
    decide
  have verbatim : [" r-1 "] = [id] := by
    rw [← inHeader]
    decide
  rw [← Option.some.inj trimmed] at verbatim
  exact absurd verbatim (by decide)

end Stage

end HttpService

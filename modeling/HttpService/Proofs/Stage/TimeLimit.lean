import HttpService.Proofs.Context.Deadline
import HttpService.Proofs.Stage.Conduct

/-!
# Time limits in one another

Stages with a time limit can stand in one another, with other stages between them. What lies behind
them sees the earliest of the deadline that there was before and of the ends of their spans, each
counted from the reading of the clock with which the stage starts. But the clock has a last reading.
A stage whose end lies beyond it panics, unless an earlier deadline keeps it from counting so far.
-/

namespace HttpService

namespace Stage

/-! ## One limit -/

/-- The end of what a stage has left, read off the context when it asks and counted from when it
starts. -/
def dueAt (duration : Span) (c : Context) (asked started : Nat) : Nat :=
  started + (shorter duration (c.remaining asked)).nanos

section

variable {asked started : Nat}

theorem dueAt_eq (duration : Span) (c : Context) (asked started : Nat) :
    dueAt duration c asked started =
      c.deadline.elim (started + duration.nanos) fun existing =>
        started + min duration.nanos (existing - asked) := by
  unfold dueAt Context.remaining
  cases c.deadline with
  | none => rfl
  | some existing =>
      unfold shorter
      dsimp only [Option.map_some, Option.elim_some]
      split
      · next less =>
          rw [Nat.min_eq_right (Nat.le_of_lt less)]
      · next enough =>
          rw [Nat.min_eq_left (Nat.not_lt.mp enough)]

/-- However long it takes from the one reading to the other, the deadline moves to the end of the
stage's own span, or stays if it is earlier. -/
theorem deadline_dueAt (duration : Span) (c : Context) (ordered : asked ≤ started) :
    (c.setDeadline (dueAt duration c asked started)).deadline =
      earliest c.deadline [started + duration.nanos] := by
  rw [Context.deadline_setDeadline, dueAt_eq]
  cases c.deadline with
  | none => rfl
  | some existing =>
      change some (min existing (started + min duration.nanos (existing - asked))) =
        some (min existing (started + duration.nanos))
      congr 1
      omega

/-- The end can only be missed if neither the span nor the deadline is within reach. -/
theorem lastReading_lt_dueAt_iff (duration : Span) (c : Context) (ordered : asked ≤ started)
    (told : started ≤ lastReading) :
    lastReading < dueAt duration c asked started ↔
      lastReading < started + duration.nanos ∧
        ∀ existing, c.deadline = some existing → lastReading < existing + (started - asked) := by
  rw [dueAt_eq]
  cases c.deadline with
  | none => simp
  | some existing =>
      simp only [Option.elim_some, Option.some.injEq, forall_eq']
      omega

end

/-- The stage comes to count beyond the last reading of the clock. -/
def Overruns (duration : Span) (flow : Flow) : Prop :=
  lastReading < dueAt duration flow.context flow.site.steady (flow.site.steady + 1)

instance (duration : Span) (flow : Flow) : Decidable (Overruns duration flow) :=
  inferInstanceAs (Decidable (_ < _))

/-- The flow behind the stage: the clock has been read twice, the deadline is set, and what lies
behind is dropped at the end of the stage's time if not before. -/
def entered (duration : Span) (flow : Flow) : Flow :=
  let budget := shorter duration (flow.context.remaining flow.site.steady)
  let due := Site.roundUp (flow.site.now + budget.nanos)
  let limit := if comesFirst due flow.site.limit then some due else flow.site.limit
  { context := flow.context.setDeadline
      (dueAt duration flow.context flow.site.steady (flow.site.steady + 1))
    site := { flow.site with steady := flow.site.steady + 2, limit := limit } }

/-- What a stage makes of the way in which the rest has ended. Only where it has dropped it by itself
it has an answer of its own. -/
def relayed (duration : Span) (flow : Flow) : Ending Response → Ending Response
  | .done response => .done response
  | .panicked p => .panicked p
  | .dropped =>
      let budget := shorter duration (flow.context.remaining flow.site.steady)
      if comesFirst (Site.roundUp (flow.site.now + budget.nanos)) flow.site.limit then
        .done (.ofFailure expired flow.context.requestId)
      else .dropped

/-- The panic of the clock where a time is asked for that it never reads. -/
def overflow : Panic :=
  .text "overflow when adding duration to instant"

theorem relayed_panicked_iff {duration : Span} {flow : Flow} {ending : Ending Response}
    {p : Panic} : relayed duration flow ending = .panicked p ↔ ending = .panicked p := by
  cases ending with
  | done response => exact Iff.rfl
  | panicked q => exact Iff.rfl
  | dropped =>
      dsimp only [relayed]
      split <;> exact iff_of_false nofun nofun

/-- How a stage ends that counts beyond the last reading. -/
def overrun (flow : Flow) : Ending Response × Flow :=
  (.panicked overflow, { flow with site := { flow.site with steady := flow.site.steady + 2 } })

variable {duration : Span} {flow flow' : Flow} {request request' : Request}

/-- What is done with what lies behind: it is run in the time that is left, and answered for if that
has not been enough. -/
def answered (budget : Span) (c : Context) (m : Act Flow Response) : Act Flow Response := do
  match ← within budget m with
  | some response => Act.pure response
  | none =>
      Flow.onSite (Act.modify fun s => { s with signals := s.signals.cancel c.signal })
      Flow.report .warn "request deadline exceeded"
        [("request_id", Flow.shownId c),
         ("timeout_ms", toString (budget.millis % Nat.pow 2 64))]
      Act.pure (.ofFailure expired c.requestId)

theorem process_timeout (duration : Span) (request : Request) (next : Next) (flow : Flow) :
    (timeout duration).process request next flow =
      (if Overruns duration flow then Act.panic overflow
      else do
        Flow.setContext (flow.context.setDeadline
          (dueAt duration flow.context flow.site.steady (flow.site.steady + 1)))
        answered (shorter duration (flow.context.remaining flow.site.steady)) flow.context
          (next.run request) : Act Flow Response) (overrun flow).2 :=
  rfl

theorem process_of_overruns (overruns : Overruns duration flow) (request : Request) (next : Next) :
    (timeout duration).process request next flow = overrun flow :=
  (process_timeout ..).trans (congrFun (if_pos overruns) _)

/-- In time, the stage goes on once, and what it makes of the outcome depends on nothing else. -/
theorem process_of_not_overruns (fits : ¬ Overruns duration flow) (request : Request) :
    ∃ settle : Ending Response × Flow → Ending Response × Flow,
      (∀ out, (settle out).1 = relayed duration flow out.1) ∧
      ∀ next : Next, (timeout duration).process request next flow =
        settle (next.run request (entered duration flow)) := by
  let begun : Flow :=
    { context := (entered duration flow).context, site := (overrun flow).2.site }
  let budget := shorter duration (flow.context.remaining flow.site.steady)
  refine ⟨fun out => answered budget flow.context (fun _ => out) begun, ?_, fun next => ?_⟩
  · rintro ⟨ending, after⟩
    cases ending with
    | done response => rfl
    | panicked p => rfl
    | dropped =>
        dsimp only [relayed]
        cases own : comesFirst (Site.roundUp (flow.site.now + budget.nanos)) flow.site.limit with
        | true =>
            have dropped : within budget (fun _ => (.dropped, after)) begun =
              (.done (none : Option Response), _) := Prod.ext (if_pos own) rfl
            exact congrArg Prod.fst (Act.bind_done dropped _)
        | false =>
            have dropped : within budget (fun _ => (.dropped, after)) begun =
              ((.dropped : Ending (Option Response)), _) :=
                Prod.ext (if_neg (Bool.eq_false_iff.mp own)) rfl
            exact congrArg Prod.fst (Act.bind_dropped dropped _)
  · exact (process_timeout ..).trans (congrFun (if_neg fits) _)

/-- All that the stage adds to the panics of what lies behind it. -/
theorem panics_timeout_iff {next : Next} :
    Act.Panics ((timeout duration).process request next) flow ↔
      Overruns duration flow ∨
        ¬ Overruns duration flow ∧ Act.Panics (next.run request) (entered duration flow) := by
  by_cases overruns : Overruns duration flow
  · have panics : Act.Panics ((timeout duration).process request next) flow :=
      ⟨overflow, congrArg Prod.fst (process_of_overruns overruns request next)⟩
    exact iff_of_true panics (.inl overruns)
  · obtain ⟨settle, relays, run⟩ := process_of_not_overruns overruns request
    have same (p : Panic) : ((timeout duration).process request next flow).1 = .panicked p ↔
        (next.run request (entered duration flow)).1 = .panicked p := by
      rw [run, relays]
      exact relayed_panicked_iff
    rw [or_iff_right overruns, and_iff_right overruns]
    exact exists_congr same

theorem ends_of_overruns (overruns : Overruns duration flow) (label : Option String)
    (request : Request) : Stop.Ends ⟨timeout duration, label, request, flow⟩ (overrun flow) :=
  fun next _ => process_of_overruns overruns request next

theorem goesOn_of_not_overruns (fits : ¬ Overruns duration flow) (label : Option String)
    (request : Request) :
    Stop.GoesOn ⟨timeout duration, label, request, flow⟩ request (entered duration flow) := by
  obtain ⟨settle, relays, run⟩ := process_of_not_overruns fits request
  constructor
  · intro next _
    exact (run next).trans (run ⟨label, fun _ _ => next.run request (entered duration flow)⟩).symm
  · -- Two panics behind the stage would have to come out the same.
    rintro ⟨out, ends⟩
    have told (p : Panic) : out.1 = .panicked p := by
      have same := ends ⟨label, fun _ after => (.panicked p, after)⟩ rfl
      rw [← same]
      exact (congrArg Prod.fst (run _)).trans (relays _)
    cases (told .other).symm.trans (told (.text ""))

/-- The only way to go on is in time, with the request as it is. -/
theorem goesOn_timeout_iff {label : Option String} :
    Stop.GoesOn ⟨timeout duration, label, request, flow⟩ request' flow' ↔
      ¬ Overruns duration flow ∧ request' = request ∧ flow' = entered duration flow := by
  constructor
  · intro onward
    have fits : ¬ Overruns duration flow := fun overruns =>
      onward.depends ⟨_, ends_of_overruns overruns label request⟩
    exact ⟨fits, (goesOn_of_not_overruns fits label request).unique onward⟩
  · rintro ⟨fits, rfl, rfl⟩
    exact goesOn_of_not_overruns fits label _

/-- Whatever comes back, the stage adds no panic to it and takes none away. -/
theorem leave_panicked_iff (fits : ¬ Overruns duration flow) {label : Option String}
    {out : Ending Response × Flow} {p : Panic} :
    (Stop.leave ⟨timeout duration, label, request, flow⟩ out).1 = .panicked p ↔
      out.1 = .panicked p := by
  obtain ⟨settle, relays, run⟩ := process_of_not_overruns fits request
  have left : (Stop.leave ⟨timeout duration, label, request, flow⟩ out).1 =
      relayed duration flow out.1 := (congrArg Prod.fst (run _)).trans (relays _)
  rw [left]
  exact relayed_panicked_iff

end Stage

/-! ## Limits in one another -/

/-- A stage of a service where some have time limits: one that has, or another. -/
inductive Layer
  | limit (duration : Span)
  | other (stage : Stage)

namespace Layer

def stage : Layer → Stage
  | limit duration => .timeout duration
  | other stage => stage

/-- When the stage's own span ends, for a request that has come to it: that long after the reading
with which it starts. -/
def end? (stop : Stop) : Layer → Option Nat
  | limit duration => some (stop.flow.site.steady + 1 + duration.nanos)
  | other _ => none

/-- The ends of the spans of all stages that a request has come through. -/
def ends (layers : List Layer) (stops : List Stop) : List Nat :=
  (layers.zip stops).filterMap fun (layer, stop) => layer.end? stop

/-- The stages that have no time limit leave the deadline to what lies behind them as it is. -/
def Steady (layers : List Layer) : Prop :=
  ∀ stage, other stage ∈ layers → stage.PassesOn Context.deadline

end Layer

section

variable {layers : List Layer} {behind : Next} {request request' : Request} {flow flow' : Flow}
  {stops : List Stop}

/-- All of the service's own stages but the time limits are such. -/
theorem Stage.passesOn_deadline (p : CorsPolicy) (limiter : Nat) (rate : RateLimit) (g : Gatekeeper)
    (manager : TransactionManager) :
    ∀ stage ∈ [requestId, recovery, accessLog, metrics, cors p, rateLimit limiter rate,
      authentication g, transaction manager], stage.PassesOn Context.deadline := by
  simp only [List.forall_mem_cons]
  refine ⟨?_, ?_, ?_, ?_, ?_, ?_, ?_, ?_, fun _ member => nomatch member⟩
  · exact passesOn_requestId fun _ _ => rfl
  · exact passesOn_recovery _
  · exact passesOn_accessLog _
  · exact passesOn_metrics _
  · exact passesOn_cors _ p
  · exact passesOn_rateLimit _ limiter rate
  · exact passesOn_authentication g fun _ _ => rfl
  · exact passesOn_transaction manager fun _ _ => rfl

/-- The deadline behind the stages is the earliest of the one before them and of the ends of their
spans. -/
theorem WayIn.deadline_eq (steady : Layer.Steady layers)
    (way : WayIn behind (layers.map Layer.stage) request flow stops request' flow') :
    flow'.context.deadline = earliest flow.context.deadline (Layer.ends layers stops) := by
  induction layers generalizing request flow stops with
  | nil =>
      cases way
      exact (earliest_nil _).symm
  | cons layer layers ih =>
      have rest : Layer.Steady layers := fun stage member => steady stage (.tail _ member)
      cases way with
      | pass onward way =>
          rw [ih rest way]
          cases layer with
          | limit duration =>
              obtain ⟨-, -, rfl⟩ := Stage.goesOn_timeout_iff.mp onward
              have moved := Stage.deadline_dueAt duration flow.context (Nat.le_succ flow.site.steady)
              exact (congrArg (earliest · _) moved).trans (earliest_append _ [_] _).symm
          | other stage =>
              have kept := (steady stage List.mem_cons_self).seen_eq onward
              exact congrArg (earliest · _) kept

/-- No layer but those with a time limit. -/
def Layer.Plain (layers : List Layer) : Prop :=
  ∀ stage, other stage ∉ layers

theorem Layer.Plain.exists_limit {layer : Layer} (plain : Layer.Plain layers)
    (member : layer ∈ layers) : ∃ duration, layer = limit duration := by
  cases layer with
  | limit duration => exact ⟨duration, rfl⟩
  | other stage => exact absurd member (plain stage)

theorem Layer.Plain.of_append {before after : List Layer} (plain : Layer.Plain (before ++ after)) :
    Layer.Plain before :=
  fun stage member => plain stage (List.mem_append_left after member)

/-- The request comes to a stage that counts beyond the last reading. -/
def Layer.Overrun (layers : List Layer) (behind : Next) (request : Request) (flow : Flow) : Prop :=
  ∃ before duration after stops request' flow', layers = before ++ limit duration :: after ∧
    WayIn (compose ((limit duration :: after).map stage) behind) (before.map stage)
      request flow stops request' flow' ∧ Stage.Overruns duration flow'

/-- On the way back through time limits a panic comes about nowhere and goes nowhere. -/
theorem WayIn.wayOut_panicked_iff (plain : Layer.Plain layers)
    (way : WayIn behind (layers.map Layer.stage) request flow stops request' flow')
    {out : Ending Response × Flow} {p : Panic} :
    (wayOut stops out).1 = .panicked p ↔ out.1 = .panicked p := by
  induction layers generalizing request flow stops with
  | nil =>
      cases way
      exact Iff.rfl
  | cons layer layers ih =>
      have rest : Layer.Plain layers := fun stage member => plain stage (.tail _ member)
      obtain ⟨duration, rfl⟩ := plain.exists_limit List.mem_cons_self
      cases way with
      | pass onward way =>
          have fits := (Stage.goesOn_timeout_iff.mp onward).1
          rw [wayOut_cons]
          exact (Stage.leave_panicked_iff fits).trans (ih rest way)

theorem Layer.Plain.goesOnOnce (plain : Layer.Plain layers) :
    ∀ stage ∈ layers.map Layer.stage, stage.GoesOnOnce := by
  intro stage member
  obtain ⟨layer, among, rfl⟩ := List.mem_map.mp member
  obtain ⟨duration, rfl⟩ := plain.exists_limit among
  have passes : Stage.PassesOn (.timeout duration) Context.params :=
    Stage.passesOn_timeout duration fun _ _ => rfl
  exact passes.goesOnOnce

/-- Time limits panic where one of them counts beyond the last reading, and where what lies behind
them panics. -/
theorem Layer.Plain.panicked_iff (plain : Layer.Plain layers) {p : Panic} :
    ((compose (layers.map Layer.stage) behind).run request flow).1 = .panicked p ↔
      (Layer.Overrun layers behind request flow ∧ p = Stage.overflow) ∨
        ∃ stops request' flow',
          WayIn behind (layers.map Layer.stage) request flow stops request' flow' ∧
            (behind.run request' flow').1 = .panicked p := by
  constructor
  · intro told
    have journey := journey_run plain.goesOnOnce behind request flow
    generalize (compose (layers.map Layer.stage) behind).run request flow = out at told journey
    cases journey with
    | through way =>
        exact .inr ⟨_, _, _, way, (way.wayOut_panicked_iff plain).mp told⟩
    | @turned before after stage stops request' flow' out split way ends =>
        obtain ⟨outer, rest, rfl, rfl, fromHere⟩ := List.map_eq_append_iff.mp split
        obtain ⟨layer, inner, rfl, rfl, rfl⟩ := List.map_eq_cons_iff.mp fromHere
        obtain ⟨duration, rfl⟩ := plain.exists_limit
          (List.mem_append_right outer List.mem_cons_self)
        by_cases overruns : Stage.Overruns duration flow'
        · have same := (ends _ rfl).symm.trans (Stage.process_of_overruns overruns request' _)
          subst same
          have panicked := (way.wayOut_panicked_iff plain.of_append).mp told
          exact .inl ⟨⟨_, _, _, _, _, _, rfl, way, overruns⟩, (Ending.panicked.inj panicked).symm⟩
        · exact absurd ⟨_, ends⟩ (Stage.goesOn_of_not_overruns overruns _ request').depends
  · rintro (⟨⟨before, duration, after, stops, request', flow', rfl, way, overruns⟩, rfl⟩ |
      ⟨stops, request', flow', way, told⟩)
    · have ends := Stage.ends_of_overruns overruns
        (compose (after.map Layer.stage) behind).label request'
      rw [List.map_append, List.map_cons]
      rw [List.map_cons] at way
      rw [way.run_of_ends ends rfl]
      exact (way.wayOut_panicked_iff plain.of_append).mpr rfl
    · rw [way.run_eq]
      exact (way.wayOut_panicked_iff plain).mpr told

end

/-! ## What limits do to every request -/

/-- What a stage with a time limit does by itself. -/
structure Stage.Limits (duration : Span) : Prop where
  /-- It panics where it counts beyond the last reading, and otherwise where the rest does. -/
  panics : ∀ request next flow, Act.Panics ((timeout duration).process request next) flow ↔
    Overruns duration flow ∨
      ¬ Overruns duration flow ∧ Act.Panics (next.run request) (entered duration flow)
  /-- This needs a span beyond the last reading, and no deadline before it. -/
  overruns : ∀ flow, flow.site.steady < lastReading → (Overruns duration flow ↔
    lastReading < flow.site.steady + 1 + duration.nanos ∧
      ∀ existing, flow.context.deadline = some existing → lastReading ≤ existing)
  /-- However far its two readings of the clock are apart, it sets the same deadline. -/
  sets : ∀ (c : Context) asked started, asked ≤ started →
    (c.setDeadline (dueAt duration c asked started)).deadline =
      earliest c.deadline [started + duration.nanos]

theorem Stage.limits_timeout (duration : Span) : Limits duration where
  panics _ _ _ := panics_timeout_iff
  overruns flow told := by
    have reach := lastReading_lt_dueAt_iff duration flow.context
      (Nat.le_succ flow.site.steady) told
    have apart (existing : Nat) : lastReading < existing + (flow.site.steady + 1 -
        flow.site.steady) ↔ lastReading ≤ existing := by omega
    simp only [Nat.succ_eq_add_one, apart] at reach
    exact reach
  sets c _ _ ordered := deadline_dueAt duration c ordered

/-- What time limits in one another, with other stages between them, do to a request. -/
structure Layer.Limiting (layers : List Layer) : Prop where
  each : ∀ duration, limit duration ∈ layers → Stage.Limits duration
  deadline : ∀ behind request flow stops request' flow',
    WayIn behind (layers.map stage) request flow stops request' flow' →
      flow'.context.deadline = earliest flow.context.deadline (ends layers stops)
  neverLater : ∀ behind request flow stops request' flow',
    WayIn behind (layers.map stage) request flow stops request' flow' →
      ∀ existing, flow.context.deadline = some existing →
        ∃ due, flow'.context.deadline = some due ∧ due ≤ existing
  /-- Of themselves they panic only where a request comes to one that counts too far. -/
  panics : Plain layers → ∀ (behind : Next) request flow p,
    ((compose (layers.map stage) behind).run request flow).1 = .panicked p ↔
      (Overrun layers behind request flow ∧ p = Stage.overflow) ∨
        ∃ stops request' flow',
          WayIn behind (layers.map stage) request flow stops request' flow' ∧
            (behind.run request' flow').1 = .panicked p

/-- The deadline behind time limits is the earliest of the one before them and of the ends of their
spans. They panic exactly where one of these ends lies beyond the last reading of the clock, and no
deadline keeps the stage from counting so far. -/
theorem Layer.limiting_of_steady {layers : List Layer} (steady : Layer.Steady layers) :
    Layer.Limiting layers where
  each duration _ := Stage.limits_timeout duration
  deadline _ _ _ _ _ _ way := way.deadline_eq steady
  neverLater _ _ _ _ _ _ way existing before := by
    rw [way.deadline_eq steady, before]
    exact exists_earliest_le existing _
  panics plain _ _ _ _ := plain.panicked_iff

theorem Stage.goesOn_recovery (label : Option String) (request : Request) (flow : Flow) :
    Stop.GoesOn ⟨recovery, label, request, flow⟩ request flow where
  process_eq _ _ := rfl
  depends := by
    rintro ⟨out, ends⟩
    have answered := ends ⟨label, fun _ => Act.pure .noContent⟩ rfl
    have dropped := ends ⟨label, fun _ flow => (.dropped, flow)⟩ rfl
    cases answered.trans dropped.symm

/-- Five seconds, recovery, and the longest span. The deadline is the end of the five seconds. -/
theorem Layer.limiting_of_steady_five_seconds :
    let layers : List Layer := [.limit ⟨5000000000⟩, .other .recovery, .limit .max]
    let request : Request := { method := .get, target := ⟨"/", none⟩, headers := [], body := "" }
    let flow : Flow := { context := Context.withSignal 0, site := { steady := 100 } }
    Layer.Steady layers ∧ ∀ behind, ∃ stops flow',
      WayIn behind (layers.map Layer.stage) request flow stops request flow' ∧
        flow'.context.deadline = some 5000000101 := by
  intro layers request flow
  have steady : Layer.Steady layers := by
    intro stage member
    have recovery : stage = .recovery := by simpa [layers] using member
    exact recovery ▸ Stage.passesOn_recovery Context.deadline
  refine ⟨steady, fun behind => ?_⟩
  let inside := Stage.entered ⟨5000000000⟩ flow
  have fits : ¬ Stage.Overruns ⟨5000000000⟩ flow := by decide
  have still : ¬ Stage.Overruns .max inside := by decide
  have way : WayIn behind (layers.map Layer.stage) request flow _ request
      (Stage.entered .max inside) :=
    .pass (Stage.goesOn_of_not_overruns fits _ request)
      (.pass (Stage.goesOn_recovery _ request inside)
        (.pass (Stage.goesOn_of_not_overruns still _ request) (.here _ _)))
  have due : (Stage.entered .max inside).context.deadline =
      earliest none [101 + 5000000000, 103 + Span.max.nanos] :=
    (Layer.limiting_of_steady steady).deadline _ _ _ _ _ _ way
  exact ⟨_, _, way, due.trans (by decide)⟩

/-- So a limit alone is enough for a panic. -/
theorem Stage.not_never_panics :
    ¬ ∀ (duration : Span) (request : Request) (next : Next) (flow : Flow),
      duration.nanos ≤ Span.max.nanos → (∀ request flow, ¬ Act.Panics (next.run request) flow) →
        ¬ Act.Panics ((timeout duration).process request next) flow := by
  intro never
  let request : Request := { method := .get, target := ⟨"/", none⟩, headers := [], body := "" }
  let next : Next := ⟨none, fun _ => Act.pure .noContent⟩
  let flow : Flow := { context := Context.withSignal 0, site := {} }
  have calm : ∀ request flow, ¬ Act.Panics (next.run request) flow :=
    fun _ flow => Act.not_panics_pure _ flow
  refine never .max request next flow (Nat.le_refl _) calm ?_
  exact ⟨overflow, congrArg Prod.fst (process_of_overruns (by decide) request next)⟩

end HttpService

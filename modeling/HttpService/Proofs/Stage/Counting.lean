import HttpService.Proofs.Concat
import HttpService.Proofs.Stage.Conduct
import HttpService.Proofs.Stage.Cors
import HttpService.Proofs.Telemetry.History

/-!
# Which requests are counted

The metrics stage records a request when the stages behind it have answered, with the method and the
path that the client sent and the status that the client is told. So requests that overlap are
recorded in the order of their answers. A request that panics behind the stage is answered too, by
the recovery stage outside, but it is not recorded.
-/

namespace HttpService

/-! ## The history of a collector -/

/-- What a recorded request is told apart by, in tables of requests. -/
def HttpMetric.line (m : HttpMetric) : String × String × Nat :=
  (m.method, m.path, m.status)

namespace Collector

/-- There is room for a request, and no more are retained than there is room for. -/
structure Sound (c : Collector) : Prop where
  room : 1 ≤ c.httpCapacity
  fits : c.http.length ≤ c.httpCapacity

theorem sound_withCapacity (http system : Nat) : (withCapacity http system).Sound where
  room := by
    simp only [withCapacity, maxHttp]
    omega
  fits := Nat.zero_le _

end Collector

/-! ## Passing a stage -/

/-- There is an answer, and it has this status. -/
def Ending.Answers (e : Ending Response) (status : Nat) : Prop :=
  ∃ r, e = .done r ∧ r.status = status

/-- Nothing that a collector or a client is told gets lost between an ending and what is made of it:
an answer keeps its status, and a panic may be answered in one way only. -/
structure Relays (inner outer : Ending Response × Flow) : Prop where
  collector : outer.2.site.collector = inner.2.site.collector
  answered : ∀ status, inner.1.Answers status → outer.1.Answers status
  panicked : ∀ p, inner.1 = .panicked p → outer.1 = .panicked p ∨ outer.1.Answers 500
  dropped : inner.1 = .dropped → outer.1 = .dropped

namespace Relays

variable {inner middle outer : Ending Response × Flow}

theorem refl (out : Ending Response × Flow) : Relays out out :=
  ⟨rfl, fun _ => id, fun _ => .inl, id⟩

theorem trans (first : Relays inner middle) (second : Relays middle outer) :
    Relays inner outer where
  collector := second.collector.trans first.collector
  answered status answers := second.answered status (first.answered status answers)
  panicked p panics := by
    obtain goes | answers := first.panicked p panics
    · exact second.panicked p goes
    · exact .inr (second.answered 500 answers)
  dropped drops := second.dropped (first.dropped drops)

/-- What is done with an answer keeps its status, and is not done where there is none. -/
theorem bind {m : Act Flow Response} {k : Response → Act Flow Response} {flow : Flow}
    (keeps : ∀ r f, ∃ r' f', k r f = (.done r', f') ∧ r'.status = r.status ∧
      f'.site.collector = f.site.collector) : Relays (m flow) ((m >>= k) flow) := by
  cases run : m flow with
  | mk ending f =>
      cases ending with
      | done r =>
          obtain ⟨r', f', done, status, collector⟩ := keeps r f
          rw [Act.bind_done run, done]
          refine ⟨collector, ?_, nofun, nofun⟩
          rintro _ ⟨_, ⟨⟩, rfl⟩
          exact ⟨r', rfl, status⟩
      | panicked p =>
          rw [Act.bind_panicked run]
          exact .refl _
      | dropped =>
          rw [Act.bind_dropped run]
          exact .refl _

end Relays

/-- On its way in a request keeps its method and its path, and on the way out what comes of it is
relayed. -/
structure Passage (request : Request) (flow : Flow) (request' : Request) (flow' : Flow)
    (leave : Ending Response × Flow → Ending Response × Flow) : Prop where
  method : request'.method = request.method
  path : request'.path = request.path
  collector : flow'.site.collector = flow.site.collector
  relays : ∀ out, Relays out (leave out)

theorem Passage.trans {request request₁ request₂ : Request} {flow flow₁ flow₂ : Flow}
    {leave inner : Ending Response × Flow → Ending Response × Flow}
    (first : Passage request flow request₁ flow₁ leave)
    (second : Passage request₁ flow₁ request₂ flow₂ inner) :
    Passage request flow request₂ flow₂ fun out => leave (inner out) where
  method := second.method.trans first.method
  path := second.path.trans first.path
  collector := second.collector.trans first.collector
  relays out := (second.relays out).trans (first.relays (inner out))

namespace Stop

variable {s : Stop} {request : Request} {flow : Flow}

/-- The stage goes on with the request and lets it pass. -/
structure Passes (s : Stop) (request : Request) (flow : Flow) : Prop where
  process_eq : ∀ next : Next, next.label = s.label →
    s.stage.process s.request next s.flow = s.leave (next.run request flow)
  passage : Passage s.request s.flow request flow s.leave

theorem Passes.goesOn (passes : s.Passes request flow) : s.GoesOn request flow where
  process_eq := passes.process_eq
  depends := by
    rintro ⟨out, ends⟩
    -- Answers that differ in their status would have to come out the same.
    have told (status : Nat) : out.1.Answers status := by
      have same : s.leave (.done ⟨status, [], ""⟩, s.flow) = out := ends ⟨s.label, _⟩ rfl
      rw [← same]
      exact (passes.passage.relays _).answered status ⟨_, rfl, rfl⟩
    obtain ⟨r, done, ok⟩ := told 200
    obtain ⟨r', done', failed⟩ := told 500
    cases done.symm.trans done'
    cases ok.symm.trans failed

/-- A stage that goes on with a request, and does something with the answer. -/
theorem Passes.of_bind {k : Response → Act Flow Response}
    (method : request.method = s.request.method) (path : request.path = s.request.path)
    (collector : flow.site.collector = s.flow.site.collector)
    (process_eq : ∀ next, s.stage.process s.request next s.flow = (next.run request >>= k) flow)
    (keeps : ∀ r f, ∃ r' f', k r f = (.done r', f') ∧ r'.status = r.status ∧
      f'.site.collector = f.site.collector) : s.Passes request flow where
  process_eq next _ := by
    rw [process_eq, leave, process_eq]
    rfl
  passage := by
    refine ⟨method, path, collector, fun out => ?_⟩
    rw [leave, process_eq]
    exact Relays.bind (m := fun _ => out) keeps

/-- The stage answers by itself, and records nothing. -/
def Turns (s : Stop) : Prop :=
  ∃ out, out.2.site.collector = s.flow.site.collector ∧
    ∀ next, s.stage.process s.request next s.flow = out

end Stop

/-! ## The stages outside -/

namespace Stage

/-- The stages that stand outside the one that counts. -/
inductive Outer : Stage → Prop
  | requestId : Outer requestId
  | accessLog : Outer accessLog
  | recovery : Outer recovery
  | cors (p : CorsPolicy) : Outer (cors p)
  | rateLimit (limiter : Nat) (rate : RateLimit) : Outer (rateLimit limiter rate)

variable (label : Option String) (request : Request) (flow : Flow)

theorem passes_accessLog : Stop.Passes ⟨accessLog, label, request, flow⟩ request flow :=
  .of_bind rfl rfl rfl (fun _ => rfl) fun r _ => ⟨r, _, rfl, rfl, rfl⟩

variable {label request flow} in
theorem answered_of_panicked {out : Ending Response × Flow} {p : Panic}
    (panics : out.1 = .panicked p) :
    (Stop.leave ⟨recovery, label, request, flow⟩ out).1.Answers 500 := by
  obtain ⟨ending, f⟩ := out
  cases panics
  exact ⟨_, rfl, rfl⟩

theorem passes_recovery : Stop.Passes ⟨recovery, label, request, flow⟩ request flow where
  process_eq _ _ := rfl
  passage := by
    refine ⟨rfl, rfl, rfl, ?_⟩
    rintro ⟨ending, f⟩
    cases ending with
    | done r => exact .refl _
    | panicked p => exact ⟨rfl, nofun, fun _ _ => .inr (answered_of_panicked (p := p) rfl), nofun⟩
    | dropped => exact .refl _

theorem passes_requestId :
    ∃ request' flow', Stop.Passes ⟨requestId, label, request, flow⟩ request' flow' := by
  have passes (id header : String) (seed : Nat) (process_eq : ∀ next : Next,
      requestId.process request next flow =
        (next.run { request with headers := request.headers.insert requestIdHeader header } >>=
          fun r => Act.pure (r.withHeader requestIdHeader header))
        ⟨flow.context.setRequestId id, { flow.site with seed }⟩) :
      ∃ request' flow', Stop.Passes ⟨requestId, label, request, flow⟩ request' flow' :=
    ⟨_, _, .of_bind (by rfl) (by rfl) (by rfl) process_eq fun r f => ⟨_, f, rfl, rfl, rfl⟩⟩
  cases found : incomingId? request.headers with
  | some given =>
      refine passes given.1 given.2 flow.site.seed fun next => ?_
      simp only [requestId, found]
      rfl
  | none =>
      let fresh := (Uuid.ofSeed flow.site.seed).toString
      refine passes fresh fresh (flow.site.seed + 1) fun next => ?_
      simp only [requestId, found]
      rfl

theorem passes_or_turns_cors (p : CorsPolicy) :
    (∃ request' flow', Stop.Passes ⟨cors p, label, request, flow⟩ request' flow') ∨
      Stop.Turns ⟨cors p, label, request, flow⟩ := by
  by_cases preflight : request.method = .options
  · exact .inr ⟨_, by rfl, fun next => cors_preflight preflight next flow⟩
  · exact .inl ⟨request, flow, .of_bind rfl rfl rfl
      (fun next => cors_onward preflight next flow) fun r f => ⟨_, f, rfl, rfl, rfl⟩⟩

theorem passes_or_turns_rateLimit (limiter : Nat) (rate : RateLimit) :
    (∃ request' flow', Stop.Passes ⟨rateLimit limiter rate, label, request, flow⟩ request' flow') ∨
      Stop.Turns ⟨rateLimit limiter rate, label, request, flow⟩ := by
  let key := clientKey request.headers flow.context.remote
  obtain ⟨decision, site, decided, same⟩ : ∃ decision site,
      Site.decide limiter key flow.site = (.done decision, site) ∧
        site.collector = flow.site.collector := ⟨_, _, rfl, rfl⟩
  have asked (next : Next) : (rateLimit limiter rate).process request next flow = _ :=
    (Act.bind_done (m := Flow.current) rfl _).trans (Flow.onSite_done decided _)
  cases decision with
  | limited retryAfter => exact .inr ⟨_, by exact same, asked⟩
  | overflow => exact .inr ⟨_, by exact same, asked⟩
  | allowed remaining =>
      exact .inl ⟨request, _,
        .of_bind rfl rfl (by exact same) asked fun r f => ⟨_, f, rfl, rfl, rfl⟩⟩

theorem Outer.passes_or_turns {stage : Stage} (outer : stage.Outer) (label : Option String)
    (request : Request) (flow : Flow) :
    (∃ request' flow', Stop.Passes ⟨stage, label, request, flow⟩ request' flow') ∨
      Stop.Turns ⟨stage, label, request, flow⟩ := by
  cases outer with
  | requestId => exact .inl (passes_requestId label request flow)
  | accessLog => exact .inl ⟨_, _, passes_accessLog label request flow⟩
  | recovery => exact .inl ⟨_, _, passes_recovery label request flow⟩
  | cors p => exact passes_or_turns_cors label request flow p
  | rateLimit limiter rate => exact passes_or_turns_rateLimit label request flow limiter rate

variable {stage : Stage} {label : Option String} {request request' : Request} {flow flow' : Flow}

/-- What goes on from a stage outside is a passage. -/
theorem Outer.passage (outer : stage.Outer)
    (onward : Stop.GoesOn ⟨stage, label, request, flow⟩ request' flow') :
    Passage request flow request' flow' (Stop.leave ⟨stage, label, request, flow⟩) := by
  obtain ⟨request₁, flow₁, passes⟩ | ⟨out, -, turns⟩ := outer.passes_or_turns label request flow
  · obtain ⟨rfl, rfl⟩ := onward.unique passes.goesOn
    exact passes.passage
  · exact absurd ⟨out, fun next _ => turns next⟩ onward.depends

/-- What a stage outside answers by itself is not recorded. -/
theorem Outer.collector_of_ends {out : Ending Response × Flow} (outer : stage.Outer)
    (ends : Stop.Ends ⟨stage, label, request, flow⟩ out) :
    out.2.site.collector = flow.site.collector := by
  obtain ⟨request₁, flow₁, passes⟩ | ⟨out', same, turns⟩ :=
    outer.passes_or_turns label request flow
  · exact absurd ⟨out, ends⟩ passes.goesOn.depends
  · let next : Next := ⟨label, fun _ f => (.dropped, f)⟩
    rw [← ends next rfl, turns next]
    exact same

end Stage

namespace WayIn

variable {behind : Next} {stages : List Stage} {request request' : Request} {flow flow' : Flow}
  {stops : List Stop}

theorem passage (standing : ∀ stage ∈ stages, stage.Outer)
    (way : WayIn behind stages request flow stops request' flow') :
    Passage request flow request' flow' (wayOut stops) := by
  induction way with
  | here => exact ⟨rfl, rfl, rfl, Relays.refl⟩
  | @pass stage stages request request₁ request₂ flow flow₁ flow₂ stops onward way ih =>
      have first := (standing stage List.mem_cons_self).passage onward
      have rest := ih fun s member => standing s (List.mem_cons_of_mem _ member)
      rw [funext (wayOut_cons _ stops)]
      exact first.trans rest

/-- Outside a recovery stage every panic is answered. -/
theorem rescues (standing : ∀ stage ∈ stages, stage.Outer) (recovers : Stage.recovery ∈ stages)
    (way : WayIn behind stages request flow stops request' flow') (p : Panic) (f : Flow) :
    (wayOut stops (.panicked p, f)).1.Answers 500 := by
  induction way with
  | here => exact absurd recovers List.not_mem_nil
  | @pass stage stages request request₁ request₂ flow flow₁ flow₂ stops onward way ih =>
      have inner := fun s member => standing s (List.mem_cons_of_mem _ member)
      have first := (standing stage List.mem_cons_self).passage onward
      rw [wayOut_cons]
      obtain rfl | further := List.mem_cons.mp recovers
      · -- The panic comes to the recovery stage, unless one further in has answered it.
        obtain panics | answers := ((way.passage inner).relays (.panicked p, f)).panicked p rfl
        · exact Stage.answered_of_panicked panics
        · exact (first.relays _).answered 500 answers
      · exact (first.relays _).answered 500 (ih inner further)

end WayIn

/-! ## The stage that counts -/

namespace Stage

variable (label : Option String) (request : Request) (flow : Flow)

/-- The flow behind the metrics stage. -/
def metered (flow : Flow) : Flow :=
  { flow with
    site := { flow.site with meters := flow.site.meters.enter, steady := flow.site.steady + 1 } }

theorem goesOn_metrics : Stop.GoesOn ⟨metrics, label, request, flow⟩ request (metered flow) where
  process_eq _ _ := rfl
  depends := by
    rintro ⟨out, ends⟩
    have answered := ends ⟨label, fun _ _ => (.done ⟨200, [], ""⟩, flow)⟩ rfl
    have dropped := ends ⟨label, fun _ _ => (.dropped, flow)⟩ rfl
    cases congrArg Prod.fst (answered.trans dropped.symm)

theorem leave_metrics_done (r : Response) (f : Flow) :
    ∃ m f', Stop.leave ⟨metrics, label, request, flow⟩ (.done r, f) = (.done r, f') ∧
      m.line = (request.method.name, request.path, r.status) ∧
      f'.site.collector = f.site.collector.recordHttp m :=
  ⟨_, _, rfl, rfl, rfl⟩

theorem leave_metrics_unanswered (ending : Ending Response) (unanswered : ∀ r, ending ≠ .done r)
    (f : Flow) :
    ∃ f', Stop.leave ⟨metrics, label, request, flow⟩ (ending, f) = (ending, f') ∧
      f'.site.collector = f.site.collector := by
  cases ending with
  | done r => exact absurd rfl (unanswered r)
  | panicked p => exact ⟨_, rfl, rfl⟩
  | dropped => exact ⟨_, rfl, rfl⟩

end Stage

/-! ## Requests that overlap -/

/-- A request behind the stages, with the stops that it has made. -/
structure Guest where
  request : Request
  stops : List Stop

/-- A request that has come back out, with the way that the stages behind ended and what its client
is told. -/
structure Departure where
  request : Request
  inner : Ending Response
  outcome : Ending Response

/-- What is recorded of a request: nothing unless the stages behind have answered. -/
def Departure.line? (d : Departure) : Option (String × String × Nat) :=
  match d.inner, d.outcome with
  | .done _, .done answer => some (d.request.method.name, d.request.path, answer.status)
  | _, _ => none

/-- What a client is told. -/
structure Departure.Told (d : Departure) : Prop where
  answered : ∀ status, d.inner.Answers status → d.outcome.Answers status
  panicked : ∀ p, d.inner = .panicked p → d.outcome.Answers 500
  dropped : d.inner = .dropped → d.outcome = .dropped

/-- The requests of a run that are behind the stages, those that have come back out, in order, and
the site as it is. Requests go in by all stages or are turned around, and come back out when what
lies behind the stages has ended, in whatever way and order. Between these steps anything may happen
to the site, except that nobody else records requests. -/
inductive Traffic (behind : Next) (stages : List Stage) (start : Site) :
    List Guest → List Departure → Site → Prop
  | start : Traffic behind stages start [] [] start
  | arrive {guests : List Guest} {departures : List Departure} {site : Site} {context : Context}
      {request request' : Request} {flow' : Flow} {stops : List Stop}
      (traffic : Traffic behind stages start guests departures site)
      (way : WayIn behind stages request ⟨context, site⟩ stops request' flow') :
      Traffic behind stages start (guests ++ [⟨request, stops⟩]) departures flow'.site
  | turn {guests : List Guest} {departures : List Departure} {site : Site} {context : Context}
      {request request' : Request} {flow' : Flow} {stops : List Stop} {before after : List Stage}
      {stage : Stage} {out : Ending Response × Flow}
      (traffic : Traffic behind stages start guests departures site)
      (split : stages = before ++ stage :: after)
      (way : WayIn (compose (stage :: after) behind) before request ⟨context, site⟩ stops request'
        flow')
      (ends : Stop.Ends ⟨stage, (compose after behind).label, request', flow'⟩ out) :
      Traffic behind stages start guests departures (wayOut stops out).2.site
  | depart {guest : Guest} {departures : List Departure} {site : Site} (before after : List Guest)
      (traffic : Traffic behind stages start (before ++ guest :: after) departures site)
      (inner : Ending Response) (context : Context) :
      Traffic behind stages start (before ++ after)
        (departures ++ [⟨guest.request, inner, (wayOut guest.stops (inner, ⟨context, site⟩)).1⟩])
        (wayOut guest.stops (inner, ⟨context, site⟩)).2.site
  | elsewhere {guests : List Guest} {departures : List Departure} {site site' : Site}
      (traffic : Traffic behind stages start guests departures site)
      (history : site'.collector.http = site.collector.http)
      (capacity : site'.collector.httpCapacity = site.collector.httpCapacity) :
      Traffic behind stages start guests departures site'

/-- The collector has recorded the departures after what it had at the start, in their order, and
retains as many as it has room for. -/
structure Tally (start : Collector) (departures : List Departure) (now : Collector) : Prop where
  capacity : now.httpCapacity = start.httpCapacity
  history : ∃ recorded : List HttpMetric, recorded.map HttpMetric.line =
    departures.filterMap Departure.line? ∧
      now.http = (start.http ++ recorded).rtake start.httpCapacity

namespace Tally

variable {start now later : Collector} {departures : List Departure} {d : Departure}

theorem initial (sound : start.Sound) : Tally start [] start where
  capacity := rfl
  history := by
    refine ⟨[], rfl, ?_⟩
    rw [List.append_nil, List.rtake, Nat.sub_eq_zero_of_le sound.fits, List.drop_zero]

theorem congr (tally : Tally start departures now) (history : later.http = now.http)
    (capacity : later.httpCapacity = now.httpCapacity) : Tally start departures later where
  capacity := capacity.trans tally.capacity
  history := by
    rw [history]
    exact tally.history

theorem unrecorded (tally : Tally start departures now) (none : d.line? = none) :
    Tally start (departures ++ [d]) now where
  capacity := tally.capacity
  history := by
    rw [List.filterMap_append, List.filterMap_cons_none none, List.filterMap_nil, List.append_nil]
    exact tally.history

theorem record (tally : Tally start departures now) (room : 1 ≤ start.httpCapacity) {m : HttpMetric}
    (line : d.line? = some m.line) : Tally start (departures ++ [d]) (now.recordHttp m) where
  capacity := tally.capacity
  history := by
    obtain ⟨recorded, lines, http⟩ := tally.history
    refine ⟨recorded ++ [m], ?_, ?_⟩
    · rw [List.map_append, lines, List.filterMap_append, List.filterMap_cons_some line]
      rfl
    · rw [Collector.recordHttp, http, tally.capacity, Collector.pushBounded_rtake room,
        List.append_assoc]

end Tally

section

variable {behind : Next} {outer : List Stage} {request request' : Request} {flow flow' : Flow}
  {stops : List Stop}

/-- On the way in nothing is recorded. -/
theorem WayIn.collector_eq (standing : ∀ stage ∈ outer, stage.Outer)
    (way : WayIn behind (outer ++ [Stage.metrics]) request flow stops request' flow') :
    flow'.site.collector = flow.site.collector := by
  obtain ⟨before, last, lastFlow, through, onward, -⟩ := way.of_concat
  obtain ⟨-, rfl⟩ := onward.unique (Stage.goesOn_metrics _ last lastFlow)
  exact (through.passage standing).collector

/-- A request that is turned around before it comes behind the stages is not recorded. -/
theorem WayIn.collector_of_turned {before after : List Stage} {stage : Stage}
    {label : Option String} {out : Ending Response × Flow}
    (standing : ∀ stage ∈ outer, stage.Outer)
    (split : outer ++ [Stage.metrics] = before ++ stage :: after)
    (way : WayIn behind before request flow stops request' flow')
    (ends : Stop.Ends ⟨stage, label, request', flow'⟩ out) :
    (wayOut stops out).2.site.collector = flow.site.collector := by
  obtain ⟨rfl, -⟩ | ⟨rest, rfl⟩ := split_concat split
  · exact absurd ⟨out, ends⟩ (Stage.goesOn_metrics label request' flow').depends
  · have passage := way.passage fun s member => standing s (List.mem_append_left _ member)
    have turned : stage.Outer :=
      standing stage (List.mem_append_right _ List.mem_cons_self)
    calc (wayOut stops out).2.site.collector
      _ = out.2.site.collector := (passage.relays out).collector
      _ = flow'.site.collector := turned.collector_of_ends ends
      _ = flow.site.collector := passage.collector

/-- On the way out a request is recorded if the stages behind have answered it. -/
theorem WayIn.depart (standing : ∀ stage ∈ outer, stage.Outer) (recovers : Stage.recovery ∈ outer)
    (way : WayIn behind (outer ++ [Stage.metrics]) request flow stops request' flow')
    (inner : Ending Response) (f : Flow) {out : Ending Response × Flow}
    (left : wayOut stops (inner, f) = out) :
    Departure.Told ⟨request, inner, out.1⟩ ∧
      ((Departure.line? ⟨request, inner, out.1⟩ = none ∧
          out.2.site.collector = f.site.collector) ∨
        ∃ m, Departure.line? ⟨request, inner, out.1⟩ = some m.line ∧
          out.2.site.collector = f.site.collector.recordHttp m) := by
  obtain ⟨before, last, lastFlow, through, -, rfl⟩ := way.of_concat
  rw [wayOut_concat] at left
  have passage := through.passage standing
  cases inner with
  | done r =>
      obtain ⟨m, f', answers, line, recorded⟩ :=
        Stage.leave_metrics_done behind.label last lastFlow r f
      rw [answers] at left
      subst left
      have relays := passage.relays (.done r, f')
      refine ⟨⟨fun status => relays.answered status, nofun, nofun⟩,
        .inr ⟨m, ?_, relays.collector.trans recorded⟩⟩
      obtain ⟨answer, outcome, status⟩ := relays.answered r.status ⟨r, rfl, rfl⟩
      rw [line, passage.method, passage.path, ← status, outcome]
      rfl
  | panicked p =>
      obtain ⟨f', resumed, kept⟩ :=
        Stage.leave_metrics_unanswered behind.label last lastFlow (.panicked p) nofun f
      rw [resumed] at left
      subst left
      have rescued := through.rescues standing recovers p f'
      refine ⟨⟨nofun, fun _ _ => rescued, nofun⟩, .inl ⟨rfl, ?_⟩⟩
      exact (passage.relays (.panicked p, f')).collector.trans kept
  | dropped =>
      obtain ⟨f', resumed, kept⟩ :=
        Stage.leave_metrics_unanswered behind.label last lastFlow .dropped nofun f
      rw [resumed] at left
      subst left
      have relays := passage.relays (.dropped, f')
      exact ⟨⟨nofun, nofun, fun _ => relays.dropped rfl⟩, .inl ⟨rfl, relays.collector.trans kept⟩⟩

end

namespace Traffic

variable {behind : Next} {outer : List Stage} {start site : Site} {guests : List Guest}
  {departures : List Departure}

/-- What a run keeps: guests have come in by all stages, departures are told and recorded. -/
structure Kept (behind : Next) (stages : List Stage) (start : Site) (guests : List Guest)
    (departures : List Departure) (site : Site) : Prop where
  entered : ∀ guest ∈ guests, ∃ flow request' flow',
    WayIn behind stages guest.request flow guest.stops request' flow'
  told : ∀ d ∈ departures, d.Told
  tally : Tally start.collector departures site.collector

theorem kept (standing : ∀ stage ∈ outer, stage.Outer) (recovers : Stage.recovery ∈ outer)
    (sound : start.collector.Sound)
    (traffic : Traffic behind (outer ++ [Stage.metrics]) start guests departures site) :
    Kept behind (outer ++ [Stage.metrics]) start guests departures site := by
  induction traffic with
  | start => exact ⟨List.forall_mem_nil _, List.forall_mem_nil _, .initial sound⟩
  | @arrive guests departures site context request request' flow' stops traffic way ih =>
      have same := way.collector_eq standing
      refine ⟨fun guest member => ?_, ih.told, same ▸ ih.tally⟩
      obtain old | new := List.mem_append.mp member
      · exact ih.entered guest old
      · obtain rfl := List.mem_singleton.mp new
        exact ⟨_, _, _, way⟩
  | turn traffic split way ends ih =>
      have same := way.collector_of_turned standing split ends
      exact ⟨ih.entered, ih.told, same ▸ ih.tally⟩
  | @depart guest departures site before after traffic inner context ih =>
      obtain ⟨flow, request', flow', way⟩ := ih.entered guest (by simp)
      obtain ⟨told, counted⟩ := way.depart standing recovers inner ⟨context, site⟩ rfl
      refine ⟨fun other member => ih.entered other ?_, fun d member => ?_, ?_⟩
      · obtain earlier | later := List.mem_append.mp member
        · exact List.mem_append_left _ earlier
        · exact List.mem_append_right _ (List.mem_cons_of_mem _ later)
      · obtain old | new := List.mem_append.mp member
        · exact ih.told d old
        · exact List.mem_singleton.mp new ▸ told
      · obtain ⟨none, same⟩ | ⟨m, line, same⟩ := counted
        · rw [same]
          exact ih.tally.unrecorded none
        · rw [same]
          exact ih.tally.record sound.room line
  | elsewhere traffic history capacity ih =>
      exact ⟨ih.entered, ih.told, ih.tally.congr history capacity⟩

/-- Where nothing behind the stages records requests, one request after the other is a run. -/
theorem serve {stages : List Stage} (single : ∀ stage ∈ stages, stage.GoesOnOnce)
    (keeps : ∀ request flow, (behind.run request flow).2.site.collector = flow.site.collector)
    (traffic : Traffic behind stages start guests departures site) (request : Request)
    (context : Context) {outcome : Ending Response} {after : Flow}
    (run : (compose stages behind).run request ⟨context, site⟩ = (outcome, after)) :
    ∃ more, Traffic behind stages start guests (departures ++ more) after.site ∧
      ∀ d ∈ more, d.request = request ∧ d.outcome = outcome := by
  have journey := journey_run single behind request ⟨context, site⟩
  rw [run] at journey
  generalize left : (outcome, after) = out at journey
  cases journey with
  | @through stops request' flow' way =>
      have same := keeps request' flow'
      cases ended : behind.run request' flow' with
      | mk inner flow'' =>
          rw [ended] at same left
          have waits := (traffic.arrive way).elsewhere (congrArg _ same) (congrArg _ same)
          have departs := Traffic.depart guests [] waits inner flow''.context
          rw [List.append_nil, ← left] at departs
          refine ⟨_, departs, fun d member => ?_⟩
          obtain rfl := List.mem_singleton.mp member
          exact ⟨rfl, rfl⟩
  | turned split way ends =>
      have turned := traffic.turn split way ends
      rw [← left] at turned
      exact ⟨[], by rwa [List.append_nil], List.forall_mem_nil _⟩

/-- Every client is told the status that the stages behind have answered, or of an internal error if
they have panicked. Of the requests that come back out exactly those are recorded that have been
answered behind the metrics stage: each once, as its client sees it, in the order in which they come
back. -/
theorem recorded_in_order (standing : ∀ stage ∈ outer, stage.Outer)
    (recovers : Stage.recovery ∈ outer) (sound : start.collector.Sound)
    (traffic : Traffic behind (outer ++ [Stage.metrics]) start guests departures site) :
    (∀ d ∈ departures, d.Told) ∧ Tally start.collector departures site.collector :=
  have kept := traffic.kept standing recovers sound
  ⟨kept.told, kept.tally⟩

/-- Of two requests the later one is answered first, while a third one panics. -/
theorem recorded_in_order_three_requests :
    let handler : Handler := fun _ request =>
      if request.path = "/a" then Act.pure (.ok ⟨200, [], ""⟩)
      else if request.path = "/b" then Act.pure (.ok ⟨404, [], ""⟩)
      else Act.panic .other
    ∃ departures site,
      Traffic (.endpoint handler) ([Stage.recovery] ++ [Stage.metrics]) {} [] departures site ∧
      (∀ d ∈ departures, d.Told) ∧ departures.length = 3 ∧
      site.collector.http.map HttpMetric.line = [("PUT", "/b", 404), ("GET", "/a", 200)] := by
  intro handler
  let context := Context.withSignal 0
  have way (request : Request) (flow : Flow) :
      WayIn (.endpoint handler) ([Stage.recovery] ++ [Stage.metrics]) request flow
        [⟨Stage.recovery, some "metrics", request, flow⟩, ⟨Stage.metrics, none, request, flow⟩]
        request (Stage.metered flow) :=
    .pass (Stage.passes_recovery _ _ _).goesOn (.pass (Stage.goesOn_metrics _ _ _) (.here _ _))
  let first : Request := ⟨.get, ⟨"/a", some "x=1"⟩, [], ""⟩
  let second : Request := ⟨.put, ⟨"/b", none⟩, [], ""⟩
  let third : Request := ⟨.get, ⟨"/c", none⟩, [], ""⟩
  have none : Traffic (.endpoint handler) ([Stage.recovery] ++ [Stage.metrics]) {} [] [] {} :=
    .start
  have one := none.arrive (way first ⟨context, _⟩)
  have two := one.arrive (way second ⟨context, _⟩)
  have three := two.arrive (way third ⟨context, _⟩)
  have answered := Traffic.depart [_] [_] three (.done ⟨404, [], ""⟩) context
  have panicked := Traffic.depart [_] [] answered (.panicked .other) context
  have traffic := Traffic.depart [] [] panicked (.done ⟨200, [], ""⟩) context
  have standing : ∀ stage ∈ [Stage.recovery], stage.Outer := by
    intro stage member
    obtain rfl := List.mem_singleton.mp member
    exact .recovery
  obtain ⟨told, tally⟩ := recorded_in_order standing (List.mem_singleton_self _)
    (Collector.sound_withCapacity 1000 100) traffic
  obtain ⟨recorded, lines, http⟩ := tally.history
  have counted : recorded.map HttpMetric.line = [("PUT", "/b", 404), ("GET", "/a", 200)] := lines
  have short : recorded.length = 2 := by simpa using congrArg List.length counted
  refine ⟨_, _, traffic, told, rfl, ?_⟩
  rw [http, List.nil_append, List.rtake, short]
  exact counted

end Traffic

/-- So a client may be answered without being counted. -/
theorem panic_not_recorded :
    let handler : Handler := fun _ _ => Act.panic (.text "lost")
    let request : Request := ⟨.get, ⟨"/a", none⟩, [], ""⟩
    ∃ answer after,
      (compose [Stage.recovery, Stage.metrics] (.endpoint handler)).run request
        ⟨Context.withSignal 0, {}⟩ = (.done answer, after) ∧
      answer.status = 500 ∧ after.site.collector.http = [] :=
  ⟨_, _, rfl, rfl, rfl⟩

end HttpService

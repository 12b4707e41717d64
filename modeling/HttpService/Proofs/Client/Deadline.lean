import HttpService.Proofs.Client.Attempts

/-!
# Deadlines of calls

A call that is tied to a request reads once how much of its time is left, and no attempt may take
longer than that. The deadline itself is not kept: every attempt has that time anew, however late it
is made, and a timeout that is set afterwards takes its place. Only the request's signal stops a
call for good.
-/

namespace HttpService

namespace Call

/-- A step in which a call is put together. -/
inductive Step
  | header (name value : String)
  | headers (more : Headers)
  | bearerToken (token : String)
  | json (value : Payload)
  | body (body : String)
  | signal (signal : Nat)
  | timeout (timeout : Span)
  | retry (policy : RetryPolicy)
  /-- Ties the call to a request, at a reading of the clock. -/
  | context (ctx : Context) (now : Nat)

def take (c : Call) : Step → Call
  | .header name value => c.header name value
  | .headers more => c.withHeaders more
  | .bearerToken token => c.bearerToken token
  | .json value => c.json value
  | .body body => c.withBody body
  | .signal signal => c.withSignal signal
  | .timeout timeout => c.withTimeout timeout
  | .retry policy => c.withRetry policy
  | .context ctx now => c.withContext ctx now

/-- The call that comes of steps in their order. -/
def build (c : Call) (steps : List Step) : Call :=
  steps.foldl take c

/-! ## What steps do to the time of an attempt and to the signal -/

variable {c : Call} {ctx : Context} {now deadline left : Nat} {step : Step} {steps : List Step}

/-- Apart from the time that is left, a context gives a call its signal and perhaps a header. -/
theorem withContext_eq (c : Call) (ctx : Context) (now : Nat) :
    ∃ named : Call, named.timeout = c.timeout ∧ named.signal = some ctx.signal ∧
      c.withContext ctx now =
        match ctx.remaining now with
        | none => named
        | some left =>
            match named.timeout with
            | some t => named.withTimeout (if left.nanos < t.nanos then left else t)
            | none => named.withTimeout left := by
  refine ⟨_, ?_, ?_, rfl⟩
  · split
    · split <;> rfl
    · rfl
  · split
    · split <;> rfl
    · rfl

/-- An attempt of the call may take no longer than this. -/
def Limited (left : Nat) (c : Call) : Prop :=
  ∃ t, c.timeout = some t ∧ t.nanos ≤ left

theorem limited_withContext (due : ctx.deadline = some deadline) :
    Limited (deadline - now) (c.withContext ctx now) := by
  obtain ⟨named, -, -, tied⟩ := c.withContext_eq ctx now
  have remaining : ctx.remaining now = some ⟨deadline - now⟩ := by
    rw [Context.remaining, due]
    rfl
  rw [tied, remaining]
  dsimp only
  split
  · split
    · exact ⟨_, rfl, le_rfl⟩
    · next shorter => exact ⟨_, rfl, Nat.not_lt.mp shorter⟩
  · exact ⟨_, rfl, le_rfl⟩

/-- A further context can only lower what an attempt may take. -/
theorem Limited.withContext (limited : Limited left c) (ctx : Context) (now : Nat) :
    Limited left (c.withContext ctx now) := by
  obtain ⟨named, timeout, -, tied⟩ := c.withContext_eq ctx now
  obtain ⟨t, timed, short⟩ := limited
  rw [tied]
  split
  · exact ⟨t, timeout.trans timed, short⟩
  · rw [timeout, timed]
    dsimp only
    split
    · next less => exact ⟨_, rfl, less.le.trans short⟩
    · exact ⟨_, rfl, short⟩

theorem signal_withContext (c : Call) (ctx : Context) (now : Nat) :
    (c.withContext ctx now).signal = some ctx.signal := by
  obtain ⟨named, -, signal, tied⟩ := c.withContext_eq ctx now
  rw [tied]
  split
  · exact signal
  · split <;> exact signal

/-- Steps that set a timeout. -/
def Step.SetsTimeout : Step → Prop
  | .timeout _ => True
  | _ => False

/-- Steps that say which signal stops the call. -/
def Step.SetsSignal : Step → Prop
  | .signal _ | .context _ _ => True
  | _ => False

/-- Only a timeout and a context bear on what an attempt may take. -/
theorem timeout_take (plain : ¬ step.SetsTimeout) (untied : ∀ ctx now, step ≠ .context ctx now) :
    (c.take step).timeout = c.timeout := by
  cases step with
  | timeout t => exact absurd trivial plain
  | context ctx now => exact absurd rfl (untied ctx now)
  | bearerToken token =>
      simp only [take, bearerToken]
      split <;> rfl
  | json value =>
      simp only [take, json]
      split <;> rfl
  | _ => rfl

theorem signal_take (plain : ¬ step.SetsSignal) : (c.take step).signal = c.signal := by
  cases step with
  | signal g => exact absurd trivial plain
  | context ctx now => exact absurd trivial plain
  | bearerToken token =>
      simp only [take, bearerToken]
      split <;> rfl
  | json value =>
      simp only [take, json]
      split <;> rfl
  | _ => rfl

theorem Limited.take (limited : Limited left c) (plain : ¬ step.SetsTimeout) :
    Limited left (c.take step) := by
  by_cases tied : ∃ ctx now, step = .context ctx now
  · obtain ⟨ctx, now, rfl⟩ := tied
    exact limited.withContext ctx now
  · obtain ⟨t, timed, short⟩ := limited
    exact ⟨t, (timeout_take plain fun ctx now same => tied ⟨ctx, now, same⟩).trans timed, short⟩

theorem Limited.build (limited : Limited left c) (plain : ∀ step ∈ steps, ¬ step.SetsTimeout) :
    Limited left (c.build steps) :=
  List.foldlRecOn steps Call.take limited fun _ limited step mem => limited.take (plain step mem)

theorem timeout_build (plain : ∀ step ∈ steps, ¬ step.SetsTimeout)
    (untied : ∀ ctx now, .context ctx now ∉ steps) : (c.build steps).timeout = c.timeout :=
  List.foldlRecOn (motive := fun d => d.timeout = c.timeout) steps Call.take rfl
    fun _ kept step mem => (timeout_take (plain step mem)
      fun ctx now same => untied ctx now (same ▸ mem)).trans kept

theorem signal_build (plain : ∀ step ∈ steps, ¬ step.SetsSignal) :
    (c.build steps).signal = c.signal :=
  List.foldlRecOn (motive := fun d => d.signal = c.signal) steps Call.take rfl
    fun _ kept step mem => (signal_take (plain step mem)).trans kept

theorem build_append (c : Call) (before after : List Step) :
    c.build (before ++ after) = (c.build before).build after :=
  List.foldl_append

theorem prepare_of_resolve {url : Url} (sound : c.fault = none)
    (resolved : c.client.resolve c.path = .ok url) (hosted : url.hosted = true) :
    c.prepare = .ok ⟨c.method, url, c.allHeaders url, c.body,
      c.timeout.getD c.client.config.timeout⟩ := by
  rw [prepare, sound, resolved]
  dsimp only [bind, Except.bind]
  rw [hosted]
  rfl

theorem timeout_of_prepare {p : Prepared} (prepared : c.prepare = .ok p) :
    p.timeout = c.timeout.getD c.client.config.timeout := by
  unfold prepare at prepared
  split at prepared
  · cases prepared
  · cases resolved : c.client.resolve c.path with
    | error f =>
        rw [resolved] at prepared
        cases prepared
    | ok url =>
        rw [resolved] at prepared
        dsimp only [bind, Except.bind] at prepared
        split at prepared
        · cases prepared
          rfl
        · cases prepared

end Call

/-! ## When attempts are made -/

namespace Plan.Kept

variable {plan : Plan} {signal : Option Nat} {reason : Nat → Option String} {e : Exchange}
  {s : Nat × Prepared} {t : Nat}

theorem mem_sent (kept : plan.Kept signal reason e) (mem : s ∈ e.sent) :
    plan.begins ≤ s.1 ∧ s.2 = plan.request := by
  have planned : s ∈ plan.sends (plan.retries + 1) := by
    obtain later | ⟨t, fires, early⟩ := later_or_early signal (plan.finish plan.retries)
    · exact (kept.whole later).1 ▸ mem
    · rw [(kept.cut t fires early).1] at mem
      exact (List.takeWhile_sublist _).subset mem
  obtain ⟨i, -, rfl⟩ := List.mem_map.mp planned
  exact ⟨plan.start_le_start (Nat.zero_le i), rfl⟩

/-- The first attempt is made at once, unless the signal has fired before. -/
theorem first_sent (kept : plan.Kept signal reason e)
    (quiet : ∀ t, signal = some t → plan.begins < t) :
    ∃ more, e.sent = (plan.begins, plan.request) :: more := by
  have planned : plan.sends (plan.retries + 1) = (plan.begins, plan.request) ::
      (List.range plan.retries).map fun i => (plan.start (i + 1), plan.request) := by
    rw [sends, List.range_succ_eq_map, List.map_cons, List.map_map]
    rfl
  obtain later | ⟨t, fires, early⟩ := later_or_early signal (plan.finish plan.retries)
  · rw [(kept.whole later).1, planned]
    exact ⟨_, rfl⟩
  · have before : decide (plan.begins < t) = true := decide_eq_true (quiet t fires)
    rw [(kept.cut t fires early).1, planned, List.takeWhile_cons, if_pos before]
    exact ⟨_, rfl⟩

/-- A signal is the end of a call: no attempt is made from then on. -/
theorem before_signal (kept : plan.Kept (some t) reason e) :
    (∀ s ∈ e.sent, s.1 < t) ∧ e.ended ≤ max plan.begins t := by
  obtain early | later := Nat.lt_or_ge (plan.finish plan.retries) t |>.symm
  · obtain ⟨sent, ended, -⟩ := kept.cut t rfl early
    refine ⟨fun s mem => ?_, ended.le⟩
    rw [sent] at mem
    exact of_decide_eq_true
      (List.mem_takeWhile_imp (p := fun s : Nat × Prepared => decide (s.1 < t)) mem)
  · obtain ⟨sent, ended, -⟩ := kept.whole fun _ fires => Option.some.inj fires ▸ later
    refine ⟨fun s mem => ?_, ended.le.trans (later.le.trans (le_max_right _ _))⟩
    rw [sent] at mem
    obtain ⟨i, inside, rfl⟩ := List.mem_map.mp mem
    have within : i ≤ plan.retries := Nat.lt_succ_iff.mp (List.mem_range.mp inside)
    exact ((plan.start_le_start within).trans plan.start_le_finish).trans_lt later

end Plan.Kept

namespace Call

/-- Every attempt begins by the deadline and may not go on beyond it. -/
def Within (deadline : Nat) (e : Exchange) : Prop :=
  ∀ s ∈ e.sent, s.1 ≤ deadline ∧ s.1 + s.2.timeout.nanos ≤ deadline

/-- What a context does for the deadline of its request. Unless a timeout is set after it, each
attempt may take as long as was left when the context was read, so that it can exceed the deadline
by the time that has passed since then; a timeout that is set after it is what counts. Whatever the
deadline is, only a signal keeps the call from its first attempt; as long as the signal is that of
the context, no attempt is made once that has fired, and the call does not outlast it. -/
theorem deadline_limits_attempts (c : Call) (before after : List Step) (ctx : Context)
    {deadline read now : Nat} (due : ctx.deadline = some deadline) (later : read ≤ now)
    (reason : Nat → Option String) (net : Network) (fires : Nat → Option Nat) {p : Prepared}
    (prepared : (c.build (before ++ .context ctx read :: after)).prepare = .ok p)
    (copies : net.copy? p = some p) :
    let e := (c.build (before ++ .context ctx read :: after)).send reason net fires now
    ((∀ step ∈ after, ¬ step.SetsTimeout) → p.timeout.nanos ≤ deadline - read ∧
      ∀ s ∈ e.sent, read ≤ s.1 ∧
        s.1 + s.2.timeout.nanos ≤ max deadline read + (s.1 - read)) ∧
    (∀ earlier t others, after = earlier ++ .timeout t :: others →
      (∀ step ∈ others, ¬ step.SetsTimeout) → (∀ ctx' now', .context ctx' now' ∉ others) →
        ∀ s ∈ e.sent, s.2.timeout = t) ∧
    ((∀ step ∈ after, ¬ step.SetsSignal) →
      ((∀ t, fires ctx.signal = some t → now < t) → ∃ more, e.sent = (now, p) :: more) ∧
      ∀ t, fires ctx.signal = some t → (∀ s ∈ e.sent, s.1 < t) ∧ e.ended ≤ max now t) := by
  intro e
  let call := c.build (before ++ .context ctx read :: after)
  have tied : call = ((c.build before).withContext ctx read).build after :=
    c.build_append before (.context ctx read :: after)
  have kept : (Plan.mk net call.retry p now).Kept (call.signal.bind fires) reason e := by
    have sent : e = _ := call.send_of_prepared reason net fires now prepared
    rw [sent]
    exact Plan.exchange_kept _ copies _ _
  refine ⟨fun plain => ?_, ?_, ?_⟩
  · have limited : Limited (deadline - read) call := tied ▸ (limited_withContext due).build plain
    obtain ⟨t, timed, short⟩ := limited
    have timeout : p.timeout = t := by
      rw [timeout_of_prepare prepared, timed]
      rfl
    refine ⟨timeout ▸ short, fun s mem => ?_⟩
    obtain ⟨begun, same⟩ := kept.mem_sent mem
    have begun : now ≤ s.1 := begun
    have same : s.2 = p := same
    rw [same, timeout]
    omega
  · rintro earlier t others rfl plain untied s mem
    have timed : call.timeout = some t := by
      rw [tied, build_append]
      exact timeout_build plain untied
    rw [(kept.mem_sent mem).2]
    exact (timeout_of_prepare prepared).trans (timed ▸ rfl)
  · intro plain
    have signal : call.signal.bind fires = fires ctx.signal := by
      rw [tied, signal_build plain, signal_withContext]
      rfl
    rw [signal] at kept
    refine ⟨fun quiet => kept.first_sent quiet, fun t fired => ?_⟩
    rw [fired] at kept
    exact kept.before_signal

/-- The context bounds the timeout that was set before it, and its signal fires in the attempt. -/
theorem deadline_limits_attempts_half_gone :
    let net : Network := ⟨fun _ _ _ => ⟨⟨10⟩, .error (.network "connection failed")⟩, some⟩
    let client : Client := ⟨.only "http://h/x", { baseUrl := "http://h" }, []⟩
    let ctx : Context := { deadline := some 40, signal := 0 }
    let call := (Call.new client .get "/x").build [.timeout ⟨60⟩, .context ctx 20]
    let e := call.send (fun _ => none) net (fun _ => some 25) 20
    (∃ p more, e.sent = (20, p) :: more) ∧
    (∀ s ∈ e.sent, s.1 + s.2.timeout.nanos ≤ 40 + (s.1 - 20) ∧ s.1 < 25) ∧ e.ended ≤ 25 := by
  intro net client ctx call e
  let url : Url := { text := "http://h/x", bare := "http://h/x" }
  have address : client.addressOf "/x" = "http://h/x" := by decide +kernel
  have resolved : client.resolve "/x" = .ok url :=
    Client.resolve_of_read (UrlReader.read_only address)
  have prepared : call.prepare = .ok ⟨.get, url, [], none, ⟨20⟩⟩ :=
    prepare_of_resolve rfl resolved rfl
  obtain ⟨limits, -, stops⟩ := (Call.new client .get "/x").deadline_limits_attempts
    [.timeout ⟨60⟩] [] ctx rfl (le_refl 20) (fun _ => none) net (fun _ => some 25) prepared rfl
  obtain ⟨-, reach⟩ := limits (fun _ mem => absurd mem List.not_mem_nil)
  obtain ⟨first, last⟩ := stops (fun _ mem => absurd mem List.not_mem_nil)
  obtain ⟨begins, ended⟩ := last 25 rfl
  obtain ⟨more, made⟩ := first (by rintro t ⟨⟩; decide)
  exact ⟨⟨_, _, made⟩, fun s mem => ⟨(reach s mem).2, begins s mem⟩, ended⟩

/-- Unstopped, a call sends what its plan says. -/
theorem sent_of_quiet {c : Call} {reason : Nat → Option String} {net : Network}
    {fires : Nat → Option Nat} {now : Nat} {p : Prepared} (prepared : c.prepare = .ok p)
    (copies : net.copy? p = some p) (quiet : c.signal.bind fires = none) :
    (c.send reason net fires now).sent =
      (Plan.mk net c.retry p now).sends ((Plan.mk net c.retry p now).retries + 1) := by
  rw [c.send_of_prepared reason net fires now prepared]
  refine ((Plan.exchange_kept _ copies _ reason).whole fun t stopped => ?_).1
  rw [quiet] at stopped
  cases stopped

/-- A retry that is made when the deadline has passed, and a timeout that is set after the context
and reaches past it. -/
theorem not_within_deadline :
    let net : Network := ⟨fun _ _ _ => ⟨.zero, .error (.network "connection failed")⟩, some⟩
    let client : Client := ⟨.only "http://h/x", { baseUrl := "http://h" }, []⟩
    let ctx : Context := { deadline := some 5, signal := 0 }
    let once : RetryPolicy := ⟨1, ⟨10⟩, ⟨10⟩, RetryPolicy.isTransient⟩
    let send := fun steps =>
      ((Call.new client .get "/x").build steps).send (fun _ => none) net (fun _ => none) 0
    ¬ Within 5 (send [.retry once, .context ctx 0]) ∧
    ¬ Within 5 (send [.retry .none, .context ctx 0, .timeout ⟨30⟩]) := by
  intro net client ctx once send
  let url : Url := { text := "http://h/x", bare := "http://h/x" }
  have address : client.addressOf "/x" = "http://h/x" := by decide +kernel
  have resolved : client.resolve "/x" = .ok url :=
    Client.resolve_of_read (UrlReader.read_only address)
  constructor
  · have sent : (send [.retry once, .context ctx 0]).sent =
        [(0, ⟨.get, url, [], none, ⟨5⟩⟩), (10, ⟨.get, url, [], none, ⟨5⟩⟩)] :=
      sent_of_quiet (prepare_of_resolve rfl resolved rfl) rfl rfl
    simp [Within, sent]
  · have sent : (send [.retry .none, .context ctx 0, .timeout ⟨30⟩]).sent =
        [(0, ⟨.get, url, [], none, ⟨30⟩⟩)] :=
      sent_of_quiet (prepare_of_resolve rfl resolved rfl) rfl rfl
    simp [Within, sent]

end Call

end HttpService

import HttpService.Proofs.Client.Schedule
import Mathlib.Logic.Relation

/-!
# Attempts

A call makes the attempts of its plan, one after the other, until the last one or until its signal
fires. A round of the plan leads to the next one or to the end of the call; the rounds of a call are
the first rounds of its plan.
-/

namespace HttpService

theorem fired_mono {signal : Option Nat} {a b : Nat} (le : a ≤ b) (quiet : fired signal b = false) :
    fired signal a = false := by
  cases signal with
  | none => rfl
  | some t =>
      simp only [fired, decide_eq_false_iff_not] at quiet ⊢
      omega

/-- A signal that fires later, if it does, is quiet now. -/
theorem fired_of_later {signal : Option Nat} {a : Nat} (later : ∀ t, signal = some t → a < t) :
    fired signal a = false := by
  cases signal with
  | none => rfl
  | some t => exact decide_eq_false (Nat.not_le.mpr (later t rfl))

theorem later_or_early (signal : Option Nat) (a : Nat) :
    (∀ t, signal = some t → a < t) ∨ ∃ t, signal = some t ∧ t ≤ a := by
  cases signal with
  | none => exact .inl fun _ fires => nomatch fires
  | some t =>
      obtain later | early := Nat.lt_or_ge a t
      · exact .inl fun _ fires => Option.some.inj fires ▸ later
      · exact .inr ⟨t, rfl, early⟩

namespace Round

variable {net : Network} {policy : RetryPolicy} {signal : Option Nat} {r r' : Round} {e : Exchange}

theorem play_of_ends (turned : r.turn net policy signal = .ends e) :
    r.play net policy signal = e := by
  rw [play]
  split
  · next e' turned' => cases turned.symm.trans turned'; rfl
  · next next turned' => cases turned.symm.trans turned'

theorem play_of_again (turned : r.turn net policy signal = .again r') :
    r.play net policy signal = r'.play net policy signal := by
  rw [play]
  split
  · next e' turned' => cases turned.symm.trans turned'
  · next next turned' => cases turned.symm.trans turned'; rfl

/-- The rounds that a call comes to. -/
def Reaches (net : Network) (policy : RetryPolicy) (signal : Option Nat) : Round → Round → Prop :=
  Relation.ReflTransGen fun r r' => r.turn net policy signal = .again r'

/-- A call that has begun with a request has one for every attempt. -/
theorem template_of_reaches {p : Prepared} {now : Nat}
    (reached : Reaches net policy signal (start p now) r) : r.template.isSome := by
  cases reached with
  | refl => rfl
  | tail _ turned => exact (turn_eq_again turned).2.2

end Round

namespace Plan

variable (plan : Plan) {signal : Option Nat} {i t : Nat}

section

-- The bodies of calls are whole texts, so there is a copy for every further attempt.
variable (copies : plan.net.copy? plan.request = some plan.request)

include copies

/-- What a round of a plan leads to. -/
theorem turn_round (signal : Option Nat) (i : Nat) :
    (plan.round i).turn plan.net plan.policy signal =
      if fired signal (plan.start i) then
        (plan.round i).stopped signal (plan.start i) Exchange.cancelled
      else
        let tried := { plan.round i with sent := plan.sends (i + 1) }
        if fired signal (plan.finish i) then tried.stopped signal (plan.start i) Exchange.cancelled
        else if !plan.policy.retryable (plan.trial i).outcome || plan.policy.maxRetries ≤ i then
          tried.stop (plan.finish i) (plan.trial i).outcome
        else if fired signal (plan.start (i + 1)) then
          tried.stopped signal (plan.finish i) (Exchange.cancelledWaiting (i + 1))
        else .again (plan.round (i + 1)) := by
  simp only [Round.turn, round, sends_succ, waits_succ, copies, Option.isNone_some, Bool.or_false]
  rfl

/-- While the signal is quiet, a round before the last one leads to the next one. -/
theorem turn_again (more : i < plan.retries) (quiet : fired signal (plan.start (i + 1)) = false) :
    (plan.round i).turn plan.net plan.policy signal = .again (plan.round (i + 1)) := by
  obtain ⟨bound, passed, -⟩ := plan.retries_spec
  have during := fired_mono plan.finish_le_start quiet
  have before := fired_mono plan.start_le_finish during
  have allowed : ¬ plan.policy.maxRetries ≤ i := by omega
  simp only [plan.turn_round copies, before, during, passed i more, allowed, quiet, decide_false,
    Bool.not_true, Bool.or_self, Bool.false_eq_true, ↓reduceIte]

/-- The last round is the end of a call, with the outcome of its attempt. -/
theorem turn_last (quiet : fired signal (plan.finish plan.retries) = false) :
    (plan.round plan.retries).turn plan.net plan.policy signal =
      .ends ⟨plan.sends (plan.retries + 1), plan.waits plan.retries, plan.finish plan.retries,
        (plan.trial plan.retries).outcome⟩ := by
  obtain ⟨bound, -, rejected⟩ := plan.retries_spec
  have before := fired_mono plan.start_le_finish quiet
  have ends : (!plan.policy.retryable (plan.trial plan.retries).outcome ||
      decide (plan.policy.maxRetries ≤ plan.retries)) = true := by
    obtain fewer | all := Nat.lt_or_eq_of_le bound
    · rw [rejected fewer]
      rfl
    · rw [all, decide_eq_true le_rfl, Bool.or_true]
  simp only [plan.turn_round copies, before, quiet, ends, Bool.false_eq_true, ↓reduceIte]
  rfl

/-- A signal that has fired before a call stops it at once. -/
theorem turn_silent (early : t ≤ plan.begins) :
    (plan.round 0).turn plan.net plan.policy (some t) =
      .ends ⟨[], [], plan.begins, .error Exchange.cancelled⟩ := by
  have before : fired (some t) (plan.start 0) = true := decide_eq_true early
  rw [plan.turn_round copies, if_pos before]
  have time : max plan.begins t = plan.begins := max_eq_left early
  exact congrArg (fun time => Turn.ends ⟨[], [], time, .error Exchange.cancelled⟩) time

/-- A signal that fires in an attempt, or in the wait after it, stops the call when it fires. -/
theorem turn_cut (begun : plan.start i < t)
    (cut : t ≤ plan.finish i ∨ i < plan.retries ∧ t ≤ plan.start (i + 1)) :
    ∃ f, (plan.round i).turn plan.net plan.policy (some t) =
      .ends ⟨plan.sends (i + 1), plan.waits i, t, .error f⟩ ∧
      (f = Exchange.cancelled ∨ f = Exchange.cancelledWaiting (i + 1)) := by
  have before : fired (some t) (plan.start i) = false := decide_eq_false (Nat.not_le.mpr begun)
  by_cases trying : t ≤ plan.finish i
  · have during : fired (some t) (plan.finish i) = true := decide_eq_true trying
    refine ⟨Exchange.cancelled, ?_, .inl rfl⟩
    simp only [plan.turn_round copies, before, during, Bool.false_eq_true, ↓reduceIte,
      Round.stopped, Round.stop, Option.getD_some, max_eq_right begun.le]
    rfl
  · obtain ⟨more, waiting⟩ := cut.resolve_left trying
    obtain ⟨bound, passed, -⟩ := plan.retries_spec
    have during : fired (some t) (plan.finish i) = false := decide_eq_false trying
    have next : fired (some t) (plan.start (i + 1)) = true := decide_eq_true waiting
    have allowed : ¬ plan.policy.maxRetries ≤ i := by omega
    refine ⟨Exchange.cancelledWaiting (i + 1), ?_, .inr rfl⟩
    simp only [plan.turn_round copies, before, during, passed i more, allowed, next, decide_false,
      Bool.not_true, Bool.or_self, Bool.false_eq_true, ↓reduceIte, Round.stopped, Round.stop,
      Option.getD_some, max_eq_right (Nat.not_le.mp trying).le]
    rfl

/-- While the signal is quiet, a call comes to one round after the other. -/
theorem play_round (within : i ≤ plan.retries)
    (quiet : i = 0 ∨ fired signal (plan.start i) = false) :
    (plan.round 0).play plan.net plan.policy signal =
      (plan.round i).play plan.net plan.policy signal := by
  induction i with
  | zero => rfl
  | succ i ih =>
      have quiet := quiet.resolve_left (Nat.succ_ne_zero i)
      have earlier := fired_mono (plan.start_le_start (Nat.le_succ i)) quiet
      rw [ih (by omega) (.inr earlier), Round.play_of_again (plan.turn_again copies within quiet)]

theorem play_whole (quiet : fired signal (plan.finish plan.retries) = false) :
    (plan.round 0).play plan.net plan.policy signal =
      ⟨plan.sends (plan.retries + 1), plan.waits plan.retries, plan.finish plan.retries,
        (plan.trial plan.retries).outcome⟩ := by
  rw [plan.play_round copies le_rfl (.inr (fired_mono plan.start_le_finish quiet)),
    Round.play_of_ends (plan.turn_last copies quiet)]

theorem play_silent (early : t ≤ plan.begins) :
    (plan.round 0).play plan.net plan.policy (some t) =
      ⟨[], [], plan.begins, .error Exchange.cancelled⟩ :=
  Round.play_of_ends (plan.turn_silent copies early)

theorem play_cut (begun : plan.begins < t) (early : t ≤ plan.finish plan.retries) :
    ∃ i f, (plan.sends (plan.retries + 1)).takeWhile (fun s => s.1 < t) = plan.sends (i + 1) ∧
      (plan.round 0).play plan.net plan.policy (some t) =
        ⟨plan.sends (i + 1), plan.waits i, t, .error f⟩ ∧
      (f = Exchange.cancelled ∨ f = Exchange.cancelledWaiting (i + 1)) := by
  obtain ⟨k, bound, taken, made, left⟩ := plan.sends_takeWhile t (plan.retries + 1)
  cases k with
  | zero => exact absurd (left (Nat.succ_pos _)) (Nat.not_le.mpr begun)
  | succ i =>
      -- The last attempt that is made is the one that the signal cuts, or the wait after it.
      have within : i ≤ plan.retries := Nat.le_of_succ_le_succ bound
      have here : plan.start i < t := made i (Nat.lt_succ_self i)
      have cut : t ≤ plan.finish i ∨ i < plan.retries ∧ t ≤ plan.start (i + 1) := by
        obtain more | last := Nat.lt_or_eq_of_le within
        · exact .inr ⟨more, left (Nat.succ_lt_succ more)⟩
        · exact .inl (last ▸ early)
      obtain ⟨f, turned, kind⟩ := plan.turn_cut copies here cut
      have quiet : fired (some t) (plan.start i) = false := decide_eq_false (Nat.not_le.mpr here)
      refine ⟨i, f, taken, ?_, kind⟩
      rw [plan.play_round copies within (.inr quiet), Round.play_of_ends turned]

end

/-- What a call with a plan comes to, whatever its signal does. -/
structure Kept (plan : Plan) (signal : Option Nat) (reason : Nat → Option String)
    (e : Exchange) : Prop where
  /-- Undisturbed, the call makes all attempts and has the outcome of the last one. -/
  whole : (∀ t, signal = some t → plan.finish plan.retries < t) →
    e.sent = plan.sends (plan.retries + 1) ∧ e.ended = plan.finish plan.retries ∧
      e.outcome = plan.request.judge reason (plan.trial plan.retries).outcome
  /-- A signal that fires before the last attempt is over ends the call, and the attempts are made
  that begin before it. -/
  cut : ∀ t, signal = some t → t ≤ plan.finish plan.retries →
    e.sent = (plan.sends (plan.retries + 1)).takeWhile (fun s => s.1 < t) ∧
      e.ended = max plan.begins t ∧
      ∃ f, e.outcome = .error f ∧ f.code = .cancelled ∧
        (f = Exchange.cancelled ∨ f = Exchange.cancelledWaiting e.sent.length)
  silent : ∀ t, signal = some t → t ≤ plan.begins → e.sent = []
  waits : e.waits = plan.waits (e.sent.length - 1)

/-- The exchange of a call with a plan. -/
def exchange (signal : Option Nat) (reason : Nat → Option String) : Exchange :=
  let e := (plan.round 0).play plan.net plan.policy signal
  { e with outcome := plan.request.judge reason e.outcome }

theorem exchange_kept (copies : plan.net.copy? plan.request = some plan.request)
    (signal : Option Nat) (reason : Nat → Option String) :
    plan.Kept signal reason (plan.exchange signal reason) := by
  refine ⟨fun quiet => ?_, ?_, ?_, ?_⟩
  · rw [exchange, plan.play_whole copies (fired_of_later quiet)]
    exact ⟨rfl, rfl, rfl⟩
  · rintro t rfl early
    obtain silent | begun := Nat.lt_or_ge plan.begins t |>.symm
    · rw [exchange, plan.play_silent copies silent, plan.takeWhile_of_silent silent]
      exact ⟨rfl, (max_eq_left silent).symm, Exchange.cancelled, rfl, rfl, .inl rfl⟩
    · obtain ⟨i, f, taken, played, kind⟩ := plan.play_cut copies begun early
      have code : f.code = .cancelled := by obtain rfl | rfl := kind <;> rfl
      rw [exchange, played, taken]
      refine ⟨rfl, (max_eq_right begun.le).symm, f, rfl, code, ?_⟩
      rw [length_sends]
      exact kind
  · rintro t rfl silent
    rw [exchange, plan.play_silent copies silent]
  · obtain later | ⟨t, rfl, early⟩ := later_or_early signal (plan.finish plan.retries)
    · rw [exchange, plan.play_whole copies (fired_of_later later), length_sends,
        Nat.add_sub_cancel]
    obtain silent | begun := Nat.lt_or_ge plan.begins t |>.symm
    · rw [exchange, plan.play_silent copies silent]
      rfl
    · obtain ⟨i, f, -, played, -⟩ := plan.play_cut copies begun early
      rw [exchange, played, length_sends, Nat.add_sub_cancel]

end Plan

theorem Client.resolve_of_read {c : Client} {path : String} {url : Url}
    (read : c.urls.read (c.addressOf path) = .ok url) : c.resolve path = .ok url := by
  unfold resolve
  simp only [read]

namespace Call

variable (c : Call) (reason : Nat → Option String) (net : Network) (fires : Nat → Option Nat)
  (now : Nat) {f : Failure}

theorem prepare_of_fault (fault : c.fault = some f) : c.prepare = .error f := by
  rw [prepare, fault]

theorem prepare_of_unresolved (sound : c.fault = none)
    (unresolved : c.client.resolve c.path = .error f) : c.prepare = .error f := by
  rw [prepare, sound, unresolved]
  rfl

theorem send_of_unprepared (unprepared : c.prepare = .error f) :
    c.send reason net fires now = { ended := now, outcome := .error f } := by
  rw [send, unprepared]

theorem send_of_prepared {p : Prepared} (prepared : c.prepare = .ok p) :
    c.send reason net fires now =
      (Plan.mk net c.retry p now).exchange (c.signal.bind fires) reason := by
  rw [send, prepared]
  rfl

/-- A call makes the attempts that its policy promises, one request over and over. It waits longer
and longer between them, within the cap, and stops when its signal fires. One that cannot be
prepared makes none, and none is ever without a request. -/
theorem send_keeps_plan :
    (∀ f, c.fault = some f ∨ c.fault = none ∧ c.client.resolve c.path = .error f ∨
        c.prepare = .error f →
      (c.send reason net fires now).sent = [] ∧
        (c.send reason net fires now).outcome = .error f) ∧
      (∀ p, c.prepare = .ok p → net.copy? p = some p →
        (Plan.mk net c.retry p now).Kept (c.signal.bind fires) reason
          (c.send reason net fires now)) ∧
      (∀ p r, Round.Reaches net c.retry (c.signal.bind fires) (.start p now) r →
        r.template.isSome) ∧
      (∀ i j, i ≤ j → (c.retry.backoff i).nanos ≤ (c.retry.backoff j).nanos) ∧
      ∀ i, (c.retry.backoff i).nanos ≤ c.retry.maxBackoff.nanos := by
  refine ⟨fun f failed => ?_, fun p prepared copies => ?_,
    fun _ _ => Round.template_of_reaches, fun _ _ => c.retry.backoff_le_backoff,
    fun _ => c.retry.backoff_le_maxBackoff⟩
  · have unprepared : c.prepare = .error f := by
      obtain fault | ⟨sound, unresolved⟩ | unprepared := failed
      · exact c.prepare_of_fault fault
      · exact c.prepare_of_unresolved sound unresolved
      · exact unprepared
    rw [c.send_of_unprepared reason net fires now unprepared]
    exact ⟨rfl, rfl⟩
  · rw [c.send_of_prepared reason net fires now prepared]
    exact (Plan.mk net c.retry p now).exchange_kept copies _ _

/-- The signal fires in the wait after the second of three attempts. -/
theorem send_keeps_plan_cut_short :
    let policy : RetryPolicy := ⟨2, ⟨10⟩, ⟨25⟩, RetryPolicy.isTransient⟩
    let net : Network := ⟨fun _ _ _ => ⟨⟨10⟩, .error (.network "connection failed")⟩, some⟩
    let client : Client := ⟨.only "http://h/x", { baseUrl := "http://h" }, []⟩
    let c : Call := ⟨client, .get, "/x", [], none, some 0, none, policy, none⟩
    let e := c.send (fun _ => none) net (fun _ => some 40) 0
    e.sent.map Prod.fst = [0, 20] ∧ e.waits = [⟨10⟩] ∧ e.ended = 40 ∧
      ∃ f, e.outcome = .error f ∧ f.code = .cancelled := by
  intro policy net client c e
  obtain ⟨-, keeps, -⟩ := c.send_keeps_plan (fun _ => none) net (fun _ => some 40) 0
  let url : Url := { text := "http://h/x", bare := "http://h/x" }
  let p : Prepared := ⟨.get, url, [], none, .ofSeconds 30⟩
  have address : client.addressOf "/x" = "http://h/x" := by decide +kernel
  have resolved : client.resolve "/x" = .ok url :=
    Client.resolve_of_read (UrlReader.read_only address)
  have prepared : c.prepare = .ok p := by
    simp only [c, prepare, resolved]
    rfl
  have kept := keeps p prepared rfl
  have early : 40 ≤ (Plan.mk net policy p 0).finish (Plan.mk net policy p 0).retries := by decide
  obtain ⟨sent, ended, f, outcome, code, -⟩ := kept.cut 40 rfl early
  have made : e.sent = [(0, p), (20, p)] := sent.trans rfl
  refine ⟨by rw [made]; rfl, ?_, ended, f, outcome, code⟩
  have waits : e.waits = _ := kept.waits
  rw [waits, made]
  rfl

end Call

end HttpService

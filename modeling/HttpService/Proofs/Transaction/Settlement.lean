import HttpService.Proofs.Transaction.Ledger
import HttpService.Stage.Transaction

/-!
# Settling transactions

What the stage does with the manager, whatever the rest of the way and the manager do: nothing for a
request that only reads, and for one that writes one begin and, if that gave a transaction, exactly
one commit or rollback of it. Which of the two is decided by the response alone.
-/

namespace HttpService.Stage

variable {manager : TransactionManager} {id : String} {c : Context} {request : Request}
  {next : Next} {f h : Flow} {s : Site} {inner : Ending Response} {r : Response}

/-- The call that settles a transaction whose request has ended so. -/
def settlement (id : String) : Ending Response → TransactionCall
  | .done r => if 200 ≤ r.status ∧ r.status ≤ 399 then .commit id else .rollback id
  | .panicked _ | .dropped => .rollback id

theorem settlement_done (id : String) (r : Response) :
    settlement id (.done r) = if commits r.status then .commit id else .rollback id := by
  have same : commits r.status = true ↔ 200 ≤ r.status ∧ r.status ≤ 399 := by
    simp [commits, Nat.lt_succ_iff]
  simp only [settlement, same]

theorem settlement_eq_commit (id : String) (r : Response) :
    settlement id (.done r) = .commit id ↔ commits r.status = true := by
  rw [settlement_done]
  split <;> simp_all

/-! ## The course of a request -/

/-- What the stage does when the rest of the way has ended. -/
def conclude (manager : TransactionManager) (id : String) (c : Context) :
    Ending Response → Act Flow Response
  | .done r => settle manager id c r
  | .panicked p => do
      undo manager id c
      Act.panic p
  | .dropped => do
      Flow.onSite (Site.abandon manager id)
      Act.resume .dropped

theorem process_read (manager : TransactionManager) (reads : request.method.isWrite = false)
    (next : Next) : (transaction manager).process request next = next.run request := by
  simp [transaction, reads]

/-- The stage on a request that writes, up to the begin. -/
theorem process_write (manager : TransactionManager) (writes : request.method.isWrite = true)
    (next : Next) (f : Flow) :
    (transaction manager).process request next f =
      (Flow.onSite (Site.begin manager) >>= fun
        | .error failure => do
            Flow.report .error "failed to begin transaction"
              [("request_id", Flow.shownId f.context), ("error", failure.display)]
            Act.pure (.ofFailure failure f.context.requestId)
        | .ok id => do
            Flow.setContext ((← Flow.current).setTransactionId id)
            conclude manager id f.context (← Act.observe (next.run request))) f := by
  simp only [transaction, writes]
  rfl

theorem process_begun (writes : request.method.isWrite = true)
    (begun : Site.begin manager f.site = (.done (.ok id), s))
    (ran : next.run request ⟨f.context.setTransactionId id, s⟩ = (inner, h)) :
    (transaction manager).process request next f = conclude manager id f.context inner h := by
  rw [process_write manager writes, Flow.onSite_done begun]
  exact Act.bind_observe ran (conclude manager id f.context)

theorem gains_begin (manager : TransactionManager) (s : Site) :
    s.Gains [.begin] (Site.begin manager s).2 :=
  Site.makes_transact .begin manager.begin s

/-- Without a transaction the way ends at the stage, whatever lies behind it. -/
theorem process_unbegun (writes : request.method.isWrite = true)
    (unbegun : ∀ id, (Site.begin manager f.site).1 ≠ .done (.ok id)) :
    ∃ e g, f.site.Gains [.begin] g.site ∧
      (∀ failure, (Site.begin manager f.site).1 = .done (.error failure) →
        e = .done (.ofFailure failure f.context.requestId)) ∧
      ∀ next, (transaction manager).process request next f = (e, g) := by
  have gains := gains_begin manager f.site
  cases begun : Site.begin manager f.site with
  | mk ending s =>
      rw [begun] at gains unbegun
      cases ending with
      | done outcome =>
          cases outcome with
          | ok id => exact absurd rfl (unbegun id)
          | error failure =>
              let reported := s.record .error "failed to begin transaction"
                [("request_id", Flow.shownId f.context), ("error", failure.display)]
              refine ⟨.done (.ofFailure failure f.context.requestId), { f with site := reported },
                gains.trans (.of_eq rfl rfl), ?_, fun next => ?_⟩
              · rintro _ ⟨⟩
                rfl
              · rw [process_write manager writes, Flow.onSite_done begun]
                rfl
      | panicked p =>
          refine ⟨.panicked p, { f with site := s }, gains, nofun, fun next => ?_⟩
          rw [process_write manager writes, Flow.onSite_panicked begun]
      | dropped =>
          refine ⟨.dropped, { f with site := s }, gains, nofun, fun next => ?_⟩
          rw [process_write manager writes, Flow.onSite_dropped begun]

/-! ## The calls that settle -/

theorem makes_undo (manager : TransactionManager) (id : String) (c : Context) :
    Makes Flow.site (undo manager id c) [.rollback id] := by
  have called := Site.makes_transact (.rollback id) fun made => manager.rollback made id
  refine called.onSite.bind fun answer => ?_
  cases answer with
  | ok => exact Makes.pure ()
  | error failure => exact Makes.report _ _ _

theorem makes_settle (manager : TransactionManager) (id : String) (c : Context) (r : Response) :
    Makes Flow.site (settle manager id c r) [settlement id (.done r)] := by
  rw [settlement_done]
  unfold settle
  split
  · have called := Site.makes_transact (.commit id) fun made => manager.commit made id
    refine called.onSite.bind fun answer => ?_
    cases answer with
    | ok => exact (Makes.report _ _ _).bind fun _ => Makes.pure r
    | error failure => exact (Makes.report _ _ _).bind fun _ => Makes.pure _
  · exact (makes_undo manager id c).bind fun _ => (Makes.report _ _ _).bind fun _ => Makes.pure r

theorem makes_conclude (manager : TransactionManager) (id : String) (c : Context)
    (ended : inner ≠ .dropped) :
    Makes Flow.site (conclude manager id c inner) [settlement id inner] := by
  cases inner with
  | done r => exact makes_settle manager id c r
  | panicked p => exact (makes_undo manager id c).bind fun _ => Makes.panic p
  | dropped => exact absurd rfl ended

/-- The site with one more transaction left to the background. -/
def leave (manager : TransactionManager) (id : String) (s : Site) : Site :=
  { s with abandoned := s.abandoned ++ [(manager, id)] }

theorem conclude_dropped (running : h.site.running = true) :
    conclude manager id c .dropped h =
      (.dropped, { h with site := leave manager id h.site }) := by
  have abandoned : Site.abandon manager id h.site = (.done (), leave manager id h.site) := by
    simp [Site.abandon, Act.modify, running, leave]
  exact Flow.onSite_done abandoned fun _ => Act.resume .dropped

theorem ledger_leave (manager : TransactionManager) (id : String) (s : Site) :
    (leave manager id s).ledger = s.ledger ++ [.rollback id] := by
  simp [leave, Site.ledger]

/-- The request's end adds one call to the ledger. -/
theorem ledger_conclude (running : inner = .dropped → h.site.running = true) :
    (conclude manager id c inner h).2.site.ledger.Perm
      (h.site.ledger ++ [settlement id inner]) := by
  by_cases dropped : inner = .dropped
  · subst dropped
    rw [conclude_dropped (running rfl), ledger_leave]
    exact .refl _
  · exact (makes_conclude manager id c dropped h).ledger

/-! ## Responses -/

theorem settle_committed (keeps : settlement id (.done r) = .commit id)
    (answer : (Site.commit manager id h.site).1 = .done (.ok ())) :
    (settle manager id c r h).1 = .done r := by
  have called : Site.commit manager id h.site = (.done (.ok ()), _) := Prod.ext answer rfl
  unfold settle
  rw [if_pos ((settlement_eq_commit id r).mp keeps), Flow.onSite_done called]
  rfl

theorem settle_uncommitted {failure : Failure} (keeps : settlement id (.done r) = .commit id)
    (answer : (Site.commit manager id h.site).1 = .done (.error failure)) :
    (settle manager id c r h).1 =
      .done (.ofFailure ((Failure.internal "failed to commit transaction").withCause
        (.failure failure)) c.requestId) := by
  have called : Site.commit manager id h.site = (.done (.error failure), _) := Prod.ext answer rfl
  unfold settle
  rw [if_pos ((settlement_eq_commit id r).mp keeps), Flow.onSite_done called]
  rfl

theorem undo_answered {answer : Except Failure Unit}
    (answered : (Site.rollback manager id h.site).1 = .done answer) :
    ∃ g, undo manager id c h = (.done (), g) := by
  have called : Site.rollback manager id h.site = (.done answer, _) := Prod.ext answered rfl
  unfold undo
  rw [Flow.onSite_done called]
  cases answer <;> exact ⟨_, rfl⟩

theorem settle_undone {answer : Except Failure Unit}
    (undoes : settlement id (.done r) = .rollback id)
    (answered : (Site.rollback manager id h.site).1 = .done answer) :
    (settle manager id c r h).1 = .done r := by
  have discards : ¬ commits r.status = true := by
    rw [← settlement_eq_commit id, undoes]
    nofun
  obtain ⟨g, undone⟩ := undo_answered (c := c) answered
  unfold settle
  rw [if_neg discards, Act.bind_done undone]
  rfl

/-! ## Exactly one settlement -/

/-- What becomes of a begun transaction whose request has ended as `inner` in the state `h`, where
`ran` is how the stage ends. -/
structure SettledOnce (manager : TransactionManager) (requestId : Option String) (id : String)
    (inner : Ending Response) (h : Flow) (ran : Ending Response × Flow) : Prop where
  /-- However long the background then works: of the calls made, one is the settlement, and the rest
  are those that there were already, made or left to the background. -/
  once : (inner = .dropped → h.site.running = true) → ∀ n,
    (Site.settle^[n + 1] ran.2.site).transactions.made.Perm
      (h.site.ledger ++ [settlement id inner])
  /-- The settlement is not left to the background unless the request is dropped. -/
  before_end : inner ≠ .dropped →
    h.site.transactions.made ++ [settlement id inner] <+: ran.2.site.transactions.made
  committed : ∀ r, inner = .done r → settlement id inner = .commit id →
    (Site.commit manager id h.site).1 = .done (.ok ()) → ran.1 = .done r
  uncommitted : ∀ r failure, inner = .done r → settlement id inner = .commit id →
    (Site.commit manager id h.site).1 = .done (.error failure) →
      ∃ envelope : Response, ran.1 = .done envelope ∧ envelope.status = 500 ∧
        envelope = .ofFailure ((Failure.internal "failed to commit transaction").withCause
          (.failure failure)) requestId
  undone : ∀ r answer, inner = .done r → settlement id inner = .rollback id →
    (Site.rollback manager id h.site).1 = .done answer → ran.1 = .done r
  raised : ∀ p answer, inner = .panicked p →
    (Site.rollback manager id h.site).1 = .done answer → ran.1 = .panicked p
  dropped : inner = .dropped → ran.1 = .dropped

theorem settledOnce_conclude (manager : TransactionManager) (id : String) (c : Context)
    (inner : Ending Response) (h : Flow) :
    SettledOnce manager c.requestId id inner h (conclude manager id c inner h) where
  once running n := by
    rw [Site.made_settles]
    exact ledger_conclude running
  before_end ended := (makes_conclude manager id c ended h).made
  committed := by
    rintro r rfl keeps answer
    exact settle_committed keeps answer
  uncommitted := by
    rintro r failure rfl keeps answer
    exact ⟨_, settle_uncommitted keeps answer, Response.status_ofFailure .., rfl⟩
  undone := by
    rintro r answer rfl undoes answered
    exact settle_undone undoes answered
  raised := by
    rintro p answer rfl answered
    obtain ⟨g, undone⟩ := undo_answered (c := c) answered
    exact congrArg Prod.fst (Act.bind_done undone fun _ => Act.panic p)
  dropped := by
    rintro rfl
    rfl

/-- A request that only reads passes by the manager. One that writes begins once. If no transaction
has begun, the rest of the way is not gone: the end is the same whatever it is, and a begin that
fails is answered with its failure. A transaction that has begun is settled exactly once, by a commit
if and only if the rest of the way has answered with a status from 200 to 399. -/
theorem transaction_settledOnce (manager : TransactionManager) (request : Request) (next : Next)
    (f : Flow) :
    let ran := (transaction manager).process request next f
    (request.method.isWrite = false → ran = next.run request f) ∧
    (request.method.isWrite = true →
      ((∀ id, (Site.begin manager f.site).1 ≠ .done (.ok id)) →
        f.site.Gains [.begin] ran.2.site ∧
        (∀ other, (transaction manager).process request other f = ran) ∧
        ∀ failure, (Site.begin manager f.site).1 = .done (.error failure) →
          ran.1 = .done (.ofFailure failure f.context.requestId)) ∧
      ∀ id s inner h, Site.begin manager f.site = (.done (.ok id), s) →
        next.run request ⟨f.context.setTransactionId id, s⟩ = (inner, h) →
          f.site.Gains [.begin] s ∧ SettledOnce manager f.context.requestId id inner h ran) := by
  intro ran
  refine ⟨fun reads => ?_, fun writes => ⟨fun unbegun => ?_, ?_⟩⟩
  · exact congrFun (process_read manager reads next) f
  · obtain ⟨e, g, gains, refused, same⟩ := process_unbegun writes unbegun
    have here : ran = (e, g) := same next
    rw [here]
    exact ⟨gains, same, refused⟩
  · intro id s inner h begun inside
    have here : ran = conclude manager id f.context inner h := process_begun writes begun inside
    have gains := gains_begin manager f.site
    rw [begun] at gains
    rw [here]
    exact ⟨gains, settledOnce_conclude manager id f.context inner h⟩

/-- The manager fails to commit and never answers a rollback. A status of 399 is committed, once and
in vain; a request that is dropped on its way is rolled back, once. -/
theorem transaction_settledOnce_in_vain :
    let failure := Failure.unavailable "storage is gone"
    let manager : TransactionManager :=
      { begin := fun _ => .answer (.ok "t") 0
        commit := fun _ _ => .answer (.error failure) 0
        rollback := fun _ _ => .never }
    let request : Request := ⟨.patch, ⟨"/items", none⟩, [], ""⟩
    let f : Flow := ⟨.withSignal 0, {}⟩
    let answered := (transaction manager).process request ⟨none, fun _ => Act.pure ⟨399, [], ""⟩⟩ f
    let left := (transaction manager).process request ⟨none, fun _ => Act.resume .dropped⟩ f
    (∃ envelope, answered.1 = .done envelope ∧ envelope.status = 500) ∧ left.1 = .dropped ∧
    ∀ n,
      (Site.settle^[n + 1] answered.2.site).transactions.made.Perm [.begin, .commit "t"] ∧
      (Site.settle^[n + 1] left.2.site).transactions.made.Perm [.begin, .rollback "t"] := by
  intro failure manager request f answered left
  obtain ⟨-, settled⟩ := ((transaction_settledOnce manager request
    ⟨none, fun _ => Act.pure ⟨399, [], ""⟩⟩ f).2 rfl).2 "t" _ _ _ rfl rfl
  obtain ⟨-, dropped⟩ := ((transaction_settledOnce manager request
    ⟨none, fun _ => Act.resume .dropped⟩ f).2 rfl).2 "t" _ _ _ rfl rfl
  obtain ⟨envelope, done, status, -⟩ := settled.uncommitted _ failure rfl rfl rfl
  exact ⟨⟨envelope, done, status⟩, dropped.dropped rfl,
    fun n => ⟨settled.once nofun n, dropped.once (fun _ => rfl) n⟩⟩

end HttpService.Stage

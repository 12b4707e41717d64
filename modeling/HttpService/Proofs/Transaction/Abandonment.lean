import HttpService.Proofs.Transaction.Settlement

/-!
# Dropped requests

What becomes of a begun transaction when its request is dropped. If the rest of the way had not ended
yet, a rollback is left to the background, which gets its answer without the request; where there is
no background it is only reported. If the rest of the way had ended, the settlement has been called.
-/

namespace HttpService

namespace Site

variable {manager : TransactionManager} {id : String}

/-- Every rollback of this transaction is answered, well or badly. -/
def AnswersRollback (manager : TransactionManager) (id : String) : Prop :=
  ∀ made, ∃ outcome delay, manager.rollback made id = .answer outcome delay

theorem ended_rollBack (s : Site) (manager : TransactionManager) (id : String) :
    s.transactions.ended <+: (s.rollBack manager id).transactions.ended := by
  unfold rollBack
  dsimp only
  split
  · exact List.prefix_append ..
  · exact List.prefix_append ..
  · exact List.prefix_rfl
  · exact List.prefix_rfl

theorem ended_rollBack_answered (answers : AnswersRollback manager id) (s : Site) :
    (s.rollBack manager id).transactions.ended = s.transactions.ended ++ [.rollback id] := by
  obtain ⟨outcome, delay, answer⟩ := answers s.transactions.made
  unfold rollBack
  rw [answer]
  cases outcome <;> rfl

theorem ended_rollBackAll (waiting : List (TransactionManager × String)) (s : Site) :
    s.transactions.ended <+: (rollBackAll waiting s).transactions.ended := by
  induction waiting generalizing s with
  | nil => exact List.prefix_rfl
  | cons a rest ih => exact (ended_rollBack s a.1 a.2).trans (ih _)

theorem count_ended_rollBackAll (answers : AnswersRollback manager id)
    {waiting : List (TransactionManager × String)} (waits : (manager, id) ∈ waiting) (s : Site) :
    s.transactions.ended.count (.rollback id) <
      (rollBackAll waiting s).transactions.ended.count (.rollback id) := by
  obtain ⟨before, after, rfl⟩ := List.append_of_mem waits
  let reached := rollBackAll before s
  have split : rollBackAll (before ++ (manager, id) :: after) s =
      rollBackAll after (reached.rollBack manager id) :=
    List.foldl_append
  have earlier := (ended_rollBackAll before s).sublist.count_le (.rollback id)
  have later := (ended_rollBackAll after (reached.rollBack manager id)).sublist.count_le
    (.rollback id)
  rw [ended_rollBack_answered answers, List.count_append, List.count_singleton_self] at later
  rw [split]
  exact Nat.lt_of_le_of_lt earlier later

/-- The background gets an answer for what was left to it. -/
theorem count_ended_settles (answers : AnswersRollback manager id) {s : Site}
    (waits : (manager, id) ∈ s.abandoned) (n : Nat) :
    s.transactions.ended.count (.rollback id) <
      (settle^[n + 1] s).transactions.ended.count (.rollback id) := by
  rw [transactions_settles, transactions_settle]
  exact count_ended_rollBackAll answers waits { s with abandoned := [] }

end Site

namespace Stage

variable {manager : TransactionManager} {id : String} {c : Context} {h : Flow} {s : Site}
  {inner : Ending Response}

/-- The site with a report of a transaction that is left to nobody. -/
def strand (id : String) (s : Site) : Site :=
  s.record .error "transaction abandoned outside a runtime" [("transaction_id", id)]

theorem conclude_dropped_outside (outside : h.site.running = false) :
    conclude manager id c .dropped h = (.dropped, { h with site := strand id h.site }) := by
  have reported : Site.abandon manager id h.site = (.done (), strand id h.site) := by
    simp [Site.abandon, Act.modify, outside, strand]
  exact Flow.onSite_done reported fun _ => Act.resume .dropped

/-- Wherever a request that writes is dropped after its transaction has begun: either the rest of the
way had ended, and the commit or rollback that it calls for has been made, or it had not. Then a
rollback is left to the background, which gets it answered if the manager answers it; outside a
runtime there is no background, and the transaction is reported by its id. -/
theorem transaction_not_dangling (manager : TransactionManager) (request : Request) (next : Next)
    (f : Flow) (writes : request.method.isWrite = true)
    (begun : Site.begin manager f.site = (.done (.ok id), s))
    (inside : next.run request ⟨f.context.setTransactionId id, s⟩ = (inner, h)) :
    let final := ((transaction manager).process request next f).2.site
    (inner ≠ .dropped ∧ h.site.transactions.made ++ [settlement id inner] <+:
      final.transactions.made) ∨
    (inner = .dropped ∧ h.site.running = true ∧
      final.abandoned = h.site.abandoned ++ [(manager, id)] ∧
      (Site.AnswersRollback manager id → ∀ n,
        h.site.transactions.ended.count (.rollback id) <
          (Site.settle^[n + 1] final).transactions.ended.count (.rollback id))) ∨
    (inner = .dropped ∧ h.site.running = false ∧
      final = h.site.record .error "transaction abandoned outside a runtime"
        [("transaction_id", id)]) := by
  intro final
  have course := process_begun writes begun inside
  by_cases open' : inner = .dropped
  · subst open'
    right
    cases running : h.site.running with
    | true =>
        have left : final = leave manager id h.site := by
          rw [conclude_dropped running] at course
          exact congrArg (fun run => run.2.site) course
        have waits : (manager, id) ∈ (leave manager id h.site).abandoned :=
          List.mem_append_right _ (.head _)
        rw [left]
        exact .inl ⟨rfl, rfl, rfl, fun answers n => Site.count_ended_settles answers waits n⟩
    | false =>
        rw [conclude_dropped_outside running] at course
        exact .inr ⟨rfl, rfl, congrArg (fun run => run.2.site) course⟩
  · refine .inl ⟨open', ?_⟩
    have called := (makes_conclude manager id f.context open' h).made
    rw [← course] at called
    exact called

/-- The manager is slow to fail. The request is gone by then, and still gets its rollback. -/
theorem transaction_not_dangling_slow :
    let failure := Failure.unavailable "storage is gone"
    let manager : TransactionManager :=
      { begin := fun _ => .answer (.ok "t") 0
        commit := fun _ _ => .never
        rollback := fun _ _ => .answer (.error failure) 5000 }
    let final := ((transaction manager).process ⟨.delete, ⟨"/items/1", none⟩, [], ""⟩
      ⟨none, fun _ => Act.resume .dropped⟩ ⟨.withSignal 0, {}⟩).2.site
    ∀ n, 0 < (Site.settle^[n + 1] final).transactions.ended.count (.rollback "t") := by
  intro failure manager final n
  have outcome := transaction_not_dangling manager ⟨.delete, ⟨"/items/1", none⟩, [], ""⟩
    ⟨none, fun _ => Act.resume .dropped⟩ ⟨.withSignal 0, {}⟩ rfl rfl rfl
  rcases outcome with ⟨ended, -⟩ | ⟨-, -, -, answered⟩ | ⟨-, outside, -⟩
  · exact absurd rfl ended
  · exact answered (fun _ => ⟨_, _, rfl⟩) n
  · exact absurd outside (by decide)

/-- Outside a runtime no rollback follows, however willing the manager is. -/
theorem not_always_rolledBack :
    ¬ ∀ (manager : TransactionManager) (request : Request) (next : Next) (f : Flow) (id : String)
      (s : Site), request.method.isWrite = true →
      Site.begin manager f.site = (.done (.ok id), s) → Site.AnswersRollback manager id →
      ((transaction manager).process request next f).1 = .dropped →
      let final := ((transaction manager).process request next f).2.site
      .commit id ∈ final.transactions.ended ∨ .rollback id ∈ final.transactions.ended ∨
        ∃ n, .rollback id ∈ (Site.settle^[n] final).transactions.ended := by
  intro all
  let manager : TransactionManager :=
    { begin := fun _ => .answer (.ok "t") 0
      commit := fun _ _ => .answer (.ok ()) 0
      rollback := fun _ _ => .answer (.ok ()) 0 }
  have claimed := all manager ⟨.post, ⟨"/x", none⟩, [], ""⟩ ⟨none, fun _ => Act.resume .dropped⟩
    ⟨.withSignal 0, { running := false }⟩ "t" _ rfl rfl (fun _ => ⟨_, _, rfl⟩) rfl
  rcases claimed with committed | rolledBack | ⟨_ | n, rolledBack⟩
  · revert committed
    decide
  · revert rolledBack
    decide
  · revert rolledBack
    decide
  · rw [Site.transactions_settles] at rolledBack
    revert rolledBack
    decide

end Stage

end HttpService

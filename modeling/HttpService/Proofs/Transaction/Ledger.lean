import HttpService.Proofs.Act
import HttpService.Site
import Mathlib.Logic.Function.Iterate

/-!
# The ledger of transaction calls

The calls that have been made, together with the rollbacks that are left to the background. Background
work and the passing of time move calls from the second part to the first and change nothing else, so
an act is described by the calls it adds.
-/

namespace HttpService

namespace Site

/-- The calls that have been made, and those that the background is going to make. -/
def ledger (s : Site) : List TransactionCall :=
  s.transactions.made ++ s.abandoned.map fun a => .rollback a.2

/-! ## Background work -/

def rollBackAll (waiting : List (TransactionManager × String)) (s : Site) : Site :=
  waiting.foldl (fun s (manager, id) => s.rollBack manager id) s

theorem rollBackAbandoned_eq (s : Site) :
    s.rollBackAbandoned = rollBackAll s.abandoned { s with abandoned := [] } :=
  rfl

theorem made_rollBack (s : Site) (manager : TransactionManager) (id : String) :
    (s.rollBack manager id).transactions.made = s.transactions.made ++ [.rollback id] := by
  unfold rollBack
  dsimp only
  split <;> rfl

theorem abandoned_rollBack (s : Site) (manager : TransactionManager) (id : String) :
    (s.rollBack manager id).abandoned = s.abandoned := by
  unfold rollBack
  dsimp only
  split <;> rfl

theorem made_rollBackAll (waiting : List (TransactionManager × String)) (s : Site) :
    (rollBackAll waiting s).transactions.made =
      s.transactions.made ++ waiting.map fun a => .rollback a.2 := by
  induction waiting generalizing s with
  | nil => simp [rollBackAll]
  | cons a rest ih =>
      have asked := ih (s.rollBack a.1 a.2)
      rw [made_rollBack, List.append_assoc] at asked
      exact asked

theorem abandoned_rollBackAll (waiting : List (TransactionManager × String)) (s : Site) :
    (rollBackAll waiting s).abandoned = s.abandoned := by
  induction waiting generalizing s with
  | nil => rfl
  | cons a rest ih => exact (ih _).trans (abandoned_rollBack ..)

theorem tickLimiter_keeps (s : Site) (l : RunningLimiter) :
    (s.tickLimiter l).transactions = s.transactions ∧
      (s.tickLimiter l).abandoned = s.abandoned := by
  unfold tickLimiter
  dsimp only
  split <;> exact ⟨rfl, rfl⟩

theorem tickAll_keeps (limiters : List RunningLimiter) (s : Site) :
    (limiters.foldl tickLimiter s).transactions = s.transactions ∧
      (limiters.foldl tickLimiter s).abandoned = s.abandoned := by
  induction limiters generalizing s with
  | nil => exact ⟨rfl, rfl⟩
  | cons l rest ih =>
      obtain ⟨calls, waiting⟩ := ih (s.tickLimiter l)
      exact ⟨calls.trans (tickLimiter_keeps s l).1, waiting.trans (tickLimiter_keeps s l).2⟩

theorem transactions_settle (s : Site) :
    s.settle.transactions = s.rollBackAbandoned.transactions :=
  (tickAll_keeps s.rollBackAbandoned.limiters { s.rollBackAbandoned with limiters := [] }).1

theorem abandoned_settle (s : Site) : s.settle.abandoned = [] := by
  have ticked : s.settle.abandoned = s.rollBackAbandoned.abandoned :=
    (tickAll_keeps s.rollBackAbandoned.limiters { s.rollBackAbandoned with limiters := [] }).2
  rw [ticked, rollBackAbandoned_eq, abandoned_rollBackAll]

theorem made_settle (s : Site) : s.settle.transactions.made = s.ledger := by
  rw [transactions_settle, rollBackAbandoned_eq, made_rollBackAll]
  rfl

theorem ledger_settle (s : Site) : s.settle.ledger = s.ledger := by
  unfold ledger
  rw [abandoned_settle, made_settle]
  simp [ledger]

/-- Once the background has worked, nothing is left for it to do. -/
theorem transactions_settles (s : Site) (n : Nat) :
    (settle^[n + 1] s).transactions = s.settle.transactions := by
  induction n generalizing s with
  | zero => rfl
  | succ n ih =>
      have idle : s.settle.settle.transactions = s.settle.transactions := by
        rw [transactions_settle, rollBackAbandoned_eq, abandoned_settle]
        rfl
      exact (ih s.settle).trans idle

/-- However long the background works, the calls made are those of the ledger. -/
theorem made_settles (s : Site) (n : Nat) :
    (settle^[n + 1] s).transactions.made = s.ledger := by
  rw [transactions_settles, made_settle]

/-! ## What a step adds -/

/-- From one state to a later one the calls of a list have been made. Others have been made only by
the background, which had them to make. -/
structure Gains (s : Site) (calls : List TransactionCall) (s' : Site) : Prop where
  made : s.transactions.made ++ calls <+: s'.transactions.made
  ledger : s'.ledger.Perm (s.ledger ++ calls)

theorem Gains.of_eq {s s' : Site} (made : s'.transactions.made = s.transactions.made)
    (abandoned : s'.abandoned = s.abandoned) : Gains s [] s' where
  made := by simp [made]
  ledger := by simp [Site.ledger, made, abandoned]

theorem Gains.trans {s t u : Site} {calls : List TransactionCall} (first : Gains s calls t)
    (rest : Gains t [] u) : Gains s calls u where
  made := by
    have later := rest.made
    rw [List.append_nil] at later
    exact first.made.trans later
  ledger := by
    have later := rest.ledger
    rw [List.append_nil] at later
    exact later.trans first.ledger

theorem gains_ask (call : TransactionCall) (s : Site) : Gains s [call] (s.ask call) where
  made := List.prefix_rfl
  ledger := by
    change ((s.transactions.made ++ [call]) ++ _).Perm ((s.transactions.made ++ _) ++ [call])
    rw [List.append_assoc, List.append_assoc]
    exact List.perm_append_comm.append_left _

theorem gains_settle (s : Site) : Gains s [] s.settle where
  made := by
    rw [made_settle, List.append_nil]
    exact List.prefix_append ..
  ledger := by rw [ledger_settle, List.append_nil]

theorem gains_passUntil (stops target : Nat) (s : Site) : Gains s [] (passUntil stops target s) := by
  induction stops generalizing s with
  | zero => exact .of_eq rfl rfl
  | succ stops ih =>
      have rests (t : Nat) : Gains s [] { s.settle with now := t } :=
        s.gains_settle.trans (.of_eq rfl rfl)
      unfold passUntil
      dsimp only
      split
      · split
        · exact (rests _).trans (ih _)
        · exact rests _
      · exact rests _

theorem gains_passTo (s : Site) (target : Nat) : Gains s [] (s.passTo target) :=
  gains_passUntil ..

end Site

/-! ## Acts that make calls -/

/-- However it ends, the act makes the calls of the list, and no others. -/
def Makes {σ α : Type} (site : σ → Site) (m : Act σ α) (calls : List TransactionCall) : Prop :=
  ∀ s, (site s).Gains calls (site (m s).2)

namespace Makes

variable {σ α β : Type} {site : σ → Site} {m : Act σ α} {calls : List TransactionCall}

theorem pure (a : α) : Makes site (Act.pure a) [] :=
  fun _ => .of_eq rfl rfl

theorem panic (p : Panic) : Makes site (Act.panic p : Act σ α) [] :=
  fun _ => .of_eq rfl rfl

/-- What follows a call makes none, so the sequence makes the call however early it ends. -/
theorem bind (first : Makes site m calls) {k : α → Act σ β} (rest : ∀ a, Makes site (k a) []) :
    Makes site (m >>= k) calls := by
  intro s
  cases run : m s with
  | mk ending s' =>
      have gains : (site s).Gains calls (site s') := by
        have made := first s
        rwa [run] at made
      cases ending with
      | done a =>
          rw [Act.bind_done run]
          exact gains.trans (rest a s')
      | panicked p =>
          rw [Act.bind_panicked run]
          exact gains
      | dropped =>
          rw [Act.bind_dropped run]
          exact gains

theorem onSite {m : Act Site α} (makes : Makes id m calls) :
    Makes Flow.site (Flow.onSite m) calls :=
  fun f => makes f.site

theorem report (level : Level) (message : String) (fields : List (String × String)) :
    Makes Flow.site (Flow.report level message fields) [] :=
  fun _ => .of_eq rfl rfl

end Makes

namespace Site

theorem makes_waitUntil (due : Nat) : Makes id (waitUntil due) [] := by
  intro s
  unfold waitUntil
  split
  · split <;> exact gains_passTo ..
  · exact gains_passTo ..

theorem makes_hang {α : Type} : Makes id (hang : Act Site α) [] := by
  intro s
  unfold hang
  split
  · exact gains_passTo ..
  · exact .of_eq rfl rfl

theorem makes_await (ms : Nat) : Makes id (await ms) [] := by
  unfold await
  split
  · exact Makes.pure ()
  · exact fun s => makes_waitUntil _ s

theorem makes_receive {α : Type} (call : TransactionCall) (reply : Reply α) :
    Makes id (receive call reply) [] := by
  cases reply with
  | answer outcome delay =>
      have heard : Makes id (Act.modify (hear call)) [] := fun _ => .of_eq rfl rfl
      exact (makes_await delay).bind fun _ => heard.bind fun _ => Makes.pure outcome
  | panic p delay => exact (makes_await delay).bind fun _ => Makes.panic p
  | never => exact makes_hang

theorem makes_transact {α : Type} (call : TransactionCall)
    (reply : List TransactionCall → Reply α) : Makes id (transact call reply) [call] :=
  fun s => (s.gains_ask call).trans (makes_receive call (reply s.transactions.made) (s.ask call))

end Site

end HttpService

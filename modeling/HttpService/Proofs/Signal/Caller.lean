import HttpService.Proofs.Signal.Interleaving

/-!
# A caller that is alone

With nobody in between, the tasks of a caller add up to what the signals do at once: the notices and
the handles that it takes on its way leave no trace in them.
-/

namespace HttpService

namespace Signals

variable {f g : Signals} {i k : Nat}

theorem ext_node (size : f.nodes.length = g.nodes.length) (same : ∀ i, f.node i = g.node i) :
    f = g := by
  obtain ⟨nodes⟩ := f
  obtain ⟨others⟩ := g
  refine congrArg Signals.mk (List.ext_getElem size fun i inside inside' => ?_)
  have here := same i
  simp only [node, List.getD_eq_getElem?_getD, List.getElem?_eq_getElem inside,
    List.getElem?_eq_getElem inside', Option.getD_some] at here
  exact here

theorem disown_raise (f : Signals) (id : Nat) : (f.raise id).disown id = f.marked id := by
  refine ext_node (by simp [raise, disown, marked]) fun i => ?_
  simp only [raise, disown, marked, node_setNode, length_setNode]
  by_cases here : i = id ∧ id < f.nodes.length <;> simp [here]

theorem children_raise (f : Signals) (id i : Nat) :
    ((f.raise id).node i).children = (f.node i).children := by
  rw [raise, node_setNode]
  split
  · next here => rw [here.1]
  · rfl

theorem release_hold (f : Signals) (k : Nat) : (f.hold k).release k = f := by
  refine ext_node (by simp [hold, release]) fun i => ?_
  simp only [hold, release, node_setNode, length_setNode]
  by_cases here : i = k ∧ k < f.nodes.length
  · simp [here]
  · simp [here]

theorem marked_hold (f : Signals) (i k : Nat) : (f.hold k).marked i = (f.marked i).hold k := by
  refine ext_node (by simp [hold, marked]) fun j => ?_
  simp only [hold, marked, node_setNode, length_setNode]
  by_cases same : i = k
  · subst same
    by_cases here : j = i ∧ i < f.nodes.length <;> simp [here]
  · by_cases first : j = i
    · simp [first, same]
    · simp [first, Ne.symm same]

theorem isAlive_hold (alive : f.isAlive k = true) : (f.hold k).isAlive = f.isAlive := by
  funext i
  unfold isAlive
  rw [handles_hold (lt_of_isAlive alive)]
  by_cases same : i = k
  · have held : 0 < (f.node k).handles := of_decide_eq_true alive
    simp [same, held]
  · simp [same]

theorem isAlive_marked (f : Signals) (id : Nat) : (f.marked id).isAlive = f.isAlive := by
  funext i
  unfold isAlive marked
  rw [node_setNode]
  split
  · next here => rw [here.1]
  · rfl

theorem isAlive_cancelFrom (depth : Nat) (f : Signals) (id : Nat) :
    (cancelFrom depth f id).isAlive = f.isAlive := by
  induction depth generalizing f id with
  | zero => rfl
  | succ depth ih =>
      rw [cancelFrom_succ]
      split
      · rfl
      · exact List.foldlRecOn _ (cancelFrom depth) (motive := fun g => g.isAlive = f.isAlive)
          (isAlive_marked f id) fun g same kid _ => (ih g kid).trans same

/-- A handle on a living signal makes no difference to what is cancelled. -/
theorem cancelFrom_hold (depth : Nat) (alive : f.isAlive k = true) (id : Nat) :
    cancelFrom depth (f.hold k) id = (cancelFrom depth f id).hold k := by
  induction depth generalizing f id with
  | zero => rfl
  | succ depth ih =>
      have each (kids : List Nat) (g : Signals) (alive : g.isAlive k = true) :
          kids.foldl (cancelFrom depth) (g.hold k) = (kids.foldl (cancelFrom depth) g).hold k := by
        induction kids generalizing g with
        | nil => rfl
        | cons kid rest ihKids =>
            rw [List.foldl_cons, List.foldl_cons, ih alive]
            exact ihKids _ (by rw [isAlive_cancelFrom, alive])
      have aliveMarked : (f.marked id).isAlive k = true := by rw [isAlive_marked, alive]
      rw [cancelFrom_succ, cancelFrom_succ, isCancelled_hold]
      split
      · rfl
      · rw [marked_hold, isAlive_hold aliveMarked, (fades_hold alive).children]
        exact each _ _ aliveMarked

end Signals

/-! ## Runs of one caller -/

/-- A caller gets from some signals and tasks to others with nobody in between. -/
inductive Runs : Signals → List CancelTask → Signals → List CancelTask → Prop
  | refl (f : Signals) (tasks : List CancelTask) : Runs f tasks f tasks
  | task {f g : Signals} {task : CancelTask} {rest tasks : List CancelTask}
      (later : Runs (task.perform f).1 ((task.perform f).2.2 ++ rest) g tasks) :
      Runs f (task :: rest) g tasks

namespace Runs

variable {f g k : Signals} {parents : Parents} {first second third rest : List CancelTask}
  {id p : Nat}

theorem trans (early : Runs f first g second) (late : Runs g second k third) :
    Runs f first k third := by
  induction early with
  | refl => exact late
  | task _ ih => exact .task (ih late)

/-- The living ones of some signals are cancelled one after the other, if each of them would be. -/
theorem reach {kept : Signals → Prop} {depth : Nat} {kids : List Nat}
    (each : ∀ g : Signals, kept g → ∀ kid ∈ kids, g.isAlive kid = true →
      kept (g.cancelFrom depth kid) ∧ ∀ rest,
        Runs (g.hold kid) (.mark kid :: rest) (Signals.cancelFrom depth (g.hold kid) kid) rest)
    (before : kept g) :
    Runs g (kids.map .reach ++ rest) ((kids.filter g.isAlive).foldl (Signals.cancelFrom depth) g)
      rest := by
  induction kids generalizing g with
  | nil => exact .refl ..
  | cons kid others ih =>
      have eachOther := fun g before other member =>
        each g before other (List.mem_cons_of_mem kid member)
      refine .task ?_
      by_cases alive : g.isAlive kid = true
      · obtain ⟨after, runs⟩ := each g before kid (List.mem_cons_self ..) alive
        have later := ih eachOther after
        have back : (Signals.cancelFrom depth (g.hold kid) kid).release kid =
            Signals.cancelFrom depth g kid := by
          rw [Signals.cancelFrom_hold depth alive, Signals.release_hold]
        rw [Signals.isAlive_cancelFrom, ← back] at later
        rw [List.filter_cons_of_pos alive, List.foldl_cons, ← back]
        simp only [CancelTask.perform, alive, if_true]
        exact (runs _).trans (.task later)
      · rw [List.filter_cons_of_neg alive]
        simp only [CancelTask.perform, alive]
        exact ih eachOther before

theorem mark (depth : Nat) (family : Signals.Family parents f) (within : id < f.nodes.length)
    (deep : f.nodes.length < id + depth) (rest : List CancelTask) :
    Runs f (.mark id :: rest) (Signals.cancelFrom depth f id) rest := by
  induction depth generalizing f id rest with
  | zero => omega
  | succ depth ih =>
      refine .task ?_
      rw [Signals.cancelFrom_succ]
      cases open' : f.isCancelled id with
      | true =>
          simp only [CancelTask.perform, open', if_true]
          exact .refl ..
      | false =>
          have first : Signals.Marks (fun _ => True) f (f.marked id) :=
            (Signals.marks_marked parents within open').weaken fun _ _ => trivial
          simp only [CancelTask.perform, open', Bool.false_eq_true, if_false]
          -- The notice changes no signal, and then the children are taken.
          refine .task (.task ?_)
          change Runs ((f.raise id).disown id)
            ((((f.raise id).node id).children.map .reach) ++ rest) _ _
          rw [Signals.disown_raise, Signals.children_raise]
          refine reach (fun g marks kid stored alive => ?_) first
          have younger := family.older kid id (family.own id kid stored)
          have family := family.marks marks
          have inside := Signals.lt_of_isAlive alive
          have size := marks.size
          refine ⟨marks.trans ((Signals.cancelFrom_marks depth family inside).weaken
            fun _ _ => trivial), fun rest => ih (family.fades (Signals.fades_hold alive)) ?_ ?_ rest⟩
          · rwa [Signals.hold, Signals.length_setNode]
          · rw [Signals.hold, Signals.length_setNode]
            omega

/-- The tasks of a cancellation add up to it. -/
theorem cancel (family : Signals.Family parents f) (alive : f.isAlive id = true) :
    Runs f [.reach id] (f.cancel id) [] := by
  have size : (f.hold id).nodes.length = f.nodes.length := Signals.length_setNode ..
  have marks := mark (f.nodes.length + 1) (family.fades (Signals.fades_hold alive))
    (size ▸ Signals.lt_of_isAlive alive) (by omega) [.release id]
  refine .task ?_
  simp only [CancelTask.perform, alive, if_true]
  refine marks.trans (.task ?_)
  change Runs ((Signals.cancelFrom (f.nodes.length + 1) (f.hold id) id).release id) [] _ _
  rw [Signals.cancelFrom_hold _ alive, Signals.release_hold]
  exact .refl ..

/-- Deriving a signal is to put it among the children of its parent and then to look at that. -/
theorem child (family : Signals.Family parents f) (within : p < f.nodes.length) :
    Runs (f.attach p) [.inherit p f.nodes.length] (f.child p).1 [] := by
  refine .task ?_
  rw [Signals.child_eq]
  cases cancelled : (f.attach p).isCancelled p with
  | true =>
      have alive : (f.attach p).isAlive f.nodes.length = true := by
        unfold Signals.isAlive
        rw [Signals.handles_attach within, if_pos rfl]
        rfl
      simp only [CancelTask.perform, cancelled, if_true]
      exact cancel (family.attach within) alive
  | false =>
      simp only [CancelTask.perform, cancelled, Bool.false_eq_true, if_false]
      exact .refl ..

end Runs

namespace Cancelling

variable {c : Cancelling} {f : Signals} {tasks : List CancelTask} {i : Nat}

/-- A caller that gets all the turns does what it would do alone. -/
theorem go_of_runs (runs : Runs c.signals tasks f []) (here : c.callers[i]? = some tasks) :
    ∃ n, ((List.replicate n (.go i)).foldl move c).signals = f ∧
      ((List.replicate n (.go i)).foldl move c).callers[i]? = some [] := by
  generalize start : c.signals = g at runs
  generalize last : ([] : List CancelTask) = none at runs
  induction runs generalizing c with
  | refl => exact ⟨0, start, last ▸ here⟩
  | @task g f task rest none later ih =>
      subst start
      have went : c.go i = { c with
          signals := (task.perform c.signals).1
          notified := (task.perform c.signals).2.1 ++ c.notified
          callers := c.callers.set i ((task.perform c.signals).2.2 ++ rest) } := by
        simp only [go, here]
      have next : (c.go i).callers[i]? = some ((task.perform c.signals).2.2 ++ rest) := by
        rw [went]
        exact List.getElem?_set_self (List.getElem?_eq_some_iff.mp here).1
      have moved : (c.go i).signals = (task.perform c.signals).1 := by rw [went]
      obtain ⟨n, signals, ended⟩ := ih next moved last
      exact ⟨n + 1, signals, ended⟩

/-- Undisturbed, somebody who cancels a living signal does what `Signals.cancel` does, and somebody
who derives one what `Signals.child` does. -/
theorem undisturbed {parents : Parents} (family : Signals.Family parents c.signals) :
    (∀ id, c.signals.isAlive id = true → ∃ n,
      ((List.replicate n (.go c.callers.length)).foldl move (c.move (.cancel id))).signals =
        c.signals.cancel id) ∧
    ∀ p, p < c.signals.nodes.length → ∃ n,
      ((List.replicate n (.go c.callers.length)).foldl move (c.move (.child p))).signals =
        (c.signals.child p).1 := by
  constructor
  · intro id alive
    have here : (c.move (.cancel id)).callers[c.callers.length]? = some [.reach id] := by
      simp [move]
    obtain ⟨n, signals, -⟩ := go_of_runs (c := c.move (.cancel id)) (Runs.cancel family alive) here
    exact ⟨n, signals⟩
  · intro p within
    have here : (c.move (.child p)).callers[c.callers.length]? =
        some [.inherit p c.signals.nodes.length] := by simp [move]
    obtain ⟨n, signals, -⟩ := go_of_runs (c := c.move (.child p)) (Runs.child family within) here
    exact ⟨n, signals⟩

end Cancelling

end HttpService

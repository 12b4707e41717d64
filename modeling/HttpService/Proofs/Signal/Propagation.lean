import HttpService.Signal.Forest
import Mathlib.Data.List.Basic

/-!
# How far a cancellation reaches

Signals store their children and not their parents, and only the living are followed downwards. Here
the parents are written beside the signals: a cancellation marks exactly what descends from its
signal through living ones. Children have greater numbers than their parents, which bounds the
depth.
-/

namespace HttpService

/-- The parent of each signal, by number; nothing for one that was made on its own. -/
abbrev Parents := List (Option Nat)

/-- Descent from a signal, which counts as its own descendant, where every further signal on the way
satisfies a condition. -/
inductive Descends (parents : Parents) (through : Nat → Prop) (a : Nat) : Nat → Prop where
  | refl : Descends parents through a a
  | child {p x : Nat} (line : Descends parents through a p) (born : parents[x]? = some (some p))
      (passes : through x) : Descends parents through a x

namespace Descends

variable {parents : Parents} {through : Nat → Prop} {a b x : Nat}

theorem trans (upper : Descends parents through a b) (lower : Descends parents through b x) :
    Descends parents through a x := by
  induction lower with
  | refl => exact upper
  | child _ born passes ih => exact .child ih born passes

/-- A line of descent stays one when more signals are made and when less is asked of those on it. -/
theorem mono {grown : Parents} {other : Nat → Prop}
    (kept : ∀ i p : Nat, parents[i]? = some (some p) → through i →
      grown[i]? = some (some p) ∧ other i)
    (line : Descends parents through a x) : Descends grown other a x := by
  induction line with
  | refl => exact .refl
  | child _ born passes ih =>
      obtain ⟨bornToo, passesToo⟩ := kept _ _ born passes
      exact .child ih bornToo passesToo

end Descends

namespace Signals

variable {f g k : Signals} {parents : Parents} {id i : Nat}

theorem node_setNode (f : Signals) (id i : Nat) (n : SignalNode) :
    (f.setNode id n).node i = if i = id ∧ id < f.nodes.length then n else f.node i := by
  unfold setNode node
  rw [List.getD_eq_getElem?_getD, List.getD_eq_getElem?_getD, List.getElem?_set]
  by_cases same : id = i
  · subst same
    by_cases within : id < f.nodes.length
    · simp [within]
    · simp [within]
  · simp [same, Ne.symm same]

theorem node_create (f : Signals) (i : Nat) :
    f.create.1.node i = if i = f.nodes.length then { handles := 1 } else f.node i := by
  unfold create node
  rw [List.getD_eq_getElem?_getD, List.getD_eq_getElem?_getD, List.getElem?_append]
  by_cases old : i < f.nodes.length
  · simp [old, Nat.ne_of_lt old]
  · by_cases new : i = f.nodes.length
    · simp [new]
    · have beyond : f.nodes.length + 1 ≤ i := by omega
      have none : i - f.nodes.length ≠ 0 := by omega
      simp [old, new, none]

theorem node_beyond (beyond : f.nodes.length ≤ i) : f.node i = { handles := 0 } := by
  unfold node
  rw [List.getD_eq_getElem?_getD, List.getElem?_eq_none beyond]
  rfl

theorem lt_of_isAlive (alive : f.isAlive i = true) : i < f.nodes.length := by
  by_contra beyond
  unfold isAlive at alive
  rw [node_beyond (Nat.le_of_not_lt beyond)] at alive
  simp at alive

@[simp]
theorem length_setNode (f : Signals) (id : Nat) (n : SignalNode) :
    (f.setNode id n).nodes.length = f.nodes.length := by
  simp [setNode]

/-! ## Marking -/

/-- Some signals have been cancelled, all of them among those that satisfy a condition; one that was
has let go of its children, and nothing else has changed. -/
structure Marks (reached : Nat → Prop) (f g : Signals) : Prop where
  size : g.nodes.length = f.nodes.length
  handles : ∀ i, (g.node i).handles = (f.node i).handles
  kept : ∀ i, f.isCancelled i = true → g.isCancelled i = true
  fresh : ∀ i, g.isCancelled i = true → f.isCancelled i = true ∨ reached i
  children : ∀ i, g.isCancelled i = false → (g.node i).children = (f.node i).children
  fewer : ∀ i, ∀ x ∈ (g.node i).children, x ∈ (f.node i).children

namespace Marks

variable {reached other : Nat → Prop}

theorem refl (reached : Nat → Prop) (f : Signals) : Marks reached f f where
  size := rfl
  handles _ := rfl
  kept _ h := h
  fresh _ h := .inl h
  children _ _ := rfl
  fewer _ _ h := h

theorem trans (first : Marks reached f g) (second : Marks reached g k) : Marks reached f k where
  size := second.size.trans first.size
  handles i := (second.handles i).trans (first.handles i)
  kept i cancelled := second.kept i (first.kept i cancelled)
  fresh i cancelled := by
    obtain before | now := second.fresh i cancelled
    · exact first.fresh i before
    · exact .inr now
  children i open' := by
    have earlier : g.isCancelled i = false := by
      cases marked : g.isCancelled i with
      | false => rfl
      | true => rw [second.kept i marked] at open'; cases open'
    exact (second.children i open').trans (first.children i earlier)
  fewer i x member := first.fewer i x (second.fewer i x member)

theorem weaken (marks : Marks reached f g) (weaker : ∀ i, reached i → other i) :
    Marks other f g :=
  { marks with fresh := fun i cancelled => (marks.fresh i cancelled).imp_right (weaker i) }

theorem isAlive (marks : Marks reached f g) : g.isAlive = f.isAlive := by
  funext i
  simp only [Signals.isAlive, marks.handles i]

end Marks

/-- What is done to one signal after the other marks what each step marks. -/
theorem marks_foldl {reached : Nat → Prop} {act : Signals → Nat → Signals} {kids : List Nat}
    (each : ∀ k, Marks reached f k → ∀ id ∈ kids, Marks reached k (act k id))
    (before : Marks reached f g) : Marks reached g (kids.foldl act g) := by
  induction kids generalizing g with
  | nil => exact .refl ..
  | cons id rest ih =>
      have step := each g before id (List.mem_cons_self ..)
      exact step.trans (ih
        (fun k marks other member => each k marks other (List.mem_cons_of_mem _ member))
        (before.trans step))

/-! ## Signals and their parents -/

/-- The stored children are the children by birth. Of a signal that is not cancelled, all living ones
are stored. -/
structure Family (parents : Parents) (f : Signals) : Prop where
  size : parents.length = f.nodes.length
  older : ∀ x p : Nat, parents[x]? = some (some p) → p < x
  own : ∀ p, ∀ x ∈ (f.node p).children, parents[x]? = some (some p)
  linked : ∀ p x : Nat, parents[x]? = some (some p) → f.isAlive x = true →
    f.isCancelled p = false → x ∈ (f.node p).children

/-- Living children of a cancelled signal are cancelled, unless it is one of the unfinished. -/
def Inherits (parents : Parents) (unfinished : Nat → Prop) (f : Signals) : Prop :=
  ∀ p x : Nat, parents[x]? = some (some p) → f.isAlive x = true → f.isCancelled p = true →
    ¬ unfinished p → f.isCancelled x = true

theorem Family.marks {reached : Nat → Prop} (family : Family parents f)
    (marks : Marks reached f g) : Family parents g where
  size := family.size.trans marks.size.symm
  older := family.older
  own p x member := family.own p x (marks.fewer p x member)
  linked p x born alive open' := by
    rw [marks.isAlive] at alive
    rw [marks.children p open']
    refine family.linked p x born alive ?_
    cases cancelled : f.isCancelled p with
    | false => rfl
    | true => rw [marks.kept p cancelled] at open'; cases open'

/-- The first thing that cancelling does to a signal. -/
def marked (f : Signals) (id : Nat) : Signals :=
  f.setNode id { f.node id with cancelled := true, children := [] }

theorem cancelFrom_succ (depth : Nat) (f : Signals) (id : Nat) :
    cancelFrom (depth + 1) f id =
      if f.isCancelled id then f
      else ((f.node id).children.filter (f.marked id).isAlive).foldl (cancelFrom depth)
        (f.marked id) :=
  rfl

theorem isCancelled_marked (within : id < f.nodes.length) (i : Nat) :
    (f.marked id).isCancelled i = (decide (i = id) || f.isCancelled i) := by
  unfold marked isCancelled
  rw [node_setNode]
  by_cases same : i = id <;> simp [same, within]

theorem marks_marked (parents : Parents) (within : id < f.nodes.length)
    (open' : f.isCancelled id = false) :
    Marks (Descends parents (fun i => f.isAlive i = true) id) f (f.marked id) where
  size := length_setNode ..
  handles i := by
    unfold marked
    rw [node_setNode]
    split
    · next same => rw [same.1]
    · rfl
  kept i cancelled := by
    rw [isCancelled_marked within, cancelled, Bool.or_true]
  fresh i cancelled := by
    rw [isCancelled_marked within, Bool.or_eq_true, decide_eq_true_eq] at cancelled
    obtain rfl | before := cancelled
    · exact .inr .refl
    · exact .inl before
  children i still := by
    rw [isCancelled_marked within, Bool.or_eq_false_iff, decide_eq_false_iff_not] at still
    unfold marked
    rw [node_setNode, if_neg (fun same => still.1 same.1)]
  fewer i x member := by
    unfold marked at member
    rw [node_setNode] at member
    split at member
    · cases member
    · exact member

/-- What is cancelled with a signal descends from it through living ones. -/
theorem cancelFrom_marks (depth : Nat) (family : Family parents f) (within : id < f.nodes.length) :
    Marks (Descends parents (fun i => f.isAlive i = true) id) f (cancelFrom depth f id) := by
  induction depth generalizing f id with
  | zero => exact .refl _ f
  | succ depth ih =>
      rw [cancelFrom_succ]
      cases open' : f.isCancelled id with
      | true => exact .refl _ f
      | false =>
          rw [if_neg Bool.false_ne_true]
          have first := marks_marked parents within open'
          refine first.trans (marks_foldl (fun g marks kid member => ?_) first)
          obtain ⟨stored, alive⟩ := List.mem_filter.mp member
          rw [first.isAlive] at alive
          have born := family.own id kid stored
          have size := marks.size
          have below := ih (family.marks marks) (size ▸ lt_of_isAlive alive)
          refine below.weaken fun i line => ?_
          rw [marks.isAlive] at line
          exact (Descends.refl.child born alive).trans line

/-- If each act finishes its signal, all of them are finished in the end. -/
theorem inherits_foldl {reached unfinished : Nat → Prop} {act : Signals → Nat → Signals}
    {kids : List Nat}
    (frame : ∀ k, Marks reached f k → ∀ id ∈ kids, Marks reached k (act k id))
    (each : ∀ k, Marks reached f k → Inherits parents unfinished k → ∀ id ∈ kids,
      Inherits parents unfinished (act k id) ∧ (act k id).isCancelled id = true)
    (before : Marks reached f g) (inherits : Inherits parents unfinished g) :
    Inherits parents unfinished (kids.foldl act g) ∧
      ∀ id ∈ kids, (kids.foldl act g).isCancelled id = true := by
  induction kids generalizing g with
  | nil => exact ⟨inherits, fun _ member => by cases member⟩
  | cons id rest ih =>
      have step := frame g before id (List.mem_cons_self ..)
      obtain ⟨inheritsNow, cancelled⟩ := each g before inherits id (List.mem_cons_self ..)
      have frameRest : ∀ k, Marks reached f k → ∀ other ∈ rest, Marks reached k (act k other) :=
        fun k marks other member => frame k marks other (List.mem_cons_of_mem _ member)
      obtain ⟨inheritsLast, others⟩ := ih frameRest
        (fun k marks inherits other member =>
          each k marks inherits other (List.mem_cons_of_mem _ member))
        (before.trans step) inheritsNow
      refine ⟨inheritsLast, fun other member => ?_⟩
      obtain rfl | later := List.mem_cons.mp member
      · exact (marks_foldl frameRest (before.trans step)).kept other cancelled
      · exact others other later

/-- A signal that has just been marked is unfinished. -/
theorem Inherits.marked {unfinished : Nat → Prop} (inherits : Inherits parents unfinished f)
    (within : id < f.nodes.length) (open' : f.isCancelled id = false) :
    Inherits parents (fun p => p = id ∨ unfinished p) (f.marked id) := by
  have marks := marks_marked parents within open'
  intro p x born alive cancelled finished
  rw [marks.isAlive] at alive
  rw [isCancelled_marked within, Bool.or_eq_true, decide_eq_true_eq] at cancelled
  obtain rfl | before := cancelled
  · exact absurd (.inl rfl) finished
  · exact marks.kept x (inherits p x born alive before fun h => finished (.inr h))

/-- It is finished when its living children have been cancelled. -/
theorem Inherits.finish {reached unfinished : Nat → Prop} (family : Family parents f)
    (open' : f.isCancelled id = false) (marks : Marks reached f g)
    (inherits : Inherits parents (fun p => p = id ∨ unfinished p) g)
    (cancelled : ∀ kid ∈ (f.node id).children, f.isAlive kid = true → g.isCancelled kid = true) :
    Inherits parents unfinished g := by
  intro p x born alive above finished
  by_cases top : p = id
  · subst top
    rw [marks.isAlive] at alive
    exact cancelled x (family.linked p x born alive open') alive
  · exact inherits p x born alive above (not_or.mpr ⟨top, finished⟩)

/-- Cancelling a signal, deep enough, leaves no living child of a cancelled signal behind. While it
goes on, the signals that are being cancelled are the unfinished ones. -/
theorem cancelFrom_inherits {unfinished : Nat → Prop} (depth : Nat) (family : Family parents f)
    (within : id < f.nodes.length) (deep : f.nodes.length < id + depth)
    (inherits : Inherits parents unfinished f) :
    Inherits parents unfinished (cancelFrom depth f id) ∧
      (cancelFrom depth f id).isCancelled id = true := by
  induction depth generalizing f id unfinished with
  | zero => omega
  | succ depth ih =>
      rw [cancelFrom_succ]
      cases open' : f.isCancelled id with
      | true => exact ⟨inherits, open'⟩
      | false =>
          rw [if_neg Bool.false_ne_true]
          let kids := (f.node id).children.filter (f.marked id).isAlive
          have first : Marks (fun _ => True) f (f.marked id) :=
            (marks_marked parents within open').weaken fun _ _ => trivial
          -- Children are younger, so the depth that is left is enough for them.
          have bounds : ∀ g, Marks (fun _ => True) f g → ∀ kid ∈ kids,
              kid < g.nodes.length ∧ g.nodes.length < kid + depth := by
            intro g marks kid member
            obtain ⟨stored, alive⟩ := List.mem_filter.mp member
            have later := family.older kid id (family.own id kid stored)
            have within' := lt_of_isAlive alive
            rw [first.size] at within'
            rw [marks.size]
            omega
          have frame : ∀ g, Marks (fun _ => True) f g → ∀ kid ∈ kids,
              Marks (fun _ => True) g (cancelFrom depth g kid) :=
            fun g marks kid member => (cancelFrom_marks depth (family.marks marks)
              (bounds g marks kid member).1).weaken fun _ _ => trivial
          obtain ⟨inheritsLast, finished⟩ := inherits_foldl frame
            (fun g marks inherits kid member => ih (family.marks marks)
              (bounds g marks kid member).1 (bounds g marks kid member).2 inherits)
            first (inherits.marked within open')
          have rest := marks_foldl frame first
          refine ⟨inheritsLast.finish family open' (first.trans rest) fun kid stored alive => ?_,
            rest.kept id ?_⟩
          · exact finished kid (List.mem_filter.mpr ⟨stored, first.isAlive ▸ alive⟩)
          · rw [isCancelled_marked within, decide_eq_true rfl, Bool.true_or]

/-! ## Cancelling and deriving -/

theorem cancel_marks (family : Family parents f) (within : id < f.nodes.length) :
    Marks (Descends parents (fun i => f.isAlive i = true) id) f (f.cancel id) :=
  cancelFrom_marks _ family within

/-- Exactly the signals that descend from the cancelled one through living ones are reached. -/
theorem isCancelled_cancel (family : Family parents f) (within : id < f.nodes.length)
    (inherits : Inherits parents (fun _ => False) f) (x : Nat) :
    (f.cancel id).isCancelled x = true ↔
      f.isCancelled x = true ∨ Descends parents (fun i => f.isAlive i = true) id x := by
  have marks := cancel_marks family within
  obtain ⟨inheritsLast, cancelled⟩ :=
    cancelFrom_inherits (f.nodes.length + 1) family within (by omega) inherits
  constructor
  · exact marks.fresh x
  · rintro (before | line)
    · exact marks.kept x before
    · induction line with
      | refl => exact cancelled
      | child _ born passes ih =>
          refine inheritsLast _ _ born ?_ ih not_false
          exact (congrFun marks.isAlive _).trans passes

end Signals

end HttpService

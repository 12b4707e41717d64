import HttpService.Proofs.Signal.Reach
import HttpService.Signal.Race

/-!
# What cancelling leaves alone

A cancellation goes down and nowhere else: whatever does not descend from the cancelled signal keeps
its whole node, children included. Work that is run under a signal takes part in the runs here; it
changes no signal, and it is never polled if its signal has fired before.
-/

namespace HttpService

/-! ## Signals that are not below -/

namespace Descends

variable {parents : Parents} {through : Nat → Prop} {a b x : Nat}

theorem weaken (line : Descends parents through a x) : Descends parents (fun _ => True) a x :=
  line.mono fun _ _ born _ => ⟨born, trivial⟩

/-- Parents have smaller numbers, and so have ancestors. -/
theorem le (older : ∀ x p : Nat, parents[x]? = some (some p) → p < x)
    (line : Descends parents through a x) : a ≤ x := by
  induction line with
  | refl => exact Nat.le_refl _
  | child _ born _ ih => exact Nat.le_trans ih (Nat.le_of_lt (older _ _ born))

/-- What descends from a signal, apart from itself, has a parent that does too. -/
theorem of_parent {p : Nat} (line : Descends parents through a x) (other : x ≠ a)
    (born : parents[x]? = some (some p)) : Descends parents through a p := by
  cases line with
  | refl => exact absurd rfl other
  | child upper born' _ =>
      obtain rfl : _ = p := Option.some.inj (Option.some.inj (born'.symm.trans born))
      exact upper

end Descends

/-- The signal is above the other one, beside it or in another tree. -/
inductive Apart (parents : Parents) (a x : Nat) : Prop
  | ancestor (other : x ≠ a) (above : Descends parents (fun _ => True) x a)
  | sibling {p : Nat} (other : x ≠ a) (born : parents[a]? = some (some p))
      (bornToo : parents[x]? = some (some p))
  | unrelated (none : ∀ root, Descends parents (fun _ => True) root a →
      ¬ Descends parents (fun _ => True) root x)

theorem Apart.not_descends {parents : Parents} {a x : Nat}
    (older : ∀ x p : Nat, parents[x]? = some (some p) → p < x) (apart : Apart parents a x) :
    ¬ Descends parents (fun _ => True) a x := by
  intro line
  cases apart with
  | ancestor other above =>
      exact other (Nat.le_antisymm (above.le older) (line.le older))
  | sibling other born bornToo =>
      -- The common parent would descend from its own child.
      have below := (line.of_parent other bornToo).le older
      exact absurd (older _ _ born) (Nat.not_lt.mpr below)
  | unrelated none => exact none a .refl line

namespace Signals

variable {f : Signals} {parents : Parents} {id i : Nat}

/-- Cancelling leaves every node as it is that does not descend from the signal. -/
theorem cancelFrom_node (depth : Nat) (family : Family parents f) (within : id < f.nodes.length)
    (apart : ¬ Descends parents (fun _ => True) id i) :
    (cancelFrom depth f id).node i = f.node i := by
  induction depth generalizing f id with
  | zero => rfl
  | succ depth ih =>
      rw [cancelFrom_succ]
      cases open' : f.isCancelled id with
      | true => rw [if_pos rfl]
      | false =>
          rw [if_neg Bool.false_ne_true]
          have first : Marks (fun _ => True) f (f.marked id) :=
            (marks_marked parents within open').weaken fun _ _ => trivial
          have top : (f.marked id).node i = f.node i := by
            rw [marked, node_setNode, if_neg fun same : i = id ∧ _ => apart (same.1 ▸ .refl)]
          -- Among the children nothing but their own descendants changes either.
          refine (List.foldlRecOn _ (cancelFrom depth)
            (motive := fun g => Marks (fun _ => True) f g ∧ g.node i = f.node i) ⟨first, top⟩
            fun g ⟨marks, same⟩ kid member => ?_).2
          obtain ⟨stored, alive⟩ := List.mem_filter.mp member
          have born := family.own id kid stored
          have inside : kid < g.nodes.length := by
            rw [marks.size, ← first.size]
            exact lt_of_isAlive alive
          have family := family.marks marks
          refine ⟨marks.trans ((cancelFrom_marks depth family inside).weaken fun _ _ => trivial), ?_⟩
          rw [ih family inside fun below => apart ((Descends.refl.child born trivial).trans below),
            same]

theorem cancel_node (family : Family parents f) (within : id < f.nodes.length)
    (apart : ¬ Descends parents (fun _ => True) id i) : (f.cancel id).node i = f.node i :=
  cancelFrom_node _ family within apart

/-- Cancelling a cancelled signal changes nothing at all. -/
theorem cancel_of_isCancelled (cancelled : f.isCancelled id = true) : f.cancel id = f :=
  if_pos cancelled

end Signals

theorem CancelGuard.drop_of_disarmed (f : Signals) {g : CancelGuard} (disarmed : g.armed = false) :
    CancelGuard.drop f g = f := by
  simp [CancelGuard.drop, disarmed]

namespace SignalHolders

variable {h : SignalHolders} {s : SignalStep} {a x : Nat}

/-- A step that cancels a signal leaves what does not descend from it as it is. -/
theorem node_step (sound : Sound h) (allowed : h.Allows s) (cancels : s.Cancels a)
    (apart : ¬ Descends h.parents (fun _ => True) a x) :
    (h.step s).signals.node x = h.signals.node x := by
  have within := sound.within (held_of_cancels allowed cancels)
  have same := Signals.cancel_node sound.family within apart
  cases s with
  | cancel id =>
      obtain rfl : id = a := cancels
      exact same
  | dropGuard g =>
      obtain ⟨armed, rfl⟩ := cancels
      have other : x ≠ g.signal := fun here => apart (here ▸ .refl)
      simp only [step, CancelGuard.drop, armed, if_true, Signals.release, Signals.node_setNode]
      rw [if_neg fun here => other here.1, same]
  | create | child | clone | drop | guard | disarm => cases cancels

theorem isCancelled_of_step (sound : Sound h) (allowed : h.Allows s)
    (cancelled : h.signals.isCancelled x = true) : (h.step s).signals.isCancelled x = true :=
  (isCancelled_step sound allowed x).mpr (.inl cancelled)

/-- Of the signals that are there, a step cancels none but what descends from the one it cancels. -/
theorem isCancelled_step_old (sound : Sound h) (allowed : h.Allows s) (old : x < h.parents.length)
    (other : ∀ a, ¬ s.Cancels a) :
    (h.step s).signals.isCancelled x = true ↔ h.signals.isCancelled x = true := by
  rw [isCancelled_step sound allowed]
  constructor
  · rintro (before | ⟨a, cancels, -⟩ | ⟨p, -, rfl, -⟩)
    · exact before
    · exact absurd cancels (other a)
    · exact absurd old (Nat.lt_irrefl _)
  · exact .inl

end SignalHolders

/-! ## Runs with work under signals -/

/-- What can happen to signals and to work that is run under them. -/
inductive SignalMove (α : Type)
  | act (s : SignalStep)
  | race (id : Nat) (work : Nat → Option α)
  | poll (i : Nat)

structure SignalRaces (α : Type) where
  holders : SignalHolders := {}
  races : List (Race α) := []

namespace SignalRaces

variable {α : Type} {d : SignalRaces α} {m : SignalMove α} {moves : List (SignalMove α)}
  {id i x : Nat}

def Cancelled (d : SignalRaces α) (x : Nat) : Prop :=
  d.holders.signals.isCancelled x = true

instance (d : SignalRaces α) (x : Nat) : Decidable (d.Cancelled x) :=
  inferInstanceAs (Decidable (_ = true))

/-- Work is run under a signal that is held; whoever runs it may poll it at any time. -/
def Allows (d : SignalRaces α) : SignalMove α → Prop
  | .act s => d.holders.Allows s
  | .race id _ => id ∈ d.holders.handles
  | .poll _ => True

instance (d : SignalRaces α) : (m : SignalMove α) → Decidable (d.Allows m)
  | .act s => inferInstanceAs (Decidable (d.holders.Allows s))
  | .race id _ => inferInstanceAs (Decidable (id ∈ d.holders.handles))
  | .poll _ => inferInstanceAs (Decidable True)

def move (d : SignalRaces α) : SignalMove α → SignalRaces α
  | .act s => { d with holders := d.holders.step s }
  | .race id work => { d with races := d.races ++ [{ signal := id, work := work }] }
  | .poll i => { d with races := d.races.modify i (Race.poll d.holders.signals) }

def AllowsAll (d : SignalRaces α) : List (SignalMove α) → Prop
  | [] => True
  | m :: rest => d.Allows m ∧ (d.move m).AllowsAll rest

instance decidableAllowsAll : (d : SignalRaces α) → (moves : List (SignalMove α)) →
    Decidable (d.AllowsAll moves)
  | _, [] => inferInstanceAs (Decidable True)
  | d, m :: rest =>
      have := decidableAllowsAll (d.move m) rest
      inferInstanceAs (Decidable (_ ∧ _))

def run (d : SignalRaces α) (moves : List (SignalMove α)) : SignalRaces α :=
  moves.foldl move d

/-- The steps of those who hold signals. -/
def acts (moves : List (SignalMove α)) : List SignalStep :=
  moves.filterMap fun
    | .act s => some s
    | _ => none

theorem mem_acts {s : SignalStep} : s ∈ acts moves ↔ .act s ∈ moves := by
  rw [acts, List.mem_filterMap]
  constructor
  · rintro ⟨m, member, eq⟩
    cases m with
    | act t => cases eq; exact member
    | race | poll => cases eq
  · exact fun member => ⟨_, member, rfl⟩

/-- Work changes no signal. -/
theorem holders_run (d : SignalRaces α) (moves : List (SignalMove α)) :
    (d.run moves).holders = d.holders.run (acts moves) := by
  induction moves generalizing d with
  | nil => rfl
  | cons m rest ih =>
      refine (ih (d.move m)).trans ?_
      cases m <;> rfl

theorem allowsAll_acts (allowed : d.AllowsAll moves) : d.holders.AllowsAll (acts moves) := by
  induction moves generalizing d with
  | nil => trivial
  | cons m rest ih =>
      have later := ih allowed.2
      cases m with
      | act s => exact ⟨allowed.1, later⟩
      | race | poll => exact later

theorem sound_run (sound : d.holders.Sound) (allowed : d.AllowsAll moves) :
    (d.run moves).holders.Sound := by
  rw [holders_run]
  exact sound.run (allowsAll_acts allowed)

theorem cancelled_move (sound : d.holders.Sound) (allowed : d.Allows m) (cancelled : d.Cancelled x) :
    (d.move m).Cancelled x := by
  cases m with
  | act s => exact SignalHolders.isCancelled_of_step sound allowed cancelled
  | race | poll => exact cancelled

theorem sound_move (sound : d.holders.Sound) (allowed : d.Allows m) : (d.move m).holders.Sound := by
  cases m with
  | act s => exact sound.step allowed
  | race | poll => exact sound

theorem cancelled_run (sound : d.holders.Sound) (allowed : d.AllowsAll moves)
    (cancelled : d.Cancelled x) : (d.run moves).Cancelled x := by
  induction moves generalizing d with
  | nil => exact cancelled
  | cons m rest ih =>
      exact ih (sound_move sound allowed.1) allowed.2 (cancelled_move sound allowed.1 cancelled)

/-! ## Work under a signal that has fired -/

/-- A race on a signal that has fired before it began: its work has not been polled, and it is over
if the race has been polled. -/
structure Barred (id : Nat) (polled : Prop) (r : Race α) : Prop where
  signal : r.signal = id
  polls : r.polls = 0
  answer : (¬ polled ∧ r.answer = none ∧ r.waiter = .fresh) ∨
    (polled ∧ r.answer = some (.error Signals.interruption))

theorem Barred.poll {polled : Prop} {f : Signals} {r : Race α} (barred : Barred id polled r)
    (cancelled : f.isCancelled id = true) : Barred id True (r.poll f) := by
  obtain ⟨signal, polls, ⟨-, waiting, fresh⟩ | ⟨-, ended⟩⟩ := barred
  · rw [Race.poll_of_isCancelled waiting fresh (signal ▸ cancelled)]
    exact ⟨signal, polls, .inr ⟨trivial, rfl⟩⟩
  · rw [Race.poll_of_answered (by rw [ended]; rfl)]
    exact ⟨signal, polls, .inr ⟨trivial, ended⟩⟩

theorem Barred.congr {polled polled' : Prop} {r : Race α} (barred : Barred id polled r)
    (same : polled ↔ polled') : Barred id polled' r :=
  propext same ▸ barred

theorem barred_move {polled : Prop} {r : Race α} (here : d.races[i]? = some r)
    (barred : Barred id polled r) (cancelled : d.Cancelled id) (m : SignalMove α) :
    ∃ r', (d.move m).races[i]? = some r' ∧ Barred id (polled ∨ m = .poll i) r' := by
  cases m with
  | act s => exact ⟨r, here, barred.congr (by simp)⟩
  | race other work =>
      refine ⟨r, ?_, barred.congr (by simp)⟩
      rw [move, List.getElem?_append_left (List.getElem?_eq_some_iff.mp here).1]
      exact here
  | poll j =>
      by_cases same : j = i
      · subst same
        refine ⟨r.poll d.holders.signals, ?_, (barred.poll cancelled).congr (by simp)⟩
        simp [move, here]
      · refine ⟨r, ?_, barred.congr (by simp [same])⟩
        simp [move, same, here]

theorem barred_run {polled : Prop} {r : Race α} (sound : d.holders.Sound)
    (allowed : d.AllowsAll moves) (here : d.races[i]? = some r) (barred : Barred id polled r)
    (cancelled : d.Cancelled id) :
    ∃ r', (d.run moves).races[i]? = some r' ∧ Barred id (polled ∨ .poll i ∈ moves) r' := by
  induction moves generalizing d r polled with
  | nil => exact ⟨r, here, barred.congr (by simp)⟩
  | cons m rest ih =>
      obtain ⟨r', here', barred'⟩ := barred_move here barred cancelled m
      obtain ⟨last, there, barredLast⟩ := ih (sound_move sound allowed.1) allowed.2 here' barred'
        (cancelled_move sound allowed.1 cancelled)
      exact ⟨last, there, barredLast.congr (by rw [List.mem_cons, or_assoc, eq_comm])⟩

/-! ## The whole -/

/-- How far cancellations have gone in a run, and how far the next one can go. -/
structure Confined (moves : List (SignalMove α)) (d : SignalRaces α) : Prop where
  /-- A signal is cancelled only because it was, or one above it. -/
  cause : ∀ x, d.Cancelled x → ∃ s a, .act s ∈ moves ∧ s.Cancels a ∧
    Descends d.holders.parents (fun _ => True) a x
  /-- Nothing changes in a signal that does not descend from the one that is cancelled. -/
  below : ∀ s a x, d.Allows (.act s) → s.Cancels a →
    ¬ Descends d.holders.parents (fun _ => True) a x →
    (d.move (.act s)).holders.signals.node x = d.holders.signals.node x
  apart : ∀ a x, Apart d.holders.parents a x → ¬ Descends d.holders.parents (fun _ => True) a x
  /-- No other move cancels a signal that is there. -/
  others : ∀ m x, d.Allows m → (∀ s a, m = .act s → ¬ s.Cancels a) →
    x < d.holders.parents.length → ((d.move m).Cancelled x ↔ d.Cancelled x)
  kept : ∀ x further, d.AllowsAll further → d.Cancelled x → (d.run further).Cancelled x
  again : ∀ x, d.Cancelled x → d.move (.act (.cancel x)) = d
  disarmed : ∀ g x, d.Allows (.act (.disarm g)) →
    ((d.move (.act (.disarm g))).Cancelled x ↔ d.Cancelled x)
  inert : ∀ g : CancelGuard, g.armed = false →
    CancelGuard.drop d.holders.signals g = d.holders.signals
  /-- Work under a signal that has fired is not polled, and ends as cancelled when its race is. -/
  barred : ∀ x work further, d.Cancelled x → d.AllowsAll (.race x work :: further) →
    ∃ r, (d.run (.race x work :: further)).races[d.races.length]? = some r ∧
      Barred x (.poll d.races.length ∈ further) r

/-- Cancelling a signal reaches what descends from it and nothing else, in every run. -/
theorem cancellation_confined (allowed : AllowsAll {} moves) : Confined moves (run {} moves) := by
  have sound : (run {} moves).holders.Sound := sound_run SignalHolders.sound_start allowed
  refine ⟨fun x cancelled => ?_, fun s a x allows cancels apart => ?_, fun a x apart => ?_,
    fun m x allows other old => ?_, fun x further allows cancelled => ?_, fun x cancelled => ?_,
    fun g x allows => ?_, fun g disarmed => CancelGuard.drop_of_disarmed _ disarmed,
    fun x work further cancelled allows => ?_⟩
  · rw [Cancelled, holders_run] at cancelled
    obtain ⟨before, s, after, a, split, cancels, line⟩ :=
      SignalHolders.line_of_isCancelled (allowsAll_acts allowed) cancelled
    refine ⟨s, a, mem_acts.mp (split ▸ by simp), cancels, ?_⟩
    rw [holders_run]
    exact line.weaken
  · exact SignalHolders.node_step sound allows cancels apart
  · exact apart.not_descends sound.family.older
  · cases m with
    | act s => exact SignalHolders.isCancelled_step_old sound allows old fun a => other s a rfl
    | race | poll => exact Iff.rfl
  · exact cancelled_run sound allows cancelled
  · simp only [move, SignalHolders.step, Signals.cancel_of_isCancelled cancelled]
  · have step := SignalHolders.isCancelled_step (s := .disarm g) sound allows x
    simp only [SignalStep.Cancels, false_and, exists_false, reduceCtorEq, or_false] at step
    exact step
  · have here : ((run {} moves).move (.race x work)).races[(run {} moves).races.length]? =
        some { signal := x, work := work } := by simp [move]
    have barred : Barred x False ({ signal := x, work := work } : Race α) :=
      ⟨rfl, rfl, .inl ⟨not_false, rfl, rfl⟩⟩
    obtain ⟨r, there, barred'⟩ :=
      barred_run (sound_move sound allows.1) allows.2 here barred cancelled
    exact ⟨r, there, barred'.congr (by rw [false_or])⟩

/-- An armed guard of one of two siblings is dropped: the parent, the other sibling and a tree of its
own stay as they are. Work that is ready is not polled any more below. -/
theorem cancellation_confined_to_sibling :
    let moves : List (SignalMove Nat) := [.act .create, .act (.child 0), .act (.child 0),
      .act (.child 1), .act .create, .act (.guard 1)]
    let cut : SignalMove Nat := .act (.dropGuard ⟨1, true⟩)
    let d : SignalRaces Nat := run {} moves
    AllowsAll {} moves ∧ d.Allows cut ∧
      (∀ x ∈ [0, 2, 4], (d.move cut).holders.signals.node x = d.holders.signals.node x) ∧
      (d.move cut).Cancelled 3 ∧
      ∃ r, (run {} (moves ++ [cut] ++ [.race 3 fun _ => some 7, .poll 0])).races[0]? = some r ∧
        r.polls = 0 ∧ r.answer = some (.error Signals.interruption) := by
  intro moves cut d
  have allowed : AllowsAll {} moves := by decide
  have confined := cancellation_confined allowed
  have beside (x : Nat) (apart : Apart d.holders.parents 1 x) :
      (d.move cut).holders.signals.node x = d.holders.signals.node x :=
    confined.below (.dropGuard ⟨1, true⟩) 1 x (by decide) ⟨rfl, rfl⟩ (confined.apart 1 x apart)
  have unrelated : Apart d.holders.parents 1 4 := by
    refine .unrelated fun root upper lower => ?_
    cases lower with
    | refl =>
        have older := (sound_run SignalHolders.sound_start allowed).family.older
        exact absurd (upper.le older) (by decide)
    | child _ born _ => cases born
  have cutAllowed : AllowsAll {} (moves ++ [cut]) := by decide
  have cancelled : (run {} (moves ++ [cut])).Cancelled 3 := by decide
  obtain ⟨r, here, barred⟩ := (cancellation_confined cutAllowed).barred 3 (fun _ => some 7) [.poll 0]
    cancelled (by decide)
  refine ⟨allowed, by decide, fun x member => ?_, cancelled, r, here, barred.polls, ?_⟩
  · simp only [List.mem_cons, List.not_mem_nil, or_false] at member
    obtain rfl | rfl | rfl := member
    · exact beside 0 (.ancestor (by decide) (.child .refl rfl trivial))
    · exact beside 2 (.sibling (by decide) rfl rfl)
    · exact beside 4 unrelated
  · exact (barred.answer.resolve_left fun waiting => waiting.1 (List.mem_singleton_self _)).2

end SignalRaces

end HttpService

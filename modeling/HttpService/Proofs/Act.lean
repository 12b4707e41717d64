import HttpService.Stage.Basic

/-!
# Running acts

What a sequence of acts does once it is known how its first act ends, what it preserves if each of
its acts does, what its last act gives then, and how an act on the site of a request runs.
-/

namespace HttpService

namespace Act

variable {σ α β : Type} {m : Act σ α} {s s' : σ}

theorem bind_done {a : α} (first : m s = (.done a, s')) (k : α → Act σ β) :
    (m >>= k) s = k a s' := by
  change Act.bind m k s = k a s'
  simp only [Act.bind, first]

theorem bind_panicked {p : Panic} (first : m s = (.panicked p, s')) (k : α → Act σ β) :
    (m >>= k) s = (.panicked p, s') := by
  change Act.bind m k s = (.panicked p, s')
  simp only [Act.bind, first]

theorem bind_dropped (first : m s = (.dropped, s')) (k : α → Act σ β) :
    (m >>= k) s = (.dropped, s') := by
  change Act.bind m k s = (.dropped, s')
  simp only [Act.bind, first]

theorem bind_observe {e : Ending α} (first : m s = (e, s')) (k : Ending α → Act σ β) :
    (Act.observe m >>= k) s = k e s' := by
  apply bind_done
  simp only [Act.observe, first]

variable {ε : Type}

theorem attempt_ok {m : Act σ (Except ε α)} {a : α} (first : m s = (.done (.ok a), s'))
    (k : α → Act σ (Except ε β)) : Act.attempt m k s = k a s' :=
  bind_done first _

theorem attempt_error {m : Act σ (Except ε α)} {e : ε} (first : m s = (.done (.error e), s'))
    (k : α → Act σ (Except ε β)) : Act.attempt m k s = (.done (.error e), s') :=
  bind_done first _

theorem attempt_panicked {m : Act σ (Except ε α)} {p : Panic} (first : m s = (.panicked p, s'))
    (k : α → Act σ (Except ε β)) : Act.attempt m k s = (.panicked p, s') :=
  bind_panicked first _

theorem attempt_dropped {m : Act σ (Except ε α)} (first : m s = (.dropped, s'))
    (k : α → Act σ (Except ε β)) : Act.attempt m k s = (.dropped, s') :=
  bind_dropped first _

/-- What succeeds after a first act has succeeded. -/
theorem of_attempt_ok {m : Act σ (Except ε α)} {k : α → Act σ (Except ε β)} {b : β}
    (done : Act.attempt m k s = (.done (.ok b), s')) :
    ∃ a t, m s = (.done (.ok a), t) ∧ k a t = (.done (.ok b), s') := by
  cases first : m s with
  | mk ending t =>
      cases ending with
      | done outcome =>
          cases outcome with
          | ok a => exact ⟨a, t, rfl, (attempt_ok first k).symm.trans done⟩
          | error e => cases (attempt_error first k).symm.trans done
      | panicked p => cases (attempt_panicked first k).symm.trans done
      | dropped => cases (attempt_dropped first k).symm.trans done

/-! ## Panics -/

/-- Run from here, the act panics. -/
def Panics (m : Act σ α) (s : σ) : Prop :=
  ∃ p, (m s).1 = .panicked p

theorem not_panics_pure (a : α) (s : σ) : ¬ Panics (Act.pure a) s := by
  rintro ⟨p, panicked⟩
  cases panicked

/-- A sequence panics where its first act does, or where the rest does after it. -/
theorem panics_bind_iff {k : α → Act σ β} :
    Panics (m >>= k) s ↔ Panics m s ∨ ∃ a t, m s = (.done a, t) ∧ Panics (k a) t := by
  cases first : m s with
  | mk ending t =>
      cases ending with
      | done a =>
          simp only [Panics, bind_done first, first]
          constructor
          · exact fun panics => .inr ⟨a, t, rfl, panics⟩
          · rintro (⟨p, panicked⟩ | ⟨_, _, done, panics⟩)
            · cases panicked
            · cases done
              exact panics
      | panicked p => simp [Panics, bind_panicked first, first]
      | dropped => simp [Panics, bind_dropped first, first]

theorem panics_attempt_iff {m : Act σ (Except ε α)} {k : α → Act σ (Except ε β)} :
    Panics (Act.attempt m k) s ↔
      Panics m s ∨ ∃ a t, m s = (.done (.ok a), t) ∧ Panics (k a) t := by
  refine panics_bind_iff.trans (or_congr_right ⟨?_, ?_⟩)
  · rintro ⟨outcome, t, first, panics⟩
    cases outcome with
    | ok a => exact ⟨a, t, first, panics⟩
    | error e => exact absurd panics (not_panics_pure _ t)
  · rintro ⟨a, t, first, panics⟩
    exact ⟨.ok a, t, first, panics⟩

/-! ## What an act preserves -/

/-- What holds before the act holds after it, however it ends. -/
def Preserves (P : σ → Prop) (m : Act σ α) : Prop :=
  ∀ s, P s → P (m s).2

namespace Preserves

variable {P : σ → Prop}

theorem pure (a : α) : Preserves P (Act.pure a) :=
  fun _ holds => holds

theorem panic (p : Panic) : Preserves P (Act.panic p : Act σ α) :=
  fun _ holds => holds

theorem resume (e : Ending α) : Preserves P (Act.resume e : Act σ α) :=
  fun _ holds => holds

theorem observe {m : Act σ α} (preserves : Preserves P m) : Preserves P (Act.observe m) :=
  preserves

theorem bind {m : Act σ α} {k : α → Act σ β} (first : Preserves P m)
    (rest : ∀ a, Preserves P (k a)) : Preserves P (m >>= k) := by
  intro s holds
  have after := first s holds
  cases run : m s with
  | mk ending t =>
      rw [run] at after
      cases ending with
      | done a =>
          rw [bind_done run]
          exact rest a t after
      | panicked p =>
          rw [bind_panicked run]
          exact after
      | dropped =>
          rw [bind_dropped run]
          exact after

theorem attempt {m : Act σ (Except ε α)} {k : α → Act σ (Except ε β)} (first : Preserves P m)
    (rest : ∀ a, Preserves P (k a)) : Preserves P (Act.attempt m k) :=
  bind first fun
    | .ok a => rest a
    | .error e => pure (Except.error e)

end Preserves

/-! ## What an act gives -/

/-- Whatever value the act ends with, this holds of it, if it was run where `P` holds. -/
def Gives (P : σ → Prop) (Q : α → Prop) (m : Act σ α) : Prop :=
  ∀ s a t, P s → m s = (.done a, t) → Q a

namespace Gives

variable {P : σ → Prop} {Q : α → Prop} {R : β → Prop}

theorem pure {a : α} (holds : Q a) : Gives P Q (Act.pure a) := by
  rintro s _ t - ⟨⟩
  exact holds

theorem panic (p : Panic) : Gives P Q (Act.panic p : Act σ α) :=
  fun _ _ _ _ ends => nomatch ends

theorem resume {e : Ending α} (holds : ∀ a, e = .done a → Q a) : Gives P Q (Act.resume e) := by
  rintro s a t - ⟨⟩
  exact holds a rfl

theorem observe {m : Act σ α} (gives : Gives P Q m) :
    Gives P (fun e => ∀ a, e = .done a → Q a) (Act.observe m) := by
  rintro s e t holds ⟨⟩ a done
  exact gives s a _ holds (Prod.ext done rfl)

theorem bind {m : Act σ α} {k : α → Act σ β} (keeps : Preserves P m) (first : Gives P Q m)
    (rest : ∀ a, Q a → Gives P R (k a)) : Gives P R (m >>= k) := by
  intro s b t holds ends
  cases run : m s with
  | mk ending t' =>
      have after := keeps s holds
      rw [run] at after
      cases ending with
      | done a =>
          rw [bind_done run] at ends
          exact rest a (first s a t' holds run) t' b t after ends
      | panicked p => cases (bind_panicked run k).symm.trans ends
      | dropped => cases (bind_dropped run k).symm.trans ends

/-- After a first act whose value is of no account. -/
theorem after {m : Act σ α} {k : α → Act σ β} (keeps : Preserves P m)
    (rest : ∀ a, Gives P R (k a)) : Gives P R (m >>= k) :=
  have any : Gives P (fun _ => True) m := fun _ _ _ _ _ => trivial
  bind keeps any fun a _ => rest a

end Gives

end Act

namespace Flow

variable {α β : Type} {m : Act Site α} {f : Flow} {s : Site}

theorem onSite_eq {e : Ending α} (run : m f.site = (e, s)) :
    onSite m f = (e, { f with site := s }) := by
  change ((m f.site).1, { f with site := (m f.site).2 }) = (e, { f with site := s })
  rw [run]

theorem onSite_done {a : α} (run : m f.site = (.done a, s)) (k : α → Act Flow β) :
    (onSite m >>= k) f = k a { f with site := s } :=
  Act.bind_done (onSite_eq run) k

theorem onSite_panicked {p : Panic} (run : m f.site = (.panicked p, s)) (k : α → Act Flow β) :
    (onSite m >>= k) f = (.panicked p, { f with site := s }) :=
  Act.bind_panicked (onSite_eq run) k

theorem onSite_dropped (run : m f.site = (.dropped, s)) (k : α → Act Flow β) :
    (onSite m >>= k) f = (.dropped, { f with site := s }) :=
  Act.bind_dropped (onSite_eq run) k

end Flow

end HttpService

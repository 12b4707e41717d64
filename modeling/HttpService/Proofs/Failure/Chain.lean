import HttpService.Settings.Fault

/-!
# Chains of causes

Wrapping happens once: an error that is a failure stays as it is, and any other becomes the cause of
a failure, which is wrapped no more. Whoever follows the sources of a failure meets the failures that
are nested in it, each once and the outermost first, and then the errors below the one at the bottom.
What a failure refers to is not the error that caused it but a cause that stands for it: it shows the
error's text, and its source is the error's source.
-/

namespace HttpService

/-- The error below one of another component, if there is one. -/
def Foreign.source? (e : Foreign) : Option Foreign :=
  match e.sources with
  | [] => none
  | text :: rest => some { text := text, sources := rest, stable := e.stable }

/-! ## Wrapping -/

/-- A caller that wraps an error. -/
structure Wrapping where
  code : Code
  message : String
  /-- Whether it wraps the result that the error came in, or the error alone. -/
  wholeResult : Bool

namespace Wrapping

variable {α : Type}

def apply (w : Wrapping) (result : Except Cause α) : Except Cause α :=
  if w.wholeResult then (Failure.wrapError result w.code w.message).mapError .failure
  else result.mapError fun e => .failure (Failure.wrap e w.code w.message)

/-- One caller after the other wraps what has become of a result. -/
def applyAll (wraps : List Wrapping) (result : Except Cause α) : Except Cause α :=
  wraps.foldl (fun result w => w.apply result) result

theorem apply_error (w : Wrapping) (e : Cause) :
    w.apply (.error e : Except Cause α) = .error (.failure (Failure.wrap e w.code w.message)) := by
  unfold apply
  split <;> rfl

theorem applyAll_failure (wraps : List Wrapping) (f : Failure) :
    applyAll wraps (.error (.failure f) : Except Cause α) = .error (.failure f) := by
  induction wraps with
  | nil => rfl
  | cons w rest ih =>
      rw [applyAll, List.foldl_cons, apply_error]
      exact ih

theorem applyAll_foreign (w : Wrapping) (wraps : List Wrapping) (e : Foreign) :
    applyAll (w :: wraps) (.error (.foreign e) : Except Cause α) =
      .error (.failure ((Failure.new w.code w.message).withCause (.foreign e))) := by
  rw [applyAll, List.foldl_cons, apply_error]
  exact applyAll_failure wraps _

end Wrapping

/-! ## Following sources -/

/-- An error as those see it who follow sources. -/
inductive Link
  | failure (f : Failure)
  /-- What stands for the error that a failure was caused by. -/
  | cause (c : Cause)
  | foreign (e : Foreign)

namespace Link

def display : Link → String
  | failure f => f.display
  | cause c => c.display
  | foreign e => e.text

/-- The source of an error; that of a cause is the source of the error it stands for. -/
def source? : Link → Option Link
  | failure f => f.cause.map cause
  | cause (.failure f) => f.cause.map cause
  | cause (.foreign e) => e.source?.map foreign
  | foreign e => e.source?.map foreign

/-- The failure that the link is, or stands for. -/
def failure? : Link → Option Failure
  | failure f => some f
  | cause (.failure f) => some f
  | cause (.foreign _) => none
  | foreign _ => none

/-- The errors that are met below one when sources are followed until there is none. -/
inductive Below : Link → List Link → Prop
  | last {l : Link} (none : l.source? = none) : Below l []
  | next {l m : Link} {rest : List Link} (source : l.source? = some m) (below : Below m rest) :
      Below l (m :: rest)

namespace Below

variable {l m : Link} {rest other : List Link}

theorem unique (below : Below l rest) (others : Below l other) : rest = other := by
  induction below generalizing other with
  | last none =>
      cases others with
      | last => rfl
      | next source _ => cases none.symm.trans source
  | next source _ ih =>
      cases others with
      | last none => cases none.symm.trans source
      | next source' below =>
          cases source.symm.trans source'
          rw [ih below]

/-- What lies below depends on the source alone. -/
theorem of_source_eq (below : Below m rest) (same : l.source? = m.source?) : Below l rest := by
  cases below with
  | last none => exact .last (same.trans none)
  | next source below => exact .next (same.trans source) below

end Below

theorem below_foreign (text : String) (sources : List String) (stable : Bool) :
    ∃ rest, Below (.foreign ⟨text, sources, stable⟩) rest ∧ rest.map display = sources ∧
      rest.filterMap failure? = [] := by
  induction sources generalizing text with
  | nil => exact ⟨[], .last rfl, rfl, rfl⟩
  | cons next sources ih =>
      obtain ⟨rest, below, texts, none⟩ := ih next
      refine ⟨_, .next rfl below, ?_, ?_⟩
      · rw [List.map_cons, texts]
        rfl
      · rw [List.filterMap_cons_none (by rfl), none]

end Link

namespace Failure

/-! ## Nesting -/

/-- A failure caused by others, each caused by the next one, and the last by an error of another
component or by none. -/
def nest (f : Failure) : List Failure → Option Foreign → Failure
  | [], bottom => { f with cause := bottom.map .foreign }
  | g :: inner, bottom => f.withCause (.failure (nest g inner bottom))

/-- The nested failures, each with what it is caused by. -/
def layers (f : Failure) : List Failure → Option Foreign → List Failure
  | [], bottom => [nest f [] bottom]
  | g :: inner, bottom => nest f (g :: inner) bottom :: layers g inner bottom

/-- The texts of the error at the bottom and of those below it. -/
def bottomTexts (bottom : Option Foreign) : List String :=
  bottom.toList.flatMap fun e => e.text :: e.sources

theorem display_nest (f : Failure) (inner : List Failure) (bottom : Option Foreign) :
    (nest f inner bottom).display = f.display := by
  cases inner <;> rfl

theorem sources_cause (f : Failure) : (Cause.failure f).sources = f.sources := by
  obtain ⟨_, _, _, cause, _, _⟩ := f
  cases cause <;> rfl

theorem sources_nest (f : Failure) (inner : List Failure) (bottom : Option Foreign) :
    (nest f inner bottom).sources = inner.map display ++ bottomTexts bottom := by
  induction inner generalizing f with
  | nil =>
      cases bottom with
      | none => rfl
      | some e => simp [nest, sources, Cause.display, Cause.sources, bottomTexts]
  | cons g inner ih =>
      have below : (nest f (g :: inner) bottom).sources =
          (nest g inner bottom).display :: (Cause.failure (nest g inner bottom)).sources := rfl
      rw [below, display_nest, sources_cause, ih, List.map_cons, List.cons_append]

/-- Whoever follows the sources of a nested failure meets the failures in it and then the errors at
the bottom. -/
theorem below_nest (f : Failure) (inner : List Failure) (bottom : Option Foreign) :
    ∃ rest, Link.Below (.failure (nest f inner bottom)) rest ∧
      rest.map Link.display = inner.map display ++ bottomTexts bottom ∧
      nest f inner bottom :: rest.filterMap Link.failure? = layers f inner bottom := by
  induction inner generalizing f with
  | nil =>
      cases bottom with
      | none => exact ⟨[], .last rfl, rfl, rfl⟩
      | some e =>
          obtain ⟨rest, below, texts, none⟩ := Link.below_foreign e.text e.sources e.stable
          have standing : Link.Below (.cause (.foreign e)) rest := below.of_source_eq rfl
          refine ⟨_, .next rfl standing, ?_, ?_⟩
          · simp [texts, Link.display, Cause.display, bottomTexts]
          · rw [List.filterMap_cons_none (by rfl), none]
            rfl
  | cons g inner ih =>
      obtain ⟨rest, below, texts, nested⟩ := ih g
      have standing : Link.Below (.cause (.failure (nest g inner bottom))) rest :=
        below.of_source_eq rfl
      refine ⟨_, .next rfl standing, ?_, ?_⟩
      · rw [List.map_cons, texts, List.map_cons, List.cons_append]
        exact congrArg (· :: _) (display_nest g inner bottom)
      · rw [List.filterMap_cons_some (by rfl), nested]
        rfl

theorem eq_of_cause {f : Failure} {cause : Option Cause} (caused : f.cause = cause) :
    { f with cause := cause } = f := by
  cases f
  cases caused
  rfl

/-- Every failure is made by nesting. -/
theorem exists_nest (f : Failure) : ∃ inner bottom, nest f inner bottom = f := by
  suffices nested : ∀ c : Cause, ∀ f : Failure, f.cause = some c →
      ∃ inner bottom, nest f inner bottom = f by
    cases caused : f.cause with
    | none => exact ⟨[], none, eq_of_cause caused⟩
    | some c => exact nested c f caused
  intro c
  induction c using Cause.sources.induct with
  | case1 e =>
      intro f caused
      exact ⟨[], some e, eq_of_cause caused⟩
  | case2 code message metadata domain stack =>
      intro f caused
      exact ⟨[⟨code, message, metadata, none, domain, stack⟩], none, eq_of_cause caused⟩
  | case3 code message metadata c domain stack ih =>
      intro f caused
      let held : Failure := ⟨code, message, metadata, some c, domain, stack⟩
      obtain ⟨inner, bottom, same⟩ := ih held rfl
      refine ⟨held :: inner, bottom, ?_⟩
      rw [nest, same]
      exact eq_of_cause caused

/-! ## The whole -/

/-- However often an error is wrapped, a failure stays what it is and another error becomes the cause
of the first wrapping's failure. Following the sources of failures that are nested to any depth ends,
and meets each of them once, the outermost first, and then the errors at the bottom; every failure is
so nested, and reports list the same texts. A fault in settings that has a failure beneath it becomes
that failure. -/
theorem causes_complete :
    (∀ (α : Type) (f : Failure) (wraps : List Wrapping),
      Wrapping.applyAll wraps (.error (.failure f) : Except Cause α) = .error (.failure f)) ∧
    (∀ (α : Type) (e : Foreign) (first : Wrapping) (wraps : List Wrapping),
      Wrapping.applyAll (first :: wraps) (.error (.foreign e) : Except Cause α) =
          first.apply (.error (.foreign e)) ∧
        first.apply (.error (.foreign e) : Except Cause α) =
          .error (.failure { new first.code first.message with cause := some (.foreign e) })) ∧
    (∀ (f : Failure) (inner : List Failure) (bottom : Option Foreign),
      ∃ rest, (∀ links, Link.Below (.failure (nest f inner bottom)) links ↔ links = rest) ∧
        (Link.failure (nest f inner bottom) :: rest).filterMap Link.failure? =
          layers f inner bottom ∧
        (Link.failure (nest f inner bottom) :: rest).map Link.display =
          (f :: inner).map display ++ bottomTexts bottom ∧
        (nest f inner bottom).chain = (f :: inner).map display ++ bottomTexts bottom) ∧
    (∀ f : Failure, ∃ inner bottom, nest f inner bottom = f) ∧
    ∀ (component : String) (f : Failure), (SettingsFault.refused component f).toFailure = f := by
  refine ⟨fun α f wraps => Wrapping.applyAll_failure wraps f, fun α e first wraps => ?_,
    fun f inner bottom => ?_, exists_nest, fun component f => rfl⟩
  · have once := @Wrapping.applyAll_foreign α first [] e
    exact ⟨(Wrapping.applyAll_foreign first wraps e).trans once.symm, once⟩
  · obtain ⟨rest, below, texts, nested⟩ := below_nest f inner bottom
    refine ⟨rest, fun links => ⟨fun other => other.unique below, fun same => same ▸ below⟩, nested,
      ?_, ?_⟩
    · rw [List.map_cons, texts]
      exact congrArg (· :: _) (display_nest f inner bottom)
    · rw [chain, sources_nest, display_nest]
      rfl

end Failure

end HttpService

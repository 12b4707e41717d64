import HttpService.Proofs.Text.Blank
import HttpService.Route.Pattern

/-!
# How a pattern reads

An accepted pattern is literal text without braces, then placeholders with distinct names, each with
the literal text after it. Written out again it is the text that was read, and every text that is
written so is accepted.
-/

namespace HttpService

/-- The part as it stands in a pattern's text. -/
def Part.written : Part → List Char
  | .literal text => text
  | .placeholder name => '\x7b' :: name ++ ['\x7d']

namespace Pattern

/-- Literal text, then placeholders each with the literal text after it. -/
def alternate (first : List Char) (rest : List (List Char × List Char)) : List Part :=
  .literal first :: rest.flatMap fun (name, text) => [.placeholder name, .literal text]

theorem alternate_cons (first name text : List Char) (rest : List (List Char × List Char)) :
    alternate first ((name, text) :: rest) =
      .literal first :: .placeholder name :: alternate text rest := rfl

def written (parts : List Part) : List Char :=
  parts.flatMap Part.written

theorem written_alternate_cons (first name text : List Char) (rest : List (List Char × List Char)) :
    written (alternate first ((name, text) :: rest)) =
      first ++ '\x7b' :: name ++ '\x7d' :: written (alternate text rest) := by
  simp [written, alternate_cons, Part.written]

/-- The literal text and the placeholders that an accepted pattern consists of. -/
structure Reads (names : List (List Char)) (cs first : List Char)
    (rest : List (List Char × List Char)) : Prop where
  written_eq : written (alternate first rest) = cs
  literal : ∀ text ∈ first :: rest.map Prod.snd, ∀ c ∈ text, isBrace c = false
  identifier : ∀ name ∈ rest.map Prod.fst, isName name = true
  distinct : (names ++ rest.map Prod.fst).Nodup

theorem mem_takeWhile_literal {cs : List Char} {c : Char}
    (member : c ∈ cs.takeWhile fun c => !isBrace c) : isBrace c = false := by
  simpa using List.mem_takeWhile_imp member

theorem drop_takeWhile (p : Char → Bool) (cs : List Char) :
    cs.drop (cs.takeWhile p).length = cs.dropWhile p := by
  calc
    cs.drop (cs.takeWhile p).length =
        (cs.takeWhile p ++ cs.dropWhile p).drop (cs.takeWhile p).length := by
      rw [List.takeWhile_append_dropWhile]
    _ = cs.dropWhile p := List.drop_left

/-- Where reading stops, the text goes on with what is not read. -/
theorem split_at_stop {p : Char → Bool} {cs rest : List Char} {c : Char}
    (stopped : cs.drop (cs.takeWhile p).length = c :: rest) :
    cs = cs.takeWhile p ++ c :: rest ∧ p c = false := by
  rw [drop_takeWhile] at stopped
  constructor
  · rw [← stopped, List.takeWhile_append_dropWhile]
  · have stop := List.head?_dropWhile_not p cs
    rw [stopped] at stop
    exact stop

theorem split_at_end {p : Char → Bool} {cs : List Char}
    (ended : cs.drop (cs.takeWhile p).length = []) : cs = cs.takeWhile p := by
  rw [drop_takeWhile] at ended
  have whole := List.takeWhile_append_dropWhile (p := p) (l := cs)
  rw [ended, List.append_nil] at whole
  exact whole.symm

/-- The text around a placeholder. -/
theorem split_at_placeholder {cs after rest : List Char} {closing : Char}
    (opened : cs.drop (cs.takeWhile fun c => !isBrace c).length = '\x7b' :: after)
    (closed : after.drop (after.takeWhile (· != '\x7d')).length = closing :: rest) :
    cs = cs.takeWhile (fun c => !isBrace c) ++
      '\x7b' :: (after.takeWhile (· != '\x7d') ++ '\x7d' :: rest) := by
  obtain ⟨opening, -⟩ := split_at_stop opened
  obtain ⟨inner, stop⟩ := split_at_stop closed
  obtain rfl : closing = '\x7d' := by simpa using stop
  rw [← inner, ← opening]

theorem Reads.text {names : List (List Char)} {cs : List Char} (fresh : names.Nodup)
    (literal : ∀ c ∈ cs, isBrace c = false) : Reads names cs cs [] where
  written_eq := by simp [written, alternate, Part.written]
  literal text member := by
    rw [List.mem_singleton.mp member]
    exact literal
  identifier _ member := by cases member
  distinct := by simpa using fresh

theorem Reads.cons {names : List (List Char)} {cs text name first rest : List Char}
    {others : List (List Char × List Char)} (reads : Reads (names ++ [name]) rest first others)
    (whole : text ++ '\x7b' :: name ++ '\x7d' :: rest = cs)
    (literal : ∀ c ∈ text, isBrace c = false) (identifier : isName name = true) :
    Reads names cs text ((name, first) :: others) where
  written_eq := by rw [written_alternate_cons, reads.written_eq, whole]
  literal other member := by
    obtain same | later := List.mem_cons.mp member
    · exact same ▸ literal
    · exact reads.literal other later
  identifier other member := by
    obtain same | later := List.mem_cons.mp member
    · exact same ▸ identifier
    · exact reads.identifier other later
  distinct := by
    have distinct := reads.distinct
    rwa [List.append_assoc] at distinct

theorem parse_reads {names : List (List Char)} {cs : List Char} {parts : List Part}
    (fresh : names.Nodup) (parsed : parse names cs = .ok parts) :
    ∃ first rest, parts = alternate first rest ∧ Reads names cs first rest := by
  fun_induction parse names cs generalizing parts
  case case1 names cs text ended =>
      cases parsed
      refine ⟨text, [], rfl, ?_⟩
      have literal : ∀ c ∈ text, isBrace c = false := fun c => mem_takeWhile_literal
      rw [split_at_end ended]
      exact .text fresh literal
  case case5 names cs text after opened name closing rest closed good unused ih =>
      cases more : parse (names ++ [name]) rest with
      | error flaw =>
          rw [more] at parsed
          cases parsed
      | ok others =>
          rw [more] at parsed
          cases parsed
          have stillFresh : (names ++ [name]).Nodup := by
            refine List.nodup_append.mpr ⟨fresh, List.pairwise_singleton _ _, ?_⟩
            intro a member b same clash
            rw [clash, List.mem_singleton.mp same] at member
            simp [member] at unused
          obtain ⟨first, others, shape, reads⟩ := ih stillFresh more
          have whole : text ++ '\x7b' :: name ++ '\x7d' :: rest = cs := by
            rw [List.append_assoc]
            exact (split_at_placeholder opened closed).symm
          refine ⟨text, (name, first) :: others, by rw [shape, alternate_cons], ?_⟩
          exact reads.cons whole (fun c => mem_takeWhile_literal) (by simpa using good)
  all_goals cases parsed

/-- An accepted pattern has the text given, and its parts read it. -/
theorem compile_reads {text : String} {p : Pattern} (compiled : compile text = .ok p) :
    p.text = text ∧
      ∃ first rest, p.parts = alternate first rest ∧ Reads [] text.toList first rest := by
  unfold compile at compiled
  split at compiled
  · split at compiled
    · next parts parsed =>
        cases compiled
        exact ⟨rfl, parse_reads List.nodup_nil parsed⟩
    · cases compiled
  · cases compiled

/-! ## Reading what is written -/

theorem not_closing_of_isName {name : List Char} (identifier : isName name = true) :
    ∀ c ∈ name, (c != '\x7d') = true := by
  intro c member
  simp only [bne_iff_ne, ne_eq]
  rintro rfl
  cases name with
  | nil => cases member
  | cons start rest =>
      simp only [isName, Bool.and_eq_true, List.all_eq_true] at identifier
      obtain same | later := List.mem_cons.mp member
      · have wrong := identifier.1
        rw [← same] at wrong
        exact absurd wrong (by decide)
      · exact absurd (identifier.2 _ later) (by decide)

theorem parse_text {names : List (List Char)} {cs : List Char}
    (literal : ∀ c ∈ cs, isBrace c = false) : parse names cs = .ok [.literal cs] := by
  have whole : cs.takeWhile (fun c => !isBrace c) = cs :=
    List.takeWhile_eq_self_iff.mpr (by simpa using literal)
  have ended : cs.drop (cs.takeWhile fun c => !isBrace c).length = [] := by
    rw [whole, List.drop_length]
  unfold parse
  dsimp only
  split
  · rw [whole]
  · next opened => cases ended.symm.trans opened
  · next stopped => cases ended.symm.trans stopped

theorem parse_placeholder {names : List (List Char)} {text name rest : List Char}
    (literal : ∀ c ∈ text, isBrace c = false) (identifier : isName name = true)
    (unused : name ∉ names) :
    parse names (text ++ '\x7b' :: (name ++ '\x7d' :: rest)) =
      (do
        let more ← parse (names ++ [name]) rest
        .ok (.literal text :: .placeholder name :: more)) := by
  have before : (text ++ '\x7b' :: (name ++ '\x7d' :: rest)).takeWhile (fun c => !isBrace c) =
      text := Text.takeWhile_append_of_stop (by simpa using literal) fun _ first => by
        cases first
        decide
  have inside : (name ++ '\x7d' :: rest).takeWhile (· != '\x7d') = name :=
    Text.takeWhile_append_of_stop (not_closing_of_isName identifier) fun _ first => by
      cases first
      decide
  rw [parse]
  split
  · next ended =>
      rw [before, List.drop_left] at ended
      cases ended
  · next after opened =>
      rw [before, List.drop_left] at opened
      cases opened
      dsimp only
      split
      · next ended =>
          rw [inside, List.drop_left] at ended
          cases ended
      · next closed =>
          rw [inside, List.drop_left] at closed
          cases closed
          simp [before, inside, identifier, unused]
  · next other stopped =>
      rw [before, List.drop_left] at stopped
      cases stopped
      exact absurd rfl other

/-- Whatever reads as a pattern is read as one. -/
theorem parse_of_reads {names : List (List Char)} {cs first : List Char}
    {rest : List (List Char × List Char)} (reads : Reads names cs first rest) :
    parse names cs = .ok (alternate first rest) := by
  induction rest generalizing names cs first with
  | nil =>
      have whole : first = cs := by simpa [alternate, Part.written, written] using reads.written_eq
      rw [parse_text (whole ▸ reads.literal first List.mem_cons_self), whole]
      rfl
  | cons entry rest ih =>
      obtain ⟨name, text⟩ := entry
      have whole : first ++ '\x7b' :: (name ++ '\x7d' :: written (alternate text rest)) = cs := by
        rw [← reads.written_eq, written_alternate_cons]
        simp
      have distinct : (names ++ name :: rest.map Prod.fst).Nodup := reads.distinct
      have inner : Reads (names ++ [name]) (written (alternate text rest)) text rest :=
        ⟨rfl, fun t member => reads.literal t (List.mem_cons_of_mem _ member),
          fun n member => reads.identifier n (List.mem_cons_of_mem _ member),
          by simpa using distinct⟩
      have unused : name ∉ names := fun member =>
        (List.nodup_append.mp distinct).2.2 name member name List.mem_cons_self rfl
      rw [← whole, parse_placeholder (reads.literal first List.mem_cons_self)
        (reads.identifier name List.mem_cons_self) unused, ih inner]
      rfl

/-- A text is a pattern if it starts with a slash and reads as literals and placeholders. -/
def WellFormed (text : String) : Prop :=
  text.toList.head? = some '/' ∧ ∃ first rest, Reads [] text.toList first rest

theorem head?_of_compile {text : String} {p : Pattern} (compiled : compile text = .ok p) :
    text.toList.head? = some '/' := by
  unfold compile at compiled
  split at compiled
  · next slash => rw [slash, List.head?_cons]
  · cases compiled

theorem compile_of_reads {text : String} {first : List Char} {rest : List (List Char × List Char)}
    (slash : text.toList.head? = some '/') (reads : Reads [] text.toList first rest) :
    compile text = .ok ⟨text, alternate first rest⟩ := by
  obtain ⟨others, shape⟩ := List.head?_eq_some_iff.mp slash
  unfold compile
  rw [parse_of_reads reads]
  split
  · rfl
  · next relative => exact absurd shape (relative others)

/-- Exactly the texts that are patterns are accepted. -/
theorem compile_isOk_iff {text : String} : (∃ p, compile text = .ok p) ↔ WellFormed text := by
  constructor
  · rintro ⟨p, compiled⟩
    obtain ⟨-, first, rest, -, reads⟩ := compile_reads compiled
    exact ⟨head?_of_compile compiled, first, rest, reads⟩
  · rintro ⟨slash, first, rest, reads⟩
    exact ⟨_, compile_of_reads slash reads⟩

end Pattern

end HttpService

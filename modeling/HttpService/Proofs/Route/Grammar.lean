import HttpService.Proofs.Route.History
import HttpService.Proofs.Route.Registration
import HttpService.Proofs.Text.Offset

/-!
# The grammar of patterns

A text is a pattern exactly if it starts with a slash and consists of plain characters and of
identifiers in braces, no identifier twice. The names of a pattern are its identifiers from left to
right. A reader that works with offsets in bytes comes to the same, and never cuts into a character.
-/

namespace HttpService.Pattern

/-! ## Texts with names -/

def IsLetter (c : Char) : Prop :=
  ('A' ≤ c ∧ c ≤ 'Z') ∨ ('a' ≤ c ∧ c ≤ 'z') ∨ c = '_'

def IsDigit (c : Char) : Prop :=
  '0' ≤ c ∧ c ≤ '9'

/-- A letter, and then letters and digits; an underscore counts as a letter. -/
inductive Identifier : List Char → Prop
  | intro {start : Char} {others : List Char} (letter : IsLetter start)
      (rest : ∀ c ∈ others, IsLetter c ∨ IsDigit c) : Identifier (start :: others)

/-- The text consists of characters that are no braces, and of these identifiers in braces. -/
inductive Grammar : List Char → List (List Char) → Prop
  | done : Grammar [] []
  | plain {c : Char} {cs : List Char} {names : List (List Char)} (noBrace : c ≠ '\x7b' ∧ c ≠ '\x7d')
      (rest : Grammar cs names) : Grammar (c :: cs) names
  | placeholder {name cs : List Char} {names : List (List Char)} (identifier : Identifier name)
      (rest : Grammar cs names) : Grammar ('\x7b' :: (name ++ '\x7d' :: cs)) (name :: names)

/-- The text is a pattern with these names. -/
structure Grammatical (text : String) (names : List String) : Prop where
  slash : text.toList.head? = some '/'
  spelled : Grammar text.toList (names.map String.toList)
  distinct : names.Nodup

theorem isBrace_eq_false_iff {c : Char} : isBrace c = false ↔ c ≠ '\x7b' ∧ c ≠ '\x7d' := by
  simp [isBrace]

theorem isNameStart_iff {c : Char} : isNameStart c = true ↔ IsLetter c := by
  have upper : c.isUpper = decide ('A' ≤ c ∧ c ≤ 'Z') := by rfl
  have lower : c.isLower = (decide ('a' ≤ c) && decide (c ≤ 'z')) := by rfl
  have alpha : c.isAlpha = (c.isUpper || c.isLower) := by rfl
  rw [isNameStart, alpha, upper, lower, IsLetter]
  simp only [Bool.or_eq_true, Bool.and_eq_true, decide_eq_true_eq, beq_iff_eq, or_assoc]

theorem isNameChar_iff {c : Char} : isNameChar c = true ↔ IsLetter c ∨ IsDigit c := by
  rw [← isNameStart_iff]
  simp only [isNameChar, isNameStart, Char.isAlphanum, Char.isDigit, Bool.or_eq_true,
    Bool.and_eq_true, decide_eq_true_eq, or_right_comm]
  exact Iff.rfl

theorem isName_iff {name : List Char} : isName name = true ↔ Identifier name := by
  cases name with
  | nil => exact ⟨nofun, nofun⟩
  | cons start others =>
      simp only [isName, Bool.and_eq_true, List.all_eq_true, isNameStart_iff, isNameChar_iff]
      constructor
      · rintro ⟨letter, rest⟩
        exact .intro letter rest
      · rintro ⟨letter, rest⟩
        exact ⟨letter, rest⟩

variable {text cs first : List Char} {names before : List (List Char)}
  {rest : List (List Char × List Char)}

theorem Grammar.append (plain : ∀ c ∈ text, isBrace c = false) (grammar : Grammar cs names) :
    Grammar (text ++ cs) names := by
  induction text with
  | nil => exact grammar
  | cons c text ih =>
      obtain ⟨here, later⟩ := List.forall_mem_cons.mp plain
      exact .plain (isBrace_eq_false_iff.mp here) (ih later)

theorem Reads.grammar (reads : Reads before cs first rest) :
    Grammar cs (rest.map Prod.fst) := by
  obtain ⟨rfl, literal, identifier, -⟩ := reads
  induction rest generalizing first with
  | nil =>
      obtain ⟨plain, -⟩ := List.forall_mem_cons.mp literal
      have whole : written (alternate first []) = first ++ [] := by
        simp [written, alternate, Part.written]
      rw [whole]
      exact .append plain .done
  | cons entry rest ih =>
      obtain ⟨name, text⟩ := entry
      obtain ⟨plain, others⟩ := List.forall_mem_cons.mp literal
      obtain ⟨named, more⟩ := List.forall_mem_cons.mp identifier
      have whole : written (alternate first ((name, text) :: rest)) =
          first ++ '\x7b' :: (name ++ '\x7d' :: written (alternate text rest)) := by
        rw [written_alternate_cons]
        simp
      rw [whole]
      exact .append plain (.placeholder (isName_iff.mp named) (ih others more))

/-- A plain character in front. -/
theorem Reads.plain {c : Char} (noBrace : isBrace c = false) (reads : Reads before cs first rest) :
    Reads before (c :: cs) (c :: first) rest where
  written_eq := by
    rw [← reads.written_eq]
    rfl
  literal text member := by
    obtain same | later := List.mem_cons.mp member
    · rw [same]
      exact List.forall_mem_cons.mpr ⟨noBrace, reads.literal first List.mem_cons_self⟩
    · exact reads.literal text (List.mem_cons_of_mem _ later)
  identifier := reads.identifier
  distinct := reads.distinct

theorem Grammar.reads (grammar : Grammar cs names) (distinct : (before ++ names).Nodup) :
    ∃ first rest, Reads before cs first rest ∧ rest.map Prod.fst = names := by
  induction grammar generalizing before with
  | done => exact ⟨[], [], .text (by simpa using distinct) (by simp), rfl⟩
  | plain noBrace _ ih =>
      obtain ⟨first, rest, reads, same⟩ := ih distinct
      exact ⟨_, rest, reads.plain (isBrace_eq_false_iff.mpr noBrace), same⟩
  | @placeholder name cs names identifier _ ih =>
      have later : (before ++ [name] ++ names).Nodup := by simpa using distinct
      obtain ⟨first, rest, reads, same⟩ := ih later
      refine ⟨[], (name, first) :: rest, ?_, by rw [List.map_cons, same]⟩
      exact reads.cons (by simp) (by simp) (isName_iff.mpr identifier)

/-! ## Reading by offsets -/

/-- Reads like the parser, but looks for braces in what is left of the text and cuts it there. There
is no answer if a cut falls into a character. -/
def scan (names : List (List Char)) (left : List Char) :
    Option (Except PatternFlaw (List Part)) :=
  match Text.offset? isBrace left with
  | none => some (.ok [.literal left])
  | some opening =>
      match Text.cutAt? opening left, _h : Text.cutAt? (opening + 1) left with
      | some (text, brace), some (_, after) =>
          if brace.head? = some '\x7d' then some (.error .unbalanced)
          else
            match Text.offset? (· == '\x7d') after with
            | none => some (.error .unclosed)
            | some closing =>
                match Text.cutAt? closing after, _h' : Text.cutAt? (closing + 1) after with
                | some (name, _), some (_, next) =>
                    if !isName name then some (.error .badName)
                    else if names.contains name then some (.error .repeatedName)
                    else
                      (scan (names ++ [name]) next).map fun answer => do
                        let more ← answer
                        .ok (.literal text :: .placeholder name :: more)
                | _, _ => none
      | _, _ => none
termination_by left.length
decreasing_by
  exact (Text.length_lt_of_cutAt? (Nat.succ_ne_zero _) _h').trans
    (Text.length_lt_of_cutAt? (Nat.succ_ne_zero _) _h)

section

variable {left after next name : List Char}

theorem scan_plain (names : List (List Char)) (plain : ∀ c ∈ left, isBrace c = false) :
    scan names left = some (.ok [.literal left]) := by
  rw [scan, Text.offset?_eq_none plain]

theorem scan_closing (names : List (List Char)) (plain : ∀ c ∈ text, isBrace c = false) :
    scan names (text ++ '\x7d' :: after) = some (.error .unbalanced) := by
  have found : Text.offset? isBrace (text ++ '\x7d' :: after) = some (Text.byteLength text) :=
    Text.offset?_append plain rfl
  rw [scan, found]
  dsimp only
  rw [Text.cutAt?_append, Text.cutAt?_succ (by decide)]
  rfl

theorem scan_unclosed (names : List (List Char)) (plain : ∀ c ∈ text, isBrace c = false)
    (inside : ∀ c ∈ after, (c == '\x7d') = false) :
    scan names (text ++ '\x7b' :: after) = some (.error .unclosed) := by
  have found : Text.offset? isBrace (text ++ '\x7b' :: after) = some (Text.byteLength text) :=
    Text.offset?_append plain rfl
  rw [scan, found]
  dsimp only
  rw [Text.cutAt?_append, Text.cutAt?_succ (by decide)]
  dsimp only
  rw [Text.offset?_eq_none inside]
  rfl

theorem scan_placeholder (names : List (List Char)) (plain : ∀ c ∈ text, isBrace c = false)
    (inside : ∀ c ∈ name, (c == '\x7d') = false) :
    scan names (text ++ '\x7b' :: (name ++ '\x7d' :: next)) =
      if !isName name then some (.error .badName)
      else if names.contains name then some (.error .repeatedName)
      else
        (scan (names ++ [name]) next).map fun answer =>
          answer.bind fun more => .ok (.literal text :: .placeholder name :: more) := by
  have found : Text.offset? isBrace (text ++ '\x7b' :: (name ++ '\x7d' :: next)) =
      some (Text.byteLength text) := Text.offset?_append plain rfl
  have closed : Text.offset? (· == '\x7d') (name ++ '\x7d' :: next) =
      some (Text.byteLength name) := Text.offset?_append inside rfl
  rw [scan, found]
  dsimp only
  rw [Text.cutAt?_append, Text.cutAt?_succ (by decide)]
  dsimp only
  rw [closed]
  dsimp only
  rw [Text.cutAt?_append, Text.cutAt?_succ (by decide)]
  rfl

end

/-- Every cut falls between two characters, and what is read is what the parser reads. -/
theorem scan_eq_parse (names : List (List Char)) (left : List Char) :
    scan names left = some (parse names left) := by
  have literal (cs : List Char) : ∀ c ∈ cs.takeWhile fun c => !isBrace c, isBrace c = false :=
    fun _ => mem_takeWhile_literal
  have inside (cs : List Char) : ∀ c ∈ cs.takeWhile (· != '\x7d'), (c == '\x7d') = false :=
    fun _ member => by simpa using List.mem_takeWhile_imp member
  fun_induction parse names left
  case case1 names left text ended =>
      have whole : left = text := split_at_end ended
      rw [whole, scan_plain names (literal left)]
  case case2 names left text after opened name ended =>
      obtain ⟨opening, -⟩ := split_at_stop opened
      have whole : after = name := split_at_end ended
      rw [opening, scan_unclosed names (literal left) (whole ▸ inside after)]
  case case3 names left text after opened name closing rest closed bad =>
      rw [split_at_placeholder opened closed, scan_placeholder names (literal left) (inside after),
        if_pos bad]
  case case4 names left text after opened name closing rest closed good used =>
      rw [split_at_placeholder opened closed, scan_placeholder names (literal left) (inside after),
        if_neg good, if_pos used]
  case case5 names left text after opened name closing rest closed good unused ih =>
      rw [split_at_placeholder opened closed, scan_placeholder names (literal left) (inside after),
        if_neg good, if_neg unused, ih]
      rfl
  case case6 names left text brace rest other stopped =>
      obtain ⟨whole, stop⟩ := split_at_stop stopped
      obtain rfl : brace = '\x7d' := by
        simp only [isBrace, Bool.not_eq_false', Bool.or_eq_true, beq_iff_eq] at stop
        exact stop.resolve_left other
      rw [whole, scan_closing names (literal left)]

example : scan [] "/é\x7ba\x7dü€".toList =
    some (.ok [.literal ['/', 'é'], .placeholder ['a'], .literal ['ü', '€']]) := by cbv

/-! ## Accepted texts -/

theorem Grammatical.of_compile {text : String} {p : Pattern} (compiled : compile text = .ok p) :
    Grammatical text p.names := by
  obtain ⟨-, first, rest, shape, reads⟩ := compile_reads compiled
  refine ⟨head?_of_compile compiled, ?_, names_nodup compiled⟩
  have names : p.names.map String.toList = rest.map Prod.fst := by
    have same : p = ⟨p.text, alternate first rest⟩ := by rw [← shape]
    rw [same, names_alternate]
    simp
  rw [names]
  exact reads.grammar

theorem Grammatical.compiles {text : String} {names : List String}
    (grammatical : Grammatical text names) : ∃ p, compile text = .ok p ∧ p.names = names := by
  have distinct : ([] ++ names.map String.toList).Nodup :=
    grammatical.distinct.map fun _ _ same => String.toList_injective same
  obtain ⟨first, rest, reads, same⟩ := grammatical.spelled.reads distinct
  refine ⟨_, compile_of_reads grammatical.slash reads, ?_⟩
  calc
    Pattern.names ⟨text, alternate first rest⟩ = (rest.map Prod.fst).map String.ofList := by
      rw [names_alternate, List.map_map]
      rfl
    _ = names := by
      rw [same]
      simp

/-- A text is accepted exactly if it is a pattern, and its names are then those in its text from left
to right; every other text is an invalid argument. Reading by offsets has an answer for every text,
and it is the parser's. -/
theorem grammar_exact (text : String) :
    (∀ names, (∃ p, compile text = .ok p ∧ p.names = names) ↔ Grammatical text names) ∧
      ((¬ ∃ names, Grammatical text names) ↔
        ∃ f, compile text = .error f ∧ f.code = .invalidArgument) ∧
      scan [] text.toList = some (parse [] text.toList) := by
  refine ⟨fun names => ⟨?_, Grammatical.compiles⟩, ?_, scan_eq_parse [] text.toList⟩
  · rintro ⟨p, compiled, rfl⟩
    exact .of_compile compiled
  · constructor
    · intro ungrammatical
      obtain ⟨p, compiled⟩ | ⟨flaw, refused⟩ := compile_cases text
      · exact absurd ⟨_, .of_compile compiled⟩ ungrammatical
      · exact ⟨_, refused, rfl⟩
    · rintro ⟨f, refused, -⟩ ⟨names, grammatical⟩
      obtain ⟨p, compiled, -⟩ := grammatical.compiles
      cases refused.symm.trans compiled

end HttpService.Pattern

import HttpService.Proofs.Text.Blank
import HttpService.Proofs.Text.Split
import HttpService.Settings.Overlay
import Mathlib.Data.List.Induction

/-!
# What the texts of variables stand for

Numbers, truth values, formats, texts that may be cleared and lists of paths, each as a relation
between a text and a value that says nothing of how the text is read; and that the readers read just
that.
-/

namespace HttpService

namespace Text

variable {c : Char} {cs : List Char} {d n : Nat}

/-! ## Numbers -/

/-- A decimal digit and its value. -/
def IsDigit (c : Char) (d : Nat) : Prop :=
  c.toNat = '0'.toNat + d ∧ d ≤ 9

/-- Decimal digits, one at least, and the number that they stand for. -/
inductive Decimal : List Char → Nat → Prop
  | first {c : Char} {d : Nat} (digit : IsDigit c d) : Decimal [c] d
  | next {cs : List Char} {c : Char} {n d : Nat} (leading : Decimal cs n) (digit : IsDigit c d) :
      Decimal (cs ++ [c]) (n * 10 + d)

/-- A number with blanks on its two sides, and a plus sign before its digits or not. -/
inductive Numeral : List Char → Nat → Prop
  | plain {left digits right : List Char} {n : Nat} (before : ∀ c ∈ left, isBlank c = true)
      (after : ∀ c ∈ right, isBlank c = true) (decimal : Decimal digits n) :
      Numeral (left ++ digits ++ right) n
  | signed {left digits right : List Char} {n : Nat} (before : ∀ c ∈ left, isBlank c = true)
      (after : ∀ c ∈ right, isBlank c = true) (decimal : Decimal digits n) :
      Numeral (left ++ '+' :: digits ++ right) n

theorem digit?_eq_some_iff : digit? c = some d ↔ IsDigit c d := by
  have zero : '0'.toNat = 48 := rfl
  have nine : '9'.toNat = 57 := rfl
  simp only [digit?, IsDigit, Bool.and_eq_true, decide_eq_true_eq, Option.ite_none_right_eq_some,
    Option.some.injEq, Char.le_def, UInt32.le_iff_toNat_le]
  change ('0'.toNat ≤ c.toNat ∧ c.toNat ≤ '9'.toNat) ∧ c.toNat - 48 = d ↔ _
  omega

theorem digits?_concat (full : cs ≠ []) (c : Char) :
    digits? (cs ++ [c]) = (digits? cs).bind fun n => (digit? c).map fun d => n * 10 + d := by
  unfold digits?
  rw [if_neg (by simp), if_neg (by simpa using full), List.foldlM_append]
  refine congrArg (Option.bind _) (funext fun n => ?_)
  cases read : digit? c <;> simp [read]

theorem digits?_singleton (c : Char) : digits? [c] = digit? c := by
  cases read : digit? c <;> simp [digits?, read]

theorem Decimal.ne_nil (decimal : Decimal cs n) : cs ≠ [] := by
  cases decimal with
  | first digit => exact List.cons_ne_nil _ _
  | next leading digit => exact List.concat_ne_nil _ _

theorem digits?_eq_some_iff : digits? cs = some n ↔ Decimal cs n := by
  constructor
  · intro read
    induction cs using List.reverseRecOn generalizing n with
    | nil => cases read
    | append_singleton cs c ih =>
        by_cases alone : cs = []
        · subst alone
          rw [List.nil_append, digits?_singleton] at read
          exact .first (digit?_eq_some_iff.mp read)
        · rw [digits?_concat alone] at read
          obtain ⟨m, leading, digit⟩ := Option.bind_eq_some_iff.mp read
          obtain ⟨d, last, rfl⟩ := Option.map_eq_some_iff.mp digit
          exact .next (ih leading) (digit?_eq_some_iff.mp last)
  · intro decimal
    induction decimal with
    | first digit => rw [digits?_singleton, digit?_eq_some_iff.mpr digit]
    | next leading digit ih =>
        rw [digits?_concat leading.ne_nil, ih, digit?_eq_some_iff.mpr digit]
        rfl

/-- Digits are neither blank nor a sign. -/
theorem Decimal.marks (decimal : Decimal cs n) : ∀ c ∈ cs, isBlank c = false ∧ c ≠ '+' := by
  have mark {c : Char} {d : Nat} (digit : IsDigit c d) : isBlank c = false ∧ c ≠ '+' := by
    obtain ⟨value, small⟩ := digit
    have zero : '0'.toNat = 48 := rfl
    constructor
    · simp only [isBlank, Bool.or_eq_false_iff, Bool.and_eq_false_iff, decide_eq_false_iff_not,
        beq_eq_false_iff_ne]
      omega
    · rintro rfl
      have plus : '+'.toNat = 43 := rfl
      omega
  induction decimal with
  | first digit =>
      intro c member
      rw [List.mem_singleton.mp member]
      exact mark digit
  | next leading digit ih =>
      intro c member
      rcases List.mem_append.mp member with earlier | last
      · exact ih c earlier
      · rw [List.mem_singleton.mp last]
        exact mark digit

theorem natural?_eq_some_iff :
    natural? cs = some n ↔ Decimal cs n ∨ ∃ digits, cs = '+' :: digits ∧ Decimal digits n := by
  constructor
  · intro read
    unfold natural? at read
    split at read
    · exact .inr ⟨_, rfl, digits?_eq_some_iff.mp read⟩
    · exact .inl (digits?_eq_some_iff.mp read)
  · rintro (decimal | ⟨digits, rfl, decimal⟩)
    · unfold natural?
      split
      · exact absurd rfl (decimal.marks _ List.mem_cons_self).2
      · exact digits?_eq_some_iff.mpr decimal
    · exact digits?_eq_some_iff.mpr decimal

/-- Digits stay when the blanks around them are trimmed. -/
theorem Decimal.surrounded {left right : List Char} (decimal : Decimal cs n)
    (before : ∀ c ∈ left, isBlank c = true) (after : ∀ c ∈ right, isBlank c = true) :
    Surrounded isBlank left cs right where
  before := before
  after := after
  start c first := (decimal.marks c (List.mem_of_mem_head? first)).1
  stop c last := (decimal.marks c (List.mem_of_mem_getLast? last)).1

/-- And so does a sign before them. -/
theorem Decimal.surrounded_signed {left right : List Char} (decimal : Decimal cs n)
    (before : ∀ c ∈ left, isBlank c = true) (after : ∀ c ∈ right, isBlank c = true) :
    Surrounded isBlank left ('+' :: cs) right where
  before := before
  after := after
  start := by
    rintro _ ⟨⟩
    decide
  stop c last := by
    rcases List.mem_cons.mp (List.mem_of_mem_getLast? last) with rfl | among
    · decide
    · exact (decimal.marks c among).1

theorem natural?_trimChars_eq_some_iff : natural? (trimChars cs) = some n ↔ Numeral cs n := by
  have trimmed : trimChars cs = trimMatches isBlank cs := rfl
  rw [trimmed, natural?_eq_some_iff]
  constructor
  · obtain ⟨left, right, whole, surrounded⟩ := exists_surrounded isBlank cs
    rintro (decimal | ⟨digits, parted, decimal⟩)
    · rw [whole]
      exact .plain surrounded.before surrounded.after decimal
    · rw [whole, parted]
      exact .signed surrounded.before surrounded.after decimal
  · intro numeral
    cases numeral with
    | plain before after decimal =>
        rw [(decimal.surrounded before after).trimMatches_eq]
        exact .inl decimal
    | signed before after decimal =>
        rw [(decimal.surrounded_signed before after).trimMatches_eq]
        exact .inr ⟨_, rfl, decimal⟩

/-! ## Lists -/

/-- A piece between commas: a name with blanks on its two sides, or nothing but blanks. -/
inductive Piece : List Char → List String → Prop
  | blank {cs : List Char} (blank : ∀ c ∈ cs, isBlank c = true) : Piece cs []
  | name {left name right : List Char} (inside : Surrounded isBlank left name right)
      (full : name ≠ []) : Piece (left ++ name ++ right) [String.ofList name]

/-- Pieces with commas between them, and the names in them. -/
inductive Listing : List Char → List String → Prop
  | last {cs : List Char} {names : List String} (free : ',' ∉ cs) (piece : Piece cs names) :
      Listing cs names
  | more {cs rest : List Char} {names others : List String} (free : ',' ∉ cs)
      (piece : Piece cs names) (listing : Listing rest others) :
      Listing (cs ++ ',' :: rest) (names ++ others)

/-- What the pieces of a text are once they are trimmed, without those of which nothing is left. -/
def trimmedPieces (cs : List Char) : List String :=
  (((splitChars ',' cs).map String.ofList).map trim).filter fun p => !p.isEmpty

theorem trimmedPieces_append (free : ',' ∉ cs) (rest : List Char) :
    trimmedPieces (cs ++ ',' :: rest) = trimmedPieces cs ++ trimmedPieces rest := by
  rw [trimmedPieces, splitChars_append free, trimmedPieces, splitChars_free free, trimmedPieces,
    ← List.filter_append, ← List.map_append, ← List.map_append]
  rfl

theorem Piece.trimmed {names : List String} (piece : Piece cs names) (free : ',' ∉ cs) :
    trimmedPieces cs = names := by
  rw [trimmedPieces, splitChars_free free]
  cases piece with
  | blank blank =>
      have gone : trim (String.ofList cs) = "" :=
        trim_eq_iff.mpr ⟨String.ofList cs, "", by simp, ⟨by simpa using blank, by simp, by simp,
          by simp⟩⟩
      simp [gone]
  | @name left name right inside full =>
      have kept : trim (String.ofList (left ++ name ++ right)) = String.ofList name :=
        trim_eq_iff.mpr ⟨String.ofList left, String.ofList right,
          by simp only [String.ofList_append], by simpa using inside⟩
      simp only [List.map_cons, List.map_nil, kept]
      simp [full]

theorem exists_piece (free : ',' ∉ cs) : Piece cs (trimmedPieces cs) := by
  obtain ⟨left, right, whole, inside⟩ := exists_surrounded isBlank cs
  by_cases full : trimMatches isBlank cs = []
  · have piece : Piece cs [] := by
      refine .blank fun c member => ?_
      rw [whole, full, List.append_nil] at member
      exact (List.mem_append.mp member).elim (inside.before c) (inside.after c)
    rwa [piece.trimmed free]
  · have piece : Piece cs [String.ofList (trimMatches isBlank cs)] := by
      have named := Piece.name inside full
      rwa [← whole] at named
    rwa [piece.trimmed free]

theorem trimmedPieces_eq_iff {names : List String} : trimmedPieces cs = names ↔ Listing cs names := by
  constructor
  · rintro rfl
    induction size : cs.length using Nat.strong_induction_on generalizing cs with
    | _ size ih =>
        by_cases parted : ',' ∈ cs
        · obtain ⟨first, rest, rfl, free⟩ := List.eq_append_cons_of_mem parted
          rw [trimmedPieces_append free]
          exact .more free (exists_piece free) (ih rest.length (by simp at size; omega) rfl)
        · exact .last parted (exists_piece parted)
  · intro listing
    induction listing with
    | last free piece => exact piece.trimmed free
    | more free piece listing ih => rw [trimmedPieces_append free, piece.trimmed free, ih]

end Text

namespace Setting

variable {text : String}

/-! ## The readers -/

/-- The text of a number up to a bound. -/
def Counts (bound : Nat) (text : String) (n : Nat) : Prop :=
  Text.Numeral text.toList n ∧ n ≤ bound

theorem number_eq_ok_iff {bound n : Nat} : number bound text = .ok n ↔ Counts bound text n := by
  rw [Counts, ← Text.natural?_trimChars_eq_some_iff, number]
  cases Text.natural? (Text.trimChars text.toList) with
  | none => simp
  | some m =>
      dsimp only
      split
      · next small =>
          simp only [Except.ok.injEq, Option.some.injEq]
          exact ⟨fun same => ⟨same, same ▸ small⟩, fun same => same.1⟩
      · next large =>
          simp only [reduceCtorEq, Option.some.injEq, false_iff, not_and]
          rintro rfl
          exact large

/-- The names of the truth values. -/
def truthNames : Bool → List String
  | true => ["true", "1", "yes", "on"]
  | false => ["false", "0", "no", "off"]

/-- A text is one of some names, in letters of either case. -/
def IsNamed (names : List String) (text : String) : Prop :=
  ∃ name ∈ names, text.toList.map Char.toLower = name.toList

theorem isNamed_iff {names : List String} :
    IsNamed names text ↔ String.ofList (text.toList.map Char.toLower) ∈ names := by
  constructor
  · rintro ⟨name, listed, same⟩
    rwa [same, String.ofList_toList]
  · intro listed
    exact ⟨_, listed, String.toList_ofList.symm⟩

theorem truth_eq_ok_iff {b : Bool} : truth text = .ok b ↔ IsNamed (truthNames b) text := by
  have apart {word : String} (positive : word ∈ truthNames true) : word ∉ truthNames false := by
    simp only [truthNames, List.mem_cons, List.not_mem_nil, or_false] at positive ⊢
    rcases positive with rfl | rfl | rfl | rfl <;> decide
  rw [isNamed_iff, truth]
  split
  · next positive =>
      have positive := List.contains_iff_mem.mp positive
      cases b with
      | true => exact iff_of_true rfl positive
      | false => exact iff_of_false (fun same => nomatch same) (apart positive)
  · next other =>
      have other := mt List.contains_iff_mem.mpr other
      split
      · next negative =>
          have negative := List.contains_iff_mem.mp negative
          cases b with
          | true => exact iff_of_false (fun same => nomatch same) other
          | false => exact iff_of_true rfl negative
      · next neither =>
          have neither := mt List.contains_iff_mem.mpr neither
          refine iff_of_false (fun same => nomatch same) ?_
          cases b with
          | true => exact other
          | false => exact neither

theorem format_eq_ok_iff {f : LogFormat} : format text = .ok f ↔ IsNamed [f.name] text := by
  have named : LogFormat.parse? text = some f ↔ IsNamed [f.name] text := by
    rw [isNamed_iff, List.mem_singleton, LogFormat.parse?, LogFormat.ofName?]
    constructor
    · intro found
      exact (beq_iff_eq.mp (List.find?_eq_some_iff_append.mp found).1).symm
    · intro same
      rw [same]
      cases f <;> rfl
  rw [← named, format]
  cases LogFormat.parse? text <;> simp

/-- A text, or nothing if it is empty. -/
inductive Cleared : String → Option String → Prop
  | empty : Cleared "" none
  | kept {text : String} (full : text ≠ "") : Cleared text (some text)

theorem optional_eq_iff {value : Option String} : optional text = value ↔ Cleared text value := by
  unfold optional
  constructor
  · rintro rfl
    split
    · next empty =>
        rw [String.isEmpty_iff.mp empty]
        exact .empty
    · next full => exact .kept (mt String.isEmpty_iff.mpr full)
  · intro cleared
    cases cleared with
    | empty => rfl
    | kept full => exact if_neg (mt String.isEmpty_iff.mp full)

theorem paths_eq_iff {names : List String} :
    paths text = names ↔ Text.Listing text.toList names :=
  Text.trimmedPieces_eq_iff

end Setting

end HttpService

import HttpService.Route.Pattern
import Mathlib.Data.List.TakeWhile

/-!
# Matching by search

A text fits the parts of a pattern if it consists of their literal text with non-empty values without
slashes in between. The search that tries long values first finds a fit whenever there is one, and
the one it finds has the longest first value, of those the longest second one, and so on.
-/

namespace HttpService.Pattern

/-- What a placeholder may stand for. -/
def IsValue (value : List Char) : Prop :=
  value ≠ [] ∧ '/' ∉ value

/-- The text consists of the parts, with these values in the places of their names. -/
inductive Fits : List Part → List Char → List (List Char × List Char) → Prop where
  | done : Fits [] [] []
  | literal {parts : List Part} {cs : List Char} {found : List (List Char × List Char)}
      (text : List Char) (rest : Fits parts cs found) :
      Fits (.literal text :: parts) (text ++ cs) found
  | placeholder {parts : List Part} {cs : List Char} {found : List (List Char × List Char)}
      (name : List Char) {value : List Char} (valid : IsValue value)
      (rest : Fits parts cs found) :
      Fits (.placeholder name :: parts) (value ++ cs) ((name, value) :: found)

/-! ## Trying lengths from the longest down -/

theorem findSome?_descending_eq_some {β : Type} (f : Nat → Option β) {n : Nat} {b : β}
    (found : (descending n).findSome? f = some b) :
    ∃ m, 1 ≤ m ∧ m ≤ n ∧ f m = some b ∧ ∀ longer, m < longer → longer ≤ n → f longer = none := by
  induction n with
  | zero => cases found
  | succ n ih =>
      rw [descending, List.findSome?_cons] at found
      cases first : f (n + 1) with
      | some c =>
          rw [first] at found
          refine ⟨n + 1, Nat.le_add_left 1 n, Nat.le_refl _, first.trans found, ?_⟩
          intro longer above below
          omega
      | none =>
          rw [first] at found
          obtain ⟨m, positive, bound, value, none⟩ := ih found
          refine ⟨m, positive, Nat.le_succ_of_le bound, value, ?_⟩
          intro longer above below
          rcases Nat.lt_or_eq_of_le below with smaller | same
          · exact none longer above (Nat.le_of_lt_succ smaller)
          · exact same ▸ first

theorem findSome?_descending_isSome {β : Type} (f : Nat → Option β) {n m : Nat} (positive : 1 ≤ m)
    (bound : m ≤ n) (value : (f m).isSome) : ((descending n).findSome? f).isSome := by
  induction n with
  | zero => omega
  | succ n ih =>
      rw [descending, List.findSome?_cons]
      cases first : f (n + 1) with
      | some c => rfl
      | none =>
          have below : m ≤ n := by
            rcases Nat.lt_or_eq_of_le bound with smaller | same
            · exact Nat.le_of_lt_succ smaller
            · rw [same, first] at value
              cases value
          exact ih below

/-! ## Values at the start of a text -/

/-- The number of characters before the first slash. -/
def segmentLength (cs : List Char) : Nat :=
  (cs.takeWhile (· != '/')).length

theorem length_take_of_le {cs : List Char} {m : Nat} (bound : m ≤ segmentLength cs) :
    (cs.take m).length = m := by
  have within : segmentLength cs ≤ cs.length := (List.takeWhile_prefix (· != '/')).length_le
  rw [List.length_take, Nat.min_eq_left (Nat.le_trans bound within)]

theorem isValue_take {cs : List Char} {m : Nat} (positive : 1 ≤ m) (bound : m ≤ segmentLength cs) :
    IsValue (cs.take m) := by
  have inside : cs.take m = (cs.takeWhile (· != '/')).take m := by
    have whole := List.takeWhile_append_dropWhile (p := (· != '/')) (l := cs)
    rw [← List.take_append_of_le_length bound, whole]
  constructor
  · intro empty
    have size := congrArg List.length empty
    rw [length_take_of_le bound, List.length_nil] at size
    omega
  · intro slash
    rw [inside] at slash
    have free := List.mem_takeWhile_imp (List.mem_of_mem_take slash)
    simp at free

theorem IsValue.length_le {value : List Char} (valid : IsValue value) (cs : List Char) :
    value.length ≤ segmentLength (value ++ cs) := by
  have free : ∀ c ∈ value, (c != '/') = true := by
    intro c member
    simp only [bne_iff_ne, ne_eq]
    exact fun slash => valid.2 (slash ▸ member)
  unfold segmentLength
  rw [List.takeWhile_append_of_pos free, List.length_append]
  exact Nat.le_add_right _ _

theorem IsValue.length_pos {value : List Char} (valid : IsValue value) : 1 ≤ value.length :=
  List.length_pos_iff.mpr valid.1

/-! ## The search -/

theorem matchParts_literal (text : List Char) (parts : List Part) (cs : List Char) :
    matchParts (.literal text :: parts) (text ++ cs) = matchParts parts cs := by
  have start : text.isPrefixOf (text ++ cs) = true :=
    List.isPrefixOf_iff_prefix.mpr (List.prefix_append text cs)
  rw [matchParts, if_pos start, List.drop_left]

theorem matchParts_placeholder (name : List Char) (parts : List Part) (cs : List Char) :
    matchParts (.placeholder name :: parts) cs =
      (descending (segmentLength cs)).findSome? fun n =>
        (matchParts parts (cs.drop n)).map ((name, cs.take n) :: ·) := by
  rw [matchParts, segmentLength]

theorem matchParts_sound {parts : List Part} {cs : List Char}
    {found : List (List Char × List Char)} (matched : matchParts parts cs = some found) :
    Fits parts cs found := by
  induction parts generalizing cs found with
  | nil =>
      cases cs with
      | nil =>
          cases matched
          exact .done
      | cons c cs => cases matched
  | cons part parts ih =>
      cases part with
      | literal text =>
          rw [matchParts] at matched
          split at matched
          · next start =>
              obtain ⟨rest, split⟩ := List.isPrefixOf_iff_prefix.mp start
              subst split
              rw [List.drop_left] at matched
              exact .literal text (ih matched)
          · cases matched
      | placeholder name =>
          rw [matchParts_placeholder] at matched
          obtain ⟨m, positive, bound, value, -⟩ := findSome?_descending_eq_some _ matched
          obtain ⟨others, restMatched, eq⟩ := Option.map_eq_some_iff.mp value
          have fits := Fits.placeholder name (isValue_take positive bound) (ih restMatched)
          rw [List.take_append_drop] at fits
          exact eq ▸ fits

theorem matchParts_complete {parts : List Part} {cs : List Char}
    {found : List (List Char × List Char)} (fits : Fits parts cs found) :
    (matchParts parts cs).isSome := by
  induction fits with
  | done => rfl
  | literal text rest ih =>
      rw [matchParts_literal]
      exact ih
  | @placeholder parts cs found name value valid rest ih =>
      rw [matchParts_placeholder]
      apply findSome?_descending_isSome _ valid.length_pos (valid.length_le cs)
      rw [List.drop_left, Option.isSome_map]
      exact ih

/-- No fit that agrees with the one found on the first values has a longer next value. -/
theorem matchParts_greedy {parts : List Part} {cs : List Char}
    {found other : List (List Char × List Char)} (matched : matchParts parts cs = some found)
    (fits : Fits parts cs other) (i : Nat) (agree : other.take i = found.take i) :
    ((other.map Prod.snd).getD i []).length ≤ ((found.map Prod.snd).getD i []).length := by
  induction fits generalizing found i with
  | done =>
      cases matched
      exact Nat.le_refl _
  | literal text rest ih =>
      rw [matchParts_literal] at matched
      exact ih matched i agree
  | @placeholder parts cs others name value valid rest ih =>
      rw [matchParts_placeholder] at matched
      obtain ⟨m, positive, bound, chosen, noLonger⟩ := findSome?_descending_eq_some _ matched
      obtain ⟨more, restMatched, eq⟩ := Option.map_eq_some_iff.mp chosen
      subst eq
      cases i with
      | zero =>
          -- Any longer first value was tried before and did not lead to a fit.
          have longest : value.length ≤ m := by
            by_contra longer
            have failed := noLonger value.length (Nat.lt_of_not_le longer) (valid.length_le cs)
            rw [List.drop_left, Option.map_eq_none_iff] at failed
            have succeeds := matchParts_complete rest
            rw [failed] at succeeds
            cases succeeds
          rw [List.map_cons, List.map_cons, List.getD_cons_zero, List.getD_cons_zero,
            length_take_of_le bound]
          exact longest
      | succ i =>
          simp only [List.take_succ_cons, List.cons.injEq, Prod.mk.injEq, true_and] at agree
          obtain ⟨sameValue, sameRest⟩ := agree
          have size : m = value.length := by
            have lengths := congrArg List.length sameValue
            rw [length_take_of_le bound] at lengths
            exact lengths.symm
          rw [size, List.drop_left] at restMatched
          simpa using ih restMatched i sameRest

end HttpService.Pattern

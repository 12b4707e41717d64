import HttpService.Proofs.Json.Numeral
import HttpService.Proofs.Json.Text

/-!
# Values are read back

The compact text of a value is read back as one document, whatever may follow it inside a larger
text, and with that as the document of the whole text.
-/

namespace HttpService

/-- What a number is read as. -/
def Number.numeral : Number → Json.Numeral
  | natural n => Json.plain false n
  | negative m => Json.plain true m
  | real bits =>
      ((Json.numeral? (real bits).render.toList).map Prod.fst).getD (Json.plain false 0)

/-- A number's text is read back as one numeral. -/
def Number.Legible (n : Number) : Prop :=
  ∀ rest, Json.Follows rest → Json.numeral? (n.render.toList ++ rest) = some (n.numeral, rest)

theorem Number.legible_natural (n : Nat) : (natural n).Legible :=
  fun _ => Json.numeral?_natural n

theorem Number.legible_negative (n : Nat) : (negative n).Legible :=
  fun _ => Json.numeral?_negative n

namespace Json

mutual

/-- The document of a value. -/
def document : Json → Document
  | .null => .null
  | .bool b => .bool b
  | .number n => .number n.numeral
  | .text s => .text (writtenPieces s)
  | .array xs => .array (documents xs)
  | .object ms => .object (memberDocuments ms)

def documents : List Json → List Document
  | [] => []
  | x :: xs => x.document :: documents xs

def memberDocuments : List (String × Json) → List (List Piece × Document)
  | [] => []
  | (k, v) :: ms => (writtenPieces k, v.document) :: memberDocuments ms

end

mutual

/-- Every number in a value is read back. -/
def Legible : Json → Prop
  | .null => True
  | .bool _ => True
  | .number n => n.Legible
  | .text _ => True
  | .array xs => LegibleItems xs
  | .object ms => LegibleMembers ms

def LegibleItems : List Json → Prop
  | [] => True
  | x :: xs => x.Legible ∧ LegibleItems xs

def LegibleMembers : List (String × Json) → Prop
  | [] => True
  | (_, v) :: ms => v.Legible ∧ LegibleMembers ms

end

/-! ## How a value starts -/

theorem numeral?_start {cs : List Char} {found : Numeral × List Char}
    (h : numeral? cs = some found) :
    ∃ c rest, cs = c :: rest ∧ (c = '-' ∨ ∃ d, digit? c = some d) := by
  unfold numeral? at h
  split at h
  · next rest => exact ⟨'-', rest, rfl, .inl rfl⟩
  · cases cs with
    | nil => cases h
    | cons c rest =>
        cases digit : digit? c with
        | none => simp [unsigned?, takeDigits, digit] at h
        | some d => exact ⟨c, rest, rfl, .inr ⟨d, digit⟩⟩

/-- A character that may start a value and is no blank and no bracket that closes. -/
def Opens (c : Char) : Prop :=
  isSpace c = false ∧ c ≠ ']' ∧ c ≠ '\x7d'

instance (c : Char) : Decidable (Opens c) :=
  inferInstanceAs (Decidable (_ ∧ _ ∧ _))

theorem opens_of_numeral {c : Char} (h : c = '-' ∨ ∃ d, digit? c = some d) : Opens c := by
  obtain rfl | ⟨d, digit⟩ := h
  · exact ⟨by decide, by decide, by decide⟩
  · refine ⟨?_, ?_, ?_⟩
    · unfold isSpace
      simp only [Bool.or_eq_false_iff, beq_eq_false_iff_ne]
      refine ⟨⟨⟨?_, ?_⟩, ?_⟩, ?_⟩ <;> rintro rfl <;> cases digit
    · rintro rfl
      cases digit
    · rintro rfl
      cases digit

theorem renderChars_start {j : Json} (legible : j.Legible) :
    ∃ c cs, j.renderChars = c :: cs ∧ Opens c := by
  have letter : Opens 'n' ∧ Opens 't' ∧ Opens 'f' := by decide
  have mark : Opens '"' ∧ Opens '[' ∧ Opens '\x7b' := by decide
  cases j with
  | null => exact ⟨_, _, rfl, letter.1⟩
  | bool b =>
      cases b
      · exact ⟨_, _, rfl, letter.2.2⟩
      · exact ⟨_, _, rfl, letter.2.1⟩
  | number n =>
      have read := legible [] .nothing
      rw [List.append_nil] at read
      obtain ⟨c, cs, text, start⟩ := numeral?_start read
      exact ⟨c, cs, text, opens_of_numeral start⟩
  | text s => exact ⟨_, _, rfl, mark.1⟩
  | array xs => cases xs <;> exact ⟨_, _, rfl, mark.2.1⟩
  | object ms =>
      cases ms with
      | nil => exact ⟨_, _, rfl, mark.2.2⟩
      | cons m ms => exact ⟨_, _, rfl, mark.2.2⟩

theorem skipSpace_opens {c : Char} {cs : List Char} (h : Opens c) :
    skipSpace (c :: cs) = c :: cs := by
  simp [skipSpace, h.1]

theorem skipSpace_quote (cs : List Char) : skipSpace ('"' :: cs) = '"' :: cs :=
  skipSpace_opens (by decide)

theorem skipSpace_colon (cs : List Char) : skipSpace (':' :: cs) = ':' :: cs :=
  skipSpace_opens (by decide)

theorem skipSpace_follows {cs : List Char} (h : Follows cs) : skipSpace cs = cs := by
  cases h <;> rfl

/-! ## One step of reading -/

theorem value?_numeral {cs after : List Char} {n : Numeral} (fuel : Nat)
    (read : numeral? cs = some (n, after)) : value? (fuel + 1) cs = some (.number n, after) := by
  obtain ⟨c, rest, rfl, start⟩ := numeral?_start read
  have other : ∀ letter : Char, letter ≠ '-' → digit? letter = none → c ≠ letter := by
    rintro letter minus digit rfl
    obtain same | ⟨d, found⟩ := start
    · exact minus same
    · rw [digit] at found
      cases found
  rw [value?.eq_def]
  simp only [skipSpace_opens (opens_of_numeral start)]
  split
  case h_7 => simp [read]
  all_goals
    next same =>
      cases same
      exact absurd rfl (other _ (by decide) (by decide))

theorem value?_text (fuel : Nat) (s : String) (rest : List Char) :
    value? (fuel + 1) (renderText s ++ rest) = some (.text (writtenPieces s), rest) := by
  have read := string?_renderText s rest
  simp [value?, renderText, skipSpace, isSpace, read]

theorem value?_array {inside after : List Char} {items : List Document} (fuel : Nat)
    (start : ∃ c cs, inside = c :: cs ∧ Opens c)
    (read : items? fuel inside = some (items, after)) :
    value? (fuel + 1) ('[' :: inside) = some (.array items, after) := by
  obtain ⟨c, cs, rfl, opens⟩ := start
  have bracket : skipSpace ('[' :: c :: cs) = '[' :: c :: cs := skipSpace_opens (by decide)
  simp [value?, bracket, skipSpace_opens opens, opens.2.1, read]

theorem value?_object {inside after : List Char} {members : List (List Piece × Document)}
    (fuel : Nat) (start : ∃ c cs, inside = c :: cs ∧ Opens c)
    (read : members? fuel inside = some (members, after)) :
    value? (fuel + 1) ('\x7b' :: inside) = some (.object members, after) := by
  obtain ⟨c, cs, rfl, opens⟩ := start
  have brace : skipSpace ('\x7b' :: c :: cs) = '\x7b' :: c :: cs := skipSpace_opens (by decide)
  simp [value?, brace, skipSpace_opens opens, opens.2.2, read]

theorem items?_last {cs after : List Char} {item : Document} (fuel : Nat)
    (read : value? fuel cs = some (item, ']' :: after)) :
    items? (fuel + 1) cs = some ([item], after) := by
  simp [items?, read, skipSpace_follows (.bracket after)]

theorem items?_more {cs more after : List Char} {item : Document} {items : List Document}
    (fuel : Nat) (read : value? fuel cs = some (item, ',' :: more))
    (others : items? fuel more = some (items, after)) :
    items? (fuel + 1) cs = some (item :: items, after) := by
  simp [items?, read, skipSpace_follows (.comma more), others]

section

variable {cs more after : List Char} {value : Document}

theorem members?_last (fuel : Nat) (name : String)
    (read : value? fuel cs = some (value, '\x7d' :: after)) :
    members? (fuel + 1) (renderText name ++ ':' :: cs) =
      some ([(writtenPieces name, value)], after) := by
  have key := string?_renderText name (':' :: cs)
  simp [members?, renderText, skipSpace_quote, skipSpace_colon, key, read,
    skipSpace_follows (.brace after)]

theorem members?_more {members : List (List Piece × Document)} (fuel : Nat) (name : String)
    (read : value? fuel cs = some (value, ',' :: more))
    (others : members? fuel more = some (members, after)) :
    members? (fuel + 1) (renderText name ++ ':' :: cs) =
      some ((writtenPieces name, value) :: members, after) := by
  have key := string?_renderText name (':' :: cs)
  simp [members?, renderText, skipSpace_quote, skipSpace_colon, key, read,
    skipSpace_follows (.comma more), others]

end

/-! ## Whole values -/

theorem follows_renderItems (xs : List Json) (rest : List Char) :
    Follows (renderItems xs ++ rest) := by
  cases xs with
  | nil => exact .bracket rest
  | cons x xs => exact .comma _

theorem follows_renderMembers (ms : List (String × Json)) (rest : List Char) :
    Follows (renderMembers ms ++ rest) := by
  cases ms with
  | nil => exact .brace rest
  | cons m ms => exact .comma _

theorem renderChars_append_start {j : Json} (legible : j.Legible) (rest : List Char) :
    ∃ c cs, j.renderChars ++ rest = c :: cs ∧ Opens c := by
  obtain ⟨c, cs, text, opens⟩ := renderChars_start legible
  exact ⟨c, cs ++ rest, by rw [text, List.cons_append], opens⟩

theorem renderChars_length_pos {j : Json} (legible : j.Legible) : 0 < j.renderChars.length := by
  obtain ⟨c, cs, text, -⟩ := renderChars_start legible
  rw [text, List.length_cons]
  exact Nat.succ_pos _

-- Two steps a character are enough: a container takes one step for itself and one for each part,
-- and its brackets and commas pay for both.
mutual

/-- A value is read back, whatever may follow it. -/
theorem value?_renderChars : ∀ (j : Json) (fuel : Nat) (rest : List Char), j.Legible →
    2 * j.renderChars.length ≤ fuel → Follows rest →
    value? fuel (j.renderChars ++ rest) = some (j.document, rest)
  | j, 0, _, legible, enough, _ => by
      have some := renderChars_length_pos legible
      omega
  | .null, fuel + 1, rest, _, _, _ => rfl
  | .bool true, fuel + 1, rest, _, _, _ => rfl
  | .bool false, fuel + 1, rest, _, _, _ => rfl
  | .number n, fuel + 1, rest, legible, _, follows => value?_numeral fuel (legible rest follows)
  | .text s, fuel + 1, rest, _, _, _ => value?_text fuel s rest
  | .array [], fuel + 1, rest, _, _, _ => rfl
  | .array (x :: xs), fuel + 1, rest, legible, enough, _ => by
      simp only [renderChars, List.length_cons, List.length_append] at enough
      have start := renderChars_append_start legible.1 (renderItems xs ++ rest)
      have read := items?_renderItems x xs fuel rest legible.1 legible.2 (by omega)
      simp only [renderChars, List.cons_append, List.append_assoc]
      exact value?_array fuel start read
  | .object [], fuel + 1, rest, _, _, _ => rfl
  | .object ((k, v) :: ms), fuel + 1, rest, legible, enough, _ => by
      simp only [renderChars, List.length_cons, List.length_append] at enough
      have read := members?_renderMembers k v ms fuel rest legible.1 legible.2 (by omega)
      simp only [renderChars, List.cons_append, List.append_assoc]
      exact value?_object fuel ⟨'"', _, rfl, by decide⟩ read

theorem items?_renderItems : ∀ (x : Json) (xs : List Json) (fuel : Nat) (rest : List Char),
    x.Legible → LegibleItems xs → 2 * (x.renderChars.length + (renderItems xs).length) ≤ fuel →
    items? fuel (x.renderChars ++ (renderItems xs ++ rest)) =
      some (x.document :: documents xs, rest)
  | x, _, 0, _, legible, _, enough => by
      have some := renderChars_length_pos legible
      omega
  | x, [], fuel + 1, rest, legible, _, enough => by
      simp only [renderItems, List.length_cons] at enough
      exact items?_last fuel (value?_renderChars x fuel _ legible (by omega) (.bracket rest))
  | x, y :: ys, fuel + 1, rest, legible, others, enough => by
      simp only [renderItems, List.length_cons, List.length_append] at enough
      have first := value?_renderChars x fuel _ legible (by omega)
        (follows_renderItems (y :: ys) rest)
      have more := items?_renderItems y ys fuel rest others.1 others.2 (by omega)
      rw [← List.append_assoc] at more
      exact items?_more fuel first more

theorem members?_renderMembers : ∀ (k : String) (v : Json) (ms : List (String × Json)) (fuel : Nat)
    (rest : List Char), v.Legible → LegibleMembers ms →
    2 * (v.renderChars.length + (renderMembers ms).length) ≤ fuel →
    members? fuel (renderText k ++ ':' :: (v.renderChars ++ (renderMembers ms ++ rest))) =
      some ((writtenPieces k, v.document) :: memberDocuments ms, rest)
  | _, v, _, 0, _, legible, _, enough => by
      have some := renderChars_length_pos legible
      omega
  | k, v, [], fuel + 1, rest, legible, _, enough => by
      simp only [renderMembers, List.length_cons] at enough
      exact members?_last fuel k (value?_renderChars v fuel _ legible (by omega) (.brace rest))
  | k, v, (l, w) :: ms, fuel + 1, rest, legible, others, enough => by
      simp only [renderMembers, List.length_cons, List.length_append] at enough
      have first := value?_renderChars v fuel _ legible (by omega)
        (follows_renderMembers ((l, w) :: ms) rest)
      have more := members?_renderMembers l w ms fuel rest others.1 others.2 (by omega)
      have whole : renderText l ++ ':' :: (w.renderChars ++ (renderMembers ms ++ rest)) =
          renderText l ++ ':' :: w.renderChars ++ renderMembers ms ++ rest := by simp
      rw [whole] at more
      exact members?_more fuel k first more

end

/-- The document of a value's text. -/
theorem parse?_renderChars {j : Json} (legible : j.Legible) :
    Document.parse? j.renderChars = some j.document := by
  have read := value?_renderChars j (2 * j.renderChars.length + 2) [] legible (by omega) .nothing
  rw [List.append_nil] at read
  simp [Document.parse?, read, skipSpace]

end Json

end HttpService

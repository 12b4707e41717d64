import HttpService.Json.Reader

/-!
# Strings are read back

A string in quotes is read back whatever it holds: each character is written as one piece, and the
pieces are joined to the same characters.
-/

namespace HttpService.Json

/-- The piece that a character is written as: control characters without a short escape are given
by number. -/
def writtenPiece (c : Char) : Piece :=
  if c.toNat < 32 ∧ c ∉ ['\n', '\r', '\t', '\x08', '\x0c'] then .unit c.toNat else .char c

def writtenPieces (s : String) : List Piece :=
  s.toList.map writtenPiece

/-- Puts a piece before those of a string that was read. -/
def consPiece (p : Piece) (found : List Piece × List Char) : List Piece × List Char :=
  (p :: found.1, found.2)

/-! ## Reading one character -/

theorem string?_plain {c : Char} (rest : List Char) (quote : c ≠ '"') (backslash : c ≠ '\\')
    (visible : ¬ c.toNat < 32) :
    string? (c :: rest) = (string? rest).map (consPiece (.char c)) := by
  rw [string?.eq_5 c rest quote (fun _ _ _ _ _ same => absurd same backslash)
    (fun _ _ same => absurd same backslash)]
  cases string? rest <;> simp [visible, backslash, consPiece]

theorem string?_short {e c : Char} (rest : List Char) (short : shortEscape? e = some c) :
    string? ('\\' :: e :: rest) = (string? rest).map (consPiece (.char c)) := by
  have other : e ≠ 'u' := by
    rintro rfl
    cases short
  rw [string?.eq_4 e rest (fun _ _ _ _ _ same => absurd same other), short]
  cases string? rest <;> simp [consPiece]

theorem hexValue?_hexDigit {n : Nat} (h : n < 16) : hexValue? (hexDigit n) = some n := by
  revert n
  decide

theorem string?_unit {n : Nat} (rest : List Char) (small : n < 256) :
    string? ('\\' :: 'u' :: '0' :: '0' :: hexDigit (n / 16) :: hexDigit (n % 16) :: rest) =
      (string? rest).map (consPiece (.unit n)) := by
  have zero : hexValue? '0' = some 0 := by decide
  have high := hexValue?_hexDigit (n := n / 16) (by omega)
  have low := hexValue?_hexDigit (n := n % 16) (by omega)
  have whole : 16 * (n / 16) + n % 16 = n := Nat.div_add_mod n 16
  rw [string?.eq_3, zero, high, low]
  cases string? rest <;> simp [consPiece, whole]

theorem string?_escapeChar (c : Char) (rest : List Char) :
    string? (escapeChar c ++ rest) = (string? rest).map (consPiece (writtenPiece c)) := by
  unfold escapeChar writtenPiece
  by_cases quote : c = '"'
  · subst quote
    exact string?_short rest (by decide)
  by_cases backslash : c = '\\'
  · subst backslash
    exact string?_short rest (by decide)
  by_cases short : c ∈ ['\n', '\r', '\t', '\x08', '\x0c']
  · simp only [List.mem_cons, List.not_mem_nil, or_false] at short
    obtain rfl | rfl | rfl | rfl | rfl := short <;> exact string?_short rest (by decide)
  · have number : ∀ n, c.toNat = n → c = Char.ofNat n := by
      intro n same
      rw [← same, Char.ofNat_toNat]
    have bell : c.toNat ≠ 8 := fun same => short (by simp [number 8 same])
    have feed : c.toNat ≠ 12 := fun same => short (by simp [number 12 same])
    have others : c ≠ '\n' ∧ c ≠ '\r' ∧ c ≠ '\t' := by
      simp only [List.mem_cons, not_or] at short
      exact ⟨short.1, short.2.1, short.2.2.1⟩
    by_cases control : c.toNat < 32
    · simp only [beq_iff_eq, quote, backslash, others, bell, feed, control, short,
        not_false_eq_true, and_self, ↓reduceIte, List.cons_append, List.nil_append]
      exact string?_unit rest (by omega)
    · simp only [beq_iff_eq, quote, backslash, others, bell, feed, control, false_and, ↓reduceIte,
        List.cons_append, List.nil_append]
      exact string?_plain rest quote backslash control

/-! ## Whole strings -/

theorem string?_renderText (s : String) (rest : List Char) :
    string? (s.toList.flatMap escapeChar ++ '"' :: rest) = some (writtenPieces s, rest) := by
  unfold writtenPieces
  induction s.toList with
  | nil => rfl
  | cons c cs ih =>
      rw [List.flatMap_cons, List.append_assoc, string?_escapeChar, ih]
      rfl

theorem joinPieces?_unit {n : Nat} (rest : List Piece) (small : n < 0xD800) :
    joinPieces? (.unit n :: rest) = (joinPieces? rest).map (Char.ofNat n :: ·) := by
  have high : isHighSurrogate n = false := by
    unfold isHighSurrogate
    simp
    omega
  have low : isLowSurrogate n = false := by
    unfold isLowSurrogate
    simp
    omega
  cases rest with
  | nil => simp [joinPieces?, high, low]
  | cons p rest => cases p <;> simp [joinPieces?, high, low]

theorem joinPieces?_writtenPiece (c : Char) (rest : List Piece) :
    joinPieces? (writtenPiece c :: rest) = (joinPieces? rest).map (c :: ·) := by
  unfold writtenPiece
  split
  · next control =>
      rw [joinPieces?_unit rest (by omega), Char.ofNat_toNat]
  · rfl

theorem pieces_writtenPieces (s : String) : pieces (writtenPieces s) = .ok s := by
  have joined : joinPieces? (writtenPieces s) = some s.toList := by
    unfold writtenPieces
    induction s.toList with
    | nil => rfl
    | cons c cs ih => rw [List.map_cons, joinPieces?_writtenPiece, ih]; rfl
  simp only [pieces, joined, String.ofList_toList]

end HttpService.Json

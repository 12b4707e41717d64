import HttpService.Proofs.Json.Document

/-!
# Every number is read back

The text of a binary64 number has a whole part without a leading zero, then a fraction or an
exponent or both. So it is read back as one numeral, as that of an integer is, and every value has a
document.
-/

namespace HttpService.Decimal

/-! ## Shortest decimals have digits -/

/-- A decimal whose digits do not start with a zero, or zero itself. -/
def Scaled.Plain (s : Scaled) : Prop :=
  0 < s.digits ∨ s = ⟨0, 0⟩

theorem Interval.digits_onGrid? {i : Interval} {power : Int} {s : Scaled}
    (found : i.onGrid? power = some s) : 0 < s.digits := by
  unfold onGrid? at found
  dsimp only at found
  split at found
  · next both =>
      simp only [Bool.and_eq_true, decide_eq_true_eq] at both
      cases found
      dsimp only
      split
      · exact Nat.succ_pos _
      · exact both.1.1
  · split at found
    · next down =>
        simp only [Bool.and_eq_true, decide_eq_true_eq] at down
        cases found
        exact down.1
    · split at found
      · cases found
        exact Nat.succ_pos _
      · cases found

theorem Interval.plain_search (i : Interval) (magnitude : Int) (tries count : Nat) :
    (i.search magnitude tries count).Plain := by
  induction tries generalizing count with
  | zero => exact .inr rfl
  | succ tries ih =>
      unfold search
      split
      · next found => exact .inl (digits_onGrid? found)
      · exact ih _

theorem Scaled.Plain.strip {s : Scaled} (plain : s.Plain) (fuel : Nat) : (s.strip fuel).Plain := by
  induction fuel generalizing s with
  | zero => exact plain
  | succ fuel ih =>
      unfold Scaled.strip
      split
      · next more =>
          simp only [Bool.and_eq_true, decide_eq_true_eq, beq_iff_eq] at more
          exact ih (.inl (Nat.div_pos (by omega) (by omega)))
      · exact plain

end HttpService.Decimal

namespace HttpService

namespace Json

open Decimal

/-! ## The parts of a numeral -/

/-- The digits before the point: at least one, and a zero in front only alone. -/
structure IsWhole (ds : List Char) : Prop where
  digits : ∀ c ∈ ds, c.isDigit = true
  first : ∃ c cs, ds = c :: cs ∧ (cs = [] ∨ c.toNat - 48 ≠ 0)

theorem digits_toDigits (n : Nat) : ∀ c ∈ Nat.toDigits 10 n, c.isDigit = true :=
  fun _ => Nat.isDigit_of_mem_toDigits (by omega) (by omega)

theorem toDigits_of_pos {n : Nat} (positive : 0 < n) :
    ∃ c cs, Nat.toDigits 10 n = c :: cs ∧ c.toNat - 48 ≠ 0 := by
  obtain ⟨d, ds, decimal, nonzero⟩ := decimals_of_pos positive
  obtain ⟨c, cs, written, rfl, -⟩ := List.map_eq_cons_iff.mp decimal
  exact ⟨c, cs, written, nonzero⟩

theorem isWhole_toDigits (n : Nat) : IsWhole (Nat.toDigits 10 n) where
  digits := digits_toDigits n
  first := by
    by_cases some : 0 < n
    · obtain ⟨c, cs, written, nonzero⟩ := toDigits_of_pos some
      exact ⟨c, cs, written, .inr nonzero⟩
    · exact ⟨n.digitChar, [], Nat.toDigits_of_lt_base (by omega), .inl rfl⟩

theorem isWhole_zero : IsWhole ['0'] :=
  isWhole_toDigits 0

/-- More digits may follow those of a positive number. -/
theorem isWhole_append {n : Nat} {more : List Char} (positive : 0 < n)
    (digits : ∀ c ∈ more, c.isDigit = true) : IsWhole (Nat.toDigits 10 n ++ more) where
  digits c member := (List.mem_append.mp member).elim (digits_toDigits n c) (digits c)
  first := by
    obtain ⟨c, cs, written, nonzero⟩ := toDigits_of_pos positive
    exact ⟨c, cs ++ more, by rw [written, List.cons_append], .inr nonzero⟩

theorem IsWhole.take {ds : List Char} (whole : IsWhole ds) {count : Nat} (some : 0 < count) :
    IsWhole (ds.take count) where
  digits c member := whole.digits c (List.mem_of_mem_take member)
  first := by
    obtain ⟨c, cs, rfl, alone⟩ := whole.first
    obtain ⟨count, rfl⟩ := Nat.exists_eq_succ_of_ne_zero (Nat.ne_of_gt some)
    exact ⟨c, cs.take count, rfl, alone.imp_left fun none => by rw [none, List.take_nil]⟩

theorem unsigned?_parts {ds fraction exponent rest : List Char} {f : List Nat}
    {e : Option (Bool × List Nat)} (negative : Bool) (whole : IsWhole ds)
    (stops : takeDigits fraction = ([], fraction)) (reads : fraction? fraction = some (f, exponent))
    (ends : exponent? exponent = some (e, rest)) :
    unsigned? negative (ds ++ fraction) =
      some (⟨negative, ds.map fun c => c.toNat - 48, f, e⟩, rest) := by
  unfold unsigned?
  rw [takeDigits_append whole.digits stops]
  obtain ⟨c, cs, rfl, rfl | nonzero⟩ := whole.first
  · simp [reads, ends]
  · cases cs <;> simp [nonzero, reads, ends]

theorem fraction?_point {ds rest : List Char} (digits : ∀ c ∈ ds, c.isDigit = true)
    (some : ds ≠ []) (stops : takeDigits rest = ([], rest)) :
    fraction? ('.' :: (ds ++ rest)) = .some (ds.map fun c => c.toNat - 48, rest) := by
  simp only [fraction?, takeDigits_append digits stops]
  cases ds with
  | nil => exact absurd rfl some
  | cons d ds => rfl

theorem exponentDigits?_toDigits {rest : List Char} (down : Bool) (n : Nat)
    (follows : Follows rest) :
    exponentDigits? down (Nat.toDigits 10 n ++ rest) = some (some (down, decimals n), rest) := by
  unfold exponentDigits?
  rw [takeDigits_toDigits n follows]
  obtain ⟨d, digits⟩ | ⟨d, e, ds, digits, -⟩ := decimals_cases n <;> rw [digits]

/-- An exponent is read with either sign and without one. -/
theorem exponent?_mark (n : Nat) {sign : List Char}
    (signs : sign = ['-'] ∨ sign = ['+'] ∨ sign = []) :
    ∃ down, ∀ rest, Follows rest →
      exponent? ('e' :: (sign ++ (Nat.toDigits 10 n ++ rest))) =
        some (some (down, decimals n), rest) := by
  obtain rfl | rfl | rfl := signs
  · exact ⟨true, fun rest => exponentDigits?_toDigits true n⟩
  · exact ⟨false, fun rest => exponentDigits?_toDigits false n⟩
  · refine ⟨false, fun rest follows => ?_⟩
    have read := exponentDigits?_toDigits false n follows
    have digits := digits_toDigits n
    rw [List.nil_append]
    cases written : Nat.toDigits 10 n with
    | nil => exact absurd written Nat.toDigits_ne_nil
    | cons c cs =>
        rw [written] at read digits
        have first := digits c List.mem_cons_self
        rw [List.cons_append] at read ⊢
        simp only [exponent?, beq_self_eq_true, Bool.true_or, ↓reduceIte]
        split
        · next same => cases same; cases first
        · next same => cases same; cases first
        · exact read

/-! ## Whole numerals -/

/-- A text without a sign that is read as one numeral, whatever follows it. -/
def IsNumeral (cs : List Char) : Prop :=
  ∀ negative, ∃ n, ∀ rest, Follows rest → unsigned? negative (cs ++ rest) = some (n, rest)

theorem isNumeral_fraction {ds fraction : List Char} (whole : IsWhole ds)
    (digits : ∀ c ∈ fraction, c.isDigit = true) (some : fraction ≠ []) :
    IsNumeral (ds ++ '.' :: fraction) := by
  refine fun negative => ⟨⟨negative, ds.map fun c => c.toNat - 48,
    fraction.map fun c => c.toNat - 48, none⟩, fun rest follows => ?_⟩
  rw [List.append_assoc, List.cons_append]
  refine unsigned?_parts negative whole rfl
    (fraction?_point digits some (takeDigits_follows follows)) ?_
  cases follows <;> rfl

theorem isNumeral_exponent {ds fraction sign : List Char} (n : Nat) (whole : IsWhole ds)
    (digits : ∀ c ∈ fraction, c.isDigit = true)
    (signs : sign = ['-'] ∨ sign = ['+'] ∨ sign = []) :
    IsNumeral (ds ++ (if fraction.isEmpty then [] else '.' :: fraction) ++
      'e' :: sign ++ Nat.toDigits 10 n) := by
  obtain ⟨down, ends⟩ := exponent?_mark n signs
  refine fun negative => ⟨⟨negative, ds.map fun c => c.toNat - 48,
    fraction.map fun c => c.toNat - 48, some (down, decimals n)⟩, fun rest follows => ?_⟩
  simp only [List.append_assoc, List.cons_append]
  have marked : takeDigits ('e' :: (sign ++ (Nat.toDigits 10 n ++ rest))) =
      ([], 'e' :: (sign ++ (Nat.toDigits 10 n ++ rest))) := rfl
  cases fraction with
  | nil => exact unsigned?_parts negative whole marked rfl (ends rest follows)
  | cons c cs =>
      exact unsigned?_parts negative whole rfl
        (fraction?_point digits (List.cons_ne_nil c cs) marked) (ends rest follows)

theorem digits_zeros (n : Nat) : ∀ c ∈ zeros n, c.isDigit = true := by
  intro c member
  rw [List.eq_of_mem_replicate member]
  rfl

/-- However a decimal is laid out, its text is a numeral. -/
theorem isNumeral_write (l : Layout) {s : Scaled} (plain : s.Plain) :
    IsNumeral (l.write s).toList := by
  have stripped := plain.strip 32
  unfold Layout.write
  generalize s.strip 32 = s at stripped
  have digits := digits_toDigits s.digits
  have whole := isWhole_toDigits s.digits
  dsimp only
  rw [String.toList_ofList]
  split
  · split
    · -- A zero before the point stands alone, since zero has no power.
      have padded : IsWhole (Nat.toDigits 10 s.digits ++ zeros s.power.toNat) := by
        obtain positive | rfl := stripped
        · exact isWhole_append positive (digits_zeros _)
        · exact whole
      exact isNumeral_fraction padded isWhole_zero.digits (List.cons_ne_nil _ _)
    · split
      · refine isNumeral_fraction (whole.take (by omega))
          (fun c member => digits c (List.mem_of_mem_drop member)) ?_
        rw [ne_eq, List.drop_eq_nil_iff]
        omega
      · refine isNumeral_fraction isWhole_zero (fun c member => ?_) (by simp)
        exact (List.mem_append.mp member).elim (digits_zeros _ c) (digits c)
  · refine isNumeral_exponent _ (whole.take Nat.one_pos)
      (fun c member => digits c (List.mem_of_mem_drop member)) ?_
    split
    · exact .inl rfl
    · split
      · exact .inr (.inl rfl)
      · exact .inr (.inr rfl)

theorem numeral?_of_unsigned {cs : List Char} {found : Numeral × List Char}
    (read : unsigned? false cs = some found) : numeral? cs = some found := by
  unfold numeral?
  split
  · cases read
  · exact read

end Json

namespace Number

open Json

/-- The text of a binary64 number is a numeral, with a minus before it or not. -/
theorem render_real (bits : UInt64) : ∃ (negative : Bool) (cs : List Char), IsNumeral cs ∧
    (real bits).render.toList = if negative then '-' :: cs else cs := by
  refine ⟨bits.toNat / Nat.pow 2 63 == 1, ?_⟩
  simp only [render, Decimal.Layout.writeBits]
  generalize (bits.toNat / Nat.pow 2 63 == 1) = negative
  cases Decimal.Binary.ofBits? bits with
  | none =>
      refine ⟨['0', '.', '0'],
        isNumeral_fraction isWhole_zero isWhole_zero.digits (List.cons_ne_nil _ _), ?_⟩
      cases negative <;> rfl
  | some b =>
      refine ⟨(layout.write b.shortest).toList,
        isNumeral_write _ (Decimal.Interval.plain_search ..), ?_⟩
      cases negative <;> simp

theorem legible_real (bits : UInt64) : (real bits).Legible := by
  obtain ⟨negative, cs, isNumeral, text⟩ := render_real bits
  obtain ⟨n, reads⟩ := isNumeral negative
  have readsText : ∀ rest, Follows rest →
      numeral? ((real bits).render.toList ++ rest) = some (n, rest) := by
    intro rest follows
    rw [text]
    cases negative with
    | true => exact reads rest follows
    | false => exact numeral?_of_unsigned (reads rest follows)
  have alone := readsText [] .nothing
  rw [List.append_nil] at alone
  intro rest follows
  rw [readsText rest follows, numeral, alone]
  rfl

theorem legible : (n : Number) → n.Legible
  | natural n => legible_natural n
  | negative n => legible_negative n
  | real bits => legible_real bits

end Number

namespace Json

mutual

/-- Every value is read back. -/
theorem legible : (j : Json) → j.Legible
  | .null | .bool _ | .text _ => trivial
  | .number n => n.legible
  | .array xs => legibleItems xs
  | .object ms => legibleMembers ms

theorem legibleItems : (xs : List Json) → LegibleItems xs
  | [] => trivial
  | x :: xs => ⟨x.legible, legibleItems xs⟩

theorem legibleMembers : (ms : List (String × Json)) → LegibleMembers ms
  | [] => trivial
  | (_, v) :: ms => ⟨v.legible, legibleMembers ms⟩

end

end Json

end HttpService

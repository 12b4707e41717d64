import HttpService.Json.Reader
import Mathlib.Data.Nat.Notation

/-!
# Integers are read back

The decimal digits of an integer are read back as one numeral, and that numeral has the integer's
value as long as it fits in 64 bits.
-/

namespace HttpService.Json

/-- What may follow a value inside a document. -/
inductive Follows : List Char → Prop
  | nothing : Follows []
  | comma (rest : List Char) : Follows (',' :: rest)
  | bracket (rest : List Char) : Follows (']' :: rest)
  | brace (rest : List Char) : Follows ('\x7d' :: rest)

/-- The decimal digits of a number, the highest first. -/
def decimals (n : Nat) : List Nat :=
  (Nat.toDigits 10 n).map fun c => c.toNat - 48

/-- An integer's numeral. -/
def plain (negative : Bool) (n : Nat) : Numeral :=
  ⟨negative, decimals n, [], none⟩

/-! ## The digits of a number -/

theorem decimals_of_lt {n : Nat} (h : n < 10) : decimals n = [n] := by
  rw [decimals, Nat.toDigits_of_lt_base h, List.map_singleton,
    Nat.toNat_digitChar_sub_48_of_lt_ten h]

theorem decimals_of_le {n : Nat} (h : 10 ≤ n) : decimals n = decimals (n / 10) ++ [n % 10] := by
  rw [decimals, Nat.toDigits_of_base_le (by omega) h, List.map_append, List.map_singleton,
    Nat.toNat_digitChar_sub_48_of_lt_ten (Nat.mod_lt n (by omega)), decimals]

/-- A number's digits as one number. -/
def ofDecimals (start : Nat) (ds : List Nat) : Nat :=
  ds.foldl (fun acc d => acc * 10 + d) start

theorem ofDecimals_decimals (n : Nat) : ofDecimals 0 (decimals n) = n := by
  induction n using Nat.strongRecOn with
  | _ n ih =>
      by_cases small : n < 10
      · simp [decimals_of_lt small, ofDecimals]
      · have high := ih (n / 10) (by omega)
        unfold ofDecimals at high ⊢
        rw [decimals_of_le (by omega), List.foldl_append, high]
        simp only [List.foldl_cons, List.foldl_nil]
        omega

/-- The digits of a positive number do not start with a zero. -/
theorem decimals_of_pos {n : Nat} (positive : 0 < n) :
    ∃ d ds, decimals n = d :: ds ∧ d ≠ 0 := by
  induction n using Nat.strongRecOn with
  | _ n ih =>
      by_cases small : n < 10
      · exact ⟨n, [], decimals_of_lt small, by omega⟩
      · obtain ⟨d, ds, high, nonzero⟩ := ih (n / 10) (by omega) (by omega)
        exact ⟨d, ds ++ [n % 10], by rw [decimals_of_le (by omega), high]; rfl, nonzero⟩

/-- A number's digits do not start with a zero, zero apart. -/
theorem decimals_cases (n : Nat) :
    (∃ d, decimals n = [d]) ∨ ∃ d e ds, decimals n = d :: e :: ds ∧ d ≠ 0 := by
  by_cases some : 0 < n
  · obtain ⟨d, ds, digits, nonzero⟩ := decimals_of_pos some
    cases ds with
    | nil => exact .inl ⟨d, digits⟩
    | cons e ds => exact .inr ⟨d, e, ds, digits, nonzero⟩
  · exact .inl ⟨n, decimals_of_lt (by omega)⟩

/-! ## Reading the digits -/

theorem digit?_of_isDigit {c : Char} (h : c.isDigit = true) : digit? c = some (c.toNat - 48) := by
  obtain ⟨low, high⟩ := Bool.and_eq_true _ _ ▸ h
  have bounds : ('0' ≤ c && c ≤ '9') = true := by
    rw [Bool.and_eq_true, decide_eq_true_eq, decide_eq_true_eq]
    exact ⟨of_decide_eq_true low, of_decide_eq_true high⟩
  rw [digit?, if_pos bounds]

theorem takeDigits_follows {rest : List Char} (h : Follows rest) :
    takeDigits rest = ([], rest) := by
  cases h <;> rfl

/-- The digits of a text end where no digit follows. -/
theorem takeDigits_append {ds rest : List Char} (digits : ∀ c ∈ ds, c.isDigit = true)
    (stops : takeDigits rest = ([], rest)) :
    takeDigits (ds ++ rest) = (ds.map fun c => c.toNat - 48, rest) := by
  induction ds with
  | nil => exact stops
  | cons d ds ih =>
      have first := digit?_of_isDigit (digits d List.mem_cons_self)
      have others := ih fun c member => digits c (List.mem_cons_of_mem d member)
      simp only [List.cons_append, takeDigits, first, others, List.map_cons]

theorem takeDigits_toDigits {rest : List Char} (n : Nat) (follows : Follows rest) :
    takeDigits (Nat.toDigits 10 n ++ rest) = (decimals n, rest) :=
  takeDigits_append (fun _ member => Nat.isDigit_of_mem_toDigits (by omega) (by omega) member)
    (takeDigits_follows follows)

theorem unsigned?_toDigits {rest : List Char} (negative : Bool) (n : Nat) (follows : Follows rest) :
    unsigned? negative (Nat.toDigits 10 n ++ rest) = some (plain negative n, rest) := by
  have fraction : fraction? rest = some ([], rest) := by cases follows <;> rfl
  have exponent : exponent? rest = some (none, rest) := by cases follows <;> rfl
  unfold unsigned? plain
  rw [takeDigits_toDigits n follows]
  obtain ⟨d, single⟩ | ⟨d, e, ds, several, nonzero⟩ := decimals_cases n
  · simp [single, fraction, exponent]
  · simp [several, nonzero, fraction, exponent]

theorem numeral?_natural {rest : List Char} (n : Nat) (follows : Follows rest) :
    numeral? ((Number.natural n).render.toList ++ rest) = some (plain false n, rest) := by
  have read := unsigned?_toDigits false n follows
  have digits : ∀ c ∈ Nat.toDigits 10 n, c.isDigit = true := fun c =>
    Nat.isDigit_of_mem_toDigits (by omega) (by omega)
  rw [Number.render, String.toList_ofList]
  cases written : Nat.toDigits 10 n with
  | nil => exact absurd written Nat.toDigits_ne_nil
  | cons c cs =>
      rw [written] at read digits
      have first := digits c List.mem_cons_self
      rw [← read]
      unfold numeral?
      split
      · next same =>
          cases same
          cases first
      · rfl

theorem numeral?_negative {rest : List Char} (n : Nat) (follows : Follows rest) :
    numeral? ((Number.negative n).render.toList ++ rest) = some (plain true n, rest) := by
  rw [Number.render, String.toList_ofList]
  exact unsigned?_toDigits true n follows

/-! ## The value of the numeral -/

theorem le_ofDecimals (start : Nat) (ds : List Nat) : start ≤ ofDecimals start ds := by
  induction ds generalizing start with
  | nil => exact Nat.le_refl start
  | cons d ds ih =>
      have bound := ih (start * 10 + d)
      have step : ofDecimals start (d :: ds) = ofDecimals (start * 10 + d) ds := rfl
      omega

/-- A number that fits in 64 bits keeps all its digits. -/
theorem accumulate_of_lt {start : Nat} {ds : List Nat} (fits : ofDecimals start ds < Nat.pow 2 64) :
    accumulate start ds = (ofDecimals start ds, 0) := by
  induction ds generalizing start with
  | nil => rfl
  | cons d ds ih =>
      have step : ofDecimals start (d :: ds) = ofDecimals (start * 10 + d) ds := rfl
      have bound := le_ofDecimals (start * 10 + d) ds
      rw [step] at fits ⊢
      rw [accumulate, if_pos (by omega), ih fits]

/-- A number that does not fit loses digits. -/
theorem accumulate_of_le {start : Nat} {ds : List Nat} (fits : start < Nat.pow 2 64)
    (beyond : Nat.pow 2 64 ≤ ofDecimals start ds) : (accumulate start ds).2 ≠ 0 := by
  induction ds generalizing start with
  | nil => exact absurd fits (Nat.not_lt.mpr beyond)
  | cons d ds ih =>
      rw [accumulate]
      split
      · next more => exact ih more beyond
      · exact Nat.succ_ne_zero _

theorem value?_plain_of_lt {n : Nat} (negative : Bool) (fits : n < Nat.pow 2 64) :
    (plain negative n).value? =
      if !negative then some (.natural n)
      else if 0 < n && n ≤ Nat.pow 2 63 then some (.negative n)
      else some (signed true (UInt64.ofNat n).toFloat) := by
  have whole : accumulate 0 (decimals n) = (n, 0) := by
    have fits' : ofDecimals 0 (decimals n) < Nat.pow 2 64 := by rwa [ofDecimals_decimals]
    rw [accumulate_of_lt fits', ofDecimals_decimals]
  unfold Numeral.value? plain
  rw [whole]
  rfl

theorem value?_plain_of_le {n : Nat} {v : Number} (negative : Bool) (beyond : Nat.pow 2 64 ≤ n)
    (found : (plain negative n).value? = some v) : ∃ bits, v = .real bits := by
  have dropped : (accumulate 0 (decimals n)).2 ≠ 0 :=
    accumulate_of_le (by decide) (by rwa [ofDecimals_decimals])
  unfold Numeral.value? plain at found
  simp only [List.isEmpty_nil, Option.isNone_none, Bool.and_self, Bool.true_and, beq_iff_eq,
    dropped, ↓reduceIte, Option.map_eq_some_iff] at found
  obtain ⟨f, -, rfl⟩ := found
  exact ⟨_, rfl⟩

/-- The numeral of an integer. -/
def ofInteger : Int → Numeral
  | .ofNat n => plain false n
  | .negSucc n => plain true (n + 1)

theorem Reader.filterMap_eq_ok_iff {α β : Type} {r : Reader α} {f : α → Option β}
    {expected : String} {level : Nat} {d : Document} {b : β} :
    r.filterMap expected f level d = .ok b ↔ ∃ a, r level d = .ok a ∧ f a = some b := by
  unfold filterMap
  cases read : r level d with
  | error e => simp [bind, Except.bind]
  | ok a => cases chosen : f a <;> simp [bind, Except.bind, chosen]

theorem Reader.number_eq_ok_iff {level : Nat} {n : Numeral} {v : Number} :
    Reader.number level (.number n) = .ok v ↔ n.value? = some v := by
  simp only [number, numeral]
  cases value : n.value? <;> simp

theorem Reader.int64_plain {level n : Nat} {v : Int} :
    int64 level (.number (plain false n)) = .ok v ↔ v = n ∧ n < Nat.pow 2 63 := by
  have wide : Nat.pow 2 63 ≤ Nat.pow 2 64 := by decide
  unfold int64
  rw [filterMap_eq_ok_iff]
  simp only [number_eq_ok_iff]
  by_cases fits : n < Nat.pow 2 64
  · rw [value?_plain_of_lt false fits]
    simp only [Bool.not_false, ↓reduceIte, Option.some.injEq, exists_eq_left',
      Option.ite_none_right_eq_some]
    exact ⟨fun ⟨small, same⟩ => ⟨same.symm, small⟩, fun ⟨same, small⟩ => ⟨small, same.symm⟩⟩
  · constructor
    · rintro ⟨a, found, chosen⟩
      obtain ⟨bits, rfl⟩ := value?_plain_of_le false (by omega) found
      cases chosen
    · omega

theorem Reader.int64_plain_negative {level n : Nat} {v : Int} (some : 0 < n) :
    int64 level (.number (plain true n)) = .ok v ↔ v = -(n : Int) ∧ n ≤ Nat.pow 2 63 := by
  have wide : Nat.pow 2 63 < Nat.pow 2 64 := by decide
  unfold int64
  rw [filterMap_eq_ok_iff]
  simp only [number_eq_ok_iff]
  by_cases fits : n < Nat.pow 2 64
  · rw [value?_plain_of_lt true fits]
    by_cases small : n ≤ Nat.pow 2 63
    · simp [some, small, eq_comm]
    · simp [small, signed]
  · constructor
    · rintro ⟨a, found, chosen⟩
      obtain ⟨bits, rfl⟩ := value?_plain_of_le true (by omega) found
      cases chosen
    · omega

/-- The integers of 64 bits. -/
def IsInt64 (k : Int) : Prop :=
  -9223372036854775808 ≤ k ∧ k < 9223372036854775808

/-- Reading an integer of 64 bits gives the integer that was written, and nothing else does. -/
theorem Reader.int64_ofInteger {level : Nat} {k v : Int} :
    int64 level (.number (ofInteger k)) = .ok v ↔ v = k ∧ IsInt64 k := by
  have bound : Nat.pow 2 63 = 9223372036854775808 := rfl
  unfold IsInt64
  cases k with
  | ofNat n =>
      rw [ofInteger, int64_plain, bound, Int.ofNat_eq_natCast]
      omega
  | negSucc n =>
      rw [ofInteger, int64_plain_negative (Nat.succ_pos n), bound]
      omega

end HttpService.Json

import HttpService.Encoding.Base64Url
import Mathlib.Data.Nat.Notation
import Mathlib.Tactic.SplitIfs

/-!
# Base64 for URLs is read back

Bytes are read back from their text, the text has only characters of the alphabet, and no other text
is read as these bytes.
-/

namespace HttpService.Encoding.Base64Url

theorem valueOf?_charOf {n : Nat} (h : n < 64) : valueOf? (charOf n) = some n := by
  revert n
  decide

theorem ofNat_eq {b : UInt8} {n : Nat} (h : n = b.toNat) : UInt8.ofNat n = b := by
  rw [h, UInt8.ofNat_toNat]

/-! ## One group -/

theorem four_sextets (n : Nat) :
    (n / 262144 * 64 + n / 4096 % 64) * 4096 + n / 64 % 64 * 64 + n % 64 = n := by
  omega

theorem three_sextets (n : Nat) : n / 4096 * 4096 + n / 64 % 64 * 64 + n % 64 = n := by
  omega

theorem sextet_lt (n : Nat) : n % 64 < 64 :=
  Nat.mod_lt n (by omega)

theorem decodeChars?_four {n : Nat} (small : n / 262144 < 64) (cs : List Char) :
    decodeChars? (charOf (n / 262144) :: charOf (n / 4096 % 64) :: charOf (n / 64 % 64) ::
      charOf (n % 64) :: cs) =
      (decodeChars? cs).map fun bytes =>
        UInt8.ofNat (n / 65536) :: UInt8.ofNat (n / 256 % 256) :: UInt8.ofNat (n % 256) ::
          bytes := by
  simp only [decodeChars?, valueOf?_charOf small, valueOf?_charOf (sextet_lt _),
    Option.bind_eq_bind, Option.bind_some, four_sextets]
  cases decodeChars? cs <;> rfl

theorem decodeChars?_three {n : Nat} (small : n / 4096 < 64) (blank : n % 4 = 0) :
    decodeChars? [charOf (n / 4096), charOf (n / 64 % 64), charOf (n % 64)] =
      some [UInt8.ofNat (n / 1024), UInt8.ofNat (n / 4 % 256)] := by
  simp [decodeChars?, valueOf?_charOf small, valueOf?_charOf (sextet_lt _), three_sextets, blank]

/-! ## Whole texts -/

theorem decodeChars?_encodeChars (bytes : List UInt8) :
    decodeChars? (encodeChars bytes) = some bytes := by
  induction bytes using encodeChars.induct with
  | case1 a b c rest ih =>
      have bounds := And.intro a.toNat_lt (And.intro b.toNat_lt c.toNat_lt)
      rw [encodeChars, decodeChars?_four (by omega), ih, Option.map_some]
      rw [ofNat_eq (b := a) (by omega), ofNat_eq (b := b) (by omega), ofNat_eq (b := c) (by omega)]
  | case2 a b =>
      have bounds := And.intro a.toNat_lt b.toNat_lt
      rw [encodeChars, decodeChars?_three (by omega) (by omega)]
      rw [ofNat_eq (b := a) (by omega), ofNat_eq (b := b) (by omega)]
  | case3 a =>
      have bound := a.toNat_lt
      have joined : a.toNat / 4 * 64 + a.toNat % 4 * 16 = a.toNat * 16 := by omega
      rw [encodeChars]
      simp only [decodeChars?, valueOf?_charOf (show a.toNat / 4 < 64 by omega),
        valueOf?_charOf (show a.toNat % 4 * 16 < 64 by omega), joined, bind, Option.bind,
        Nat.mul_mod_left, beq_self_eq_true, ↓reduceIte]
      rw [ofNat_eq (b := a) (by omega)]
  | case4 => rfl

theorem decode?_encode (bytes : List UInt8) : decode? (encode bytes) = some bytes := by
  rw [decode?, encode, String.toList_ofList, decodeChars?_encodeChars]

/-- An encoded text has only characters of the alphabet. -/
theorem exists_charOf_of_mem {c : Char} {bytes : List UInt8} (member : c ∈ encodeChars bytes) :
    ∃ n, n < 64 ∧ c = charOf n := by
  induction bytes using encodeChars.induct with
  | case1 x y z rest ih =>
      have bounds := And.intro x.toNat_lt (And.intro y.toNat_lt z.toNat_lt)
      simp only [encodeChars, List.mem_cons] at member
      obtain here | here | here | here | later := member
      · exact ⟨_, by omega, here⟩
      · exact ⟨_, Nat.mod_lt _ (by omega), here⟩
      · exact ⟨_, Nat.mod_lt _ (by omega), here⟩
      · exact ⟨_, Nat.mod_lt _ (by omega), here⟩
      · exact ih later
  | case2 x y =>
      have bounds := And.intro x.toNat_lt y.toNat_lt
      simp only [encodeChars, List.mem_cons, List.not_mem_nil, or_false] at member
      obtain here | here | here := member
      · exact ⟨_, by omega, here⟩
      · exact ⟨_, Nat.mod_lt _ (by omega), here⟩
      · exact ⟨_, Nat.mod_lt _ (by omega), here⟩
  | case3 x =>
      have bound := x.toNat_lt
      simp only [encodeChars, List.mem_cons, List.not_mem_nil, or_false] at member
      obtain here | here := member
      · exact ⟨_, by omega, here⟩
      · exact ⟨_, by omega, here⟩
  | case4 => cases member

theorem encode_dotless (bytes : List UInt8) : '.' ∉ (encode bytes).toList := by
  rw [encode, String.toList_ofList]
  intro member
  obtain ⟨n, small, same⟩ := exists_charOf_of_mem member
  have value := valueOf?_charOf small
  rw [← same] at value
  cases value

/-! ## Strictness -/

/-- A character that has a value is the one that stands for it. -/
theorem charOf_of_valueOf? {c : Char} {n : Nat} (value : valueOf? c = some n) :
    n < 64 ∧ charOf n = c := by
  have restored : Char.ofNat c.toNat = c := Char.ofNat_toNat c
  have between {a b : Char} (range : (a ≤ c && c ≤ b) = true) :
      a.toNat ≤ c.toNat ∧ c.toNat ≤ b.toNat := by
    simpa only [Bool.and_eq_true, decide_eq_true_eq] using! range
  unfold valueOf? at value
  split_ifs at value with upper lower digit dash underscore <;> obtain rfl := Option.some.inj value
  · obtain ⟨low, high⟩ : 65 ≤ c.toNat ∧ c.toNat ≤ 90 := between upper
    refine ⟨by omega, ?_⟩
    rw [charOf, if_pos (by omega), Nat.add_sub_cancel' low, restored]
  · obtain ⟨low, high⟩ : 97 ≤ c.toNat ∧ c.toNat ≤ 122 := between lower
    refine ⟨by omega, ?_⟩
    rw [charOf, if_neg (by omega), if_pos (by omega), Nat.add_sub_cancel' (by omega), restored]
  · obtain ⟨low, high⟩ : 48 ≤ c.toNat ∧ c.toNat ≤ 57 := between digit
    refine ⟨by omega, ?_⟩
    rw [charOf, if_neg (by omega), if_neg (by omega), if_pos (by omega), Nat.add_sub_cancel,
      restored]
  · exact ⟨by decide, (beq_iff_eq.mp dash).symm⟩
  · exact ⟨by decide, (beq_iff_eq.mp underscore).symm⟩

theorem encodeChars_four {w x y z n : Nat} (bounds : w < 64 ∧ x < 64 ∧ y < 64 ∧ z < 64)
    (joined : n = (w * 64 + x) * 4096 + y * 64 + z) (bytes : List UInt8) :
    encodeChars (UInt8.ofNat (n / 65536) :: UInt8.ofNat (n / 256 % 256) :: UInt8.ofNat (n % 256) ::
      bytes) = charOf w :: charOf x :: charOf y :: charOf z :: encodeChars bytes := by
  obtain ⟨boundW, boundX, boundY, boundZ⟩ := bounds
  have whole : n / 65536 * 65536 + n / 256 % 256 * 256 + n % 256 = n := by omega
  have sextets : n / 262144 = w ∧ n / 4096 % 64 = x ∧ n / 64 % 64 = y ∧ n % 64 = z := by omega
  rw [encodeChars]
  simp only [UInt8.toNat_ofNat_of_lt' (show n / 65536 < 256 by omega),
    UInt8.toNat_ofNat_of_lt' (show n / 256 % 256 < 256 by omega),
    UInt8.toNat_ofNat_of_lt' (show n % 256 < 256 by omega), whole, sextets]

theorem encodeChars_two {x y z n : Nat} (bounds : x < 64 ∧ y < 64 ∧ z < 64)
    (joined : n = x * 4096 + y * 64 + z) (blank : n % 4 = 0) :
    encodeChars [UInt8.ofNat (n / 1024), UInt8.ofNat (n / 4 % 256)] =
      [charOf x, charOf y, charOf z] := by
  obtain ⟨boundX, boundY, boundZ⟩ := bounds
  have whole : n / 1024 * 1024 + n / 4 % 256 * 4 = n := by omega
  have sextets : n / 4096 = x ∧ n / 64 % 64 = y ∧ n % 64 = z := by omega
  rw [encodeChars]
  simp only [UInt8.toNat_ofNat_of_lt' (show n / 1024 < 256 by omega),
    UInt8.toNat_ofNat_of_lt' (show n / 4 % 256 < 256 by omega), whole, sextets]

theorem encodeChars_one {y z n : Nat} (bounds : y < 64 ∧ z < 64) (joined : n = y * 64 + z)
    (blank : n % 16 = 0) : encodeChars [UInt8.ofNat (n / 16)] = [charOf y, charOf z] := by
  obtain ⟨boundY, boundZ⟩ := bounds
  have sextets : n / 16 / 4 = y ∧ n / 16 % 4 * 16 = z := by omega
  rw [encodeChars, UInt8.toNat_ofNat_of_lt' (show n / 16 < 256 by omega), sextets.1, sextets.2]

/-- What is decoded is encoded as it was written: padding, other characters and left-over bits
have been refused. -/
theorem encodeChars_of_decodeChars? {cs : List Char} {bytes : List UInt8}
    (decoded : decodeChars? cs = some bytes) : encodeChars bytes = cs := by
  induction cs using decodeChars?.induct generalizing bytes with
  | case1 a b c d rest ih =>
      simp only [decodeChars?, Option.bind_eq_bind, Option.bind_eq_some_iff, Option.some.injEq]
        at decoded
      obtain ⟨w, valueA, x, valueB, y, valueC, z, valueD, more, inner, rfl⟩ := decoded
      obtain ⟨boundW, rfl⟩ := charOf_of_valueOf? valueA
      obtain ⟨boundX, rfl⟩ := charOf_of_valueOf? valueB
      obtain ⟨boundY, rfl⟩ := charOf_of_valueOf? valueC
      obtain ⟨boundZ, rfl⟩ := charOf_of_valueOf? valueD
      rw [encodeChars_four ⟨boundW, boundX, boundY, boundZ⟩ rfl, ih inner]
  | case2 a b c =>
      simp only [decodeChars?, Option.bind_eq_bind, Option.bind_eq_some_iff,
        Option.ite_none_right_eq_some, Option.some.injEq, beq_iff_eq] at decoded
      obtain ⟨x, valueA, y, valueB, z, valueC, blank, rfl⟩ := decoded
      obtain ⟨boundX, rfl⟩ := charOf_of_valueOf? valueA
      obtain ⟨boundY, rfl⟩ := charOf_of_valueOf? valueB
      obtain ⟨boundZ, rfl⟩ := charOf_of_valueOf? valueC
      exact encodeChars_two ⟨boundX, boundY, boundZ⟩ rfl blank
  | case3 a b =>
      simp only [decodeChars?, Option.bind_eq_bind, Option.bind_eq_some_iff,
        Option.ite_none_right_eq_some, Option.some.injEq, beq_iff_eq] at decoded
      obtain ⟨y, valueA, z, valueB, blank, rfl⟩ := decoded
      obtain ⟨boundY, rfl⟩ := charOf_of_valueOf? valueA
      obtain ⟨boundZ, rfl⟩ := charOf_of_valueOf? valueB
      exact encodeChars_one ⟨boundY, boundZ⟩ rfl blank
  | case4 a => cases decoded
  | case5 =>
      obtain rfl := Option.some.inj decoded
      rfl

/-- Each text is decoded as nothing, or as the bytes whose encoding it is. -/
theorem decode?_eq_some_iff {text : String} {bytes : List UInt8} :
    decode? text = some bytes ↔ text = encode bytes := by
  constructor
  · intro decoded
    rw [encode, encodeChars_of_decodeChars? decoded, String.ofList_toList]
  · rintro rfl
    exact decode?_encode bytes

end HttpService.Encoding.Base64Url

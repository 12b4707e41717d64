import HttpService.Proofs.Token.RoundTrip

/-!
# The last segment of a token

Under a secret, a header and claims call for one signature, and a signature has one text. So two
tokens that are accepted differ in their first two segments, and a valid token is refused once its
last segment is changed in any way.
-/

namespace HttpService

namespace TokenMaker

variable {m : TokenMaker} {revoked : RevocationList} {token h c s : String} {now : Instant}
  {p : Claims}

/-- The text of the signature that two segments call for, if the first is a header that names an
algorithm. -/
def signatureOf? (m : TokenMaker) (h c : String) : Option String := do
  let header ← decodeSegment? TokenHeader.reader h
  let algorithm ← Algorithm.ofName? header.algorithm
  some (Encoding.Base64Url.encode (algorithm.sign m.secret (Text.utf8 (h ++ "." ++ c))))

theorem Segmented.unique {h' c' s' : String} (segmented : Segmented token h c s)
    (again : Segmented token h' c' s') : h' = h ∧ c' = c ∧ s' = s := by
  have found := segments?_eq_some_iff.mpr segmented
  rw [segments?_eq_some_iff.mpr again] at found
  simpa using found

theorem signatureOf?_of_headed {header : TokenHeader} {a : Algorithm}
    (headed : Headed token h c s header) (named : header.algorithm = a.name) :
    m.signatureOf? h c =
      some (Encoding.Base64Url.encode (a.sign m.secret (Text.utf8 (h ++ "." ++ c)))) := by
  unfold signatureOf?
  simp only [headed.header, Algorithm.ofName?_eq_some_iff.mpr named, Option.bind_eq_bind,
    Option.bind_some]

/-- A token is signed if and only if its last segment is the one that the others call for. -/
theorem signed_iff (segmented : Segmented token h c s) :
    m.Signed token c ↔ m.signatureOf? h c = some s := by
  constructor
  · rintro ⟨h', s', header, a, headed, named, code⟩
    obtain ⟨rfl, -, rfl⟩ := segmented.unique headed.segmented
    rw [signatureOf?_of_headed headed named, Encoding.Base64Url.decode?_eq_some_iff.mp code]
  · intro called
    simp only [signatureOf?, Option.bind_eq_bind, Option.bind_eq_some_iff, Option.some.injEq]
      at called
    obtain ⟨header, read, a, found, rfl⟩ := called
    exact ⟨h, _, header, a, ⟨segmented, read⟩, Algorithm.ofName?_eq_some_iff.mp found,
      Encoding.Base64Url.decode?_encode _⟩

theorem Signed.segmented (signed : m.Signed token c) : ∃ h s, Segmented token h c s := by
  obtain ⟨h, s, header, a, headed, -, -⟩ := signed
  exact ⟨h, s, headed.segmented⟩

theorem Carries.signed {c' : String} (carries : m.Carries token p)
    (segmented : Segmented token h c' s) : m.Signed token c' := by
  obtain ⟨c, signed, -⟩ := carries
  obtain ⟨h', s', again⟩ := signed.segmented
  obtain ⟨-, rfl, -⟩ := segmented.unique again
  exact signed

/-- The last segment of an accepted token is the one that the others call for. -/
theorem Accepted.signature (accepted : m.Accepted revoked token now p)
    (segmented : Segmented token h c s) : m.signatureOf? h c = some s :=
  (signed_iff segmented).mp (accepted.carries.signed segmented)

theorem Accepted.segmented (accepted : m.Accepted revoked token now p) :
    ∃ h c s, Segmented token h c s := by
  obtain ⟨c, signed, -⟩ := accepted.carries
  obtain ⟨h, s, segmented⟩ := signed.segmented
  exact ⟨h, c, s, segmented⟩

theorem Segmented.split (segmented : Segmented token h c s) :
    Text.split '.' token = [h, c, s] :=
  split_eq_three_iff.mpr ⟨segmented.whole, segmented.dotless⟩

/-! ## Another last segment -/

variable {t : String}

/-- Whatever stands in the place of the last segment, the first two are read as before. -/
theorem Segmented.of_replaced {h' c' t' : String} (segmented : Segmented token h c s)
    (replaced : Segmented (h ++ "." ++ c ++ "." ++ t) h' c' t') : h' = h ∧ c' = c ∧ t' = t := by
  obtain ⟨dotlessH, dotlessC, -⟩ := segmented.dotless
  have pieces : Text.splitChars '.' (h ++ "." ++ c ++ "." ++ t).toList =
      h.toList :: c.toList :: Text.splitChars '.' t.toList := by
    simp only [String.toList_append, String.reduceToList, List.append_assoc, List.cons_append,
      List.nil_append]
    rw [Text.splitChars_append dotlessH, Text.splitChars_append dotlessC]
  have three : Text.splitChars '.' (h ++ "." ++ c ++ "." ++ t).toList =
      [h'.toList, c'.toList, t'.toList] := by
    rw [Text.splitChars_eq_three_iff, replaced.whole]
    exact ⟨by simp, replaced.dotless⟩
  rw [three, List.cons.injEq, List.cons.injEq] at pieces
  obtain ⟨first, second, last⟩ := pieces
  have joined := Text.intercalate_splitChars '.' t.toList
  rw [← last] at joined
  exact ⟨String.toList_inj.mp first, String.toList_inj.mp second,
    String.toList_inj.mp (by simpa [List.intercalate] using joined)⟩

/-- Two segments call for no more than one signature. -/
theorem not_signed_of_replaced (segmented : Segmented token h c s)
    (called : m.signatureOf? h c = some s) (other : t ≠ s) (c' : String) :
    ¬ m.Signed (h ++ "." ++ c ++ "." ++ t) c' := by
  intro signed
  obtain ⟨h', t', replaced⟩ := signed.segmented
  obtain ⟨rfl, rfl, rfl⟩ := segmented.of_replaced replaced
  rw [(signed_iff replaced).mp signed] at called
  exact other (Option.some.inj called)

/-- A token that is not signed is refused as an invalid one, if its header names an algorithm. -/
theorem Refused.of_not_signed {f : Failure} (refused : m.Refused revoked token now f)
    (named : ∀ h c s header, Headed token h c s header → ∃ a : Algorithm, header.algorithm = a.name)
    (unsigned : ∀ c, ¬ m.Signed token c) : ∃ message, f = .new .invalidToken message := by
  cases refused with
  | algorithm headed unknown =>
      obtain ⟨a, known⟩ := named _ _ _ _ headed
      exact absurd known (unknown a)
  | expired carries passed =>
      obtain ⟨c, signed, -⟩ := carries
      exact absurd signed (unsigned c)
  | shape | header | encoding | signature | claims | issuer | revoked => exact ⟨_, rfl⟩

theorem refused_of_replaced (accepted : m.Accepted revoked token now p)
    (segmented : Segmented token h c s) (other : t ≠ s) (revoked' : RevocationList)
    (now' : Instant) :
    ∃ message, m.verifyAt revoked' (h ++ "." ++ c ++ "." ++ t) now' =
      .error (.new .invalidToken message) := by
  have unsigned := not_signed_of_replaced (m := m) segmented (accepted.signature segmented) other
  have named : ∀ h' c' t' header, Headed (h ++ "." ++ c ++ "." ++ t) h' c' t' header →
      ∃ a : Algorithm, header.algorithm = a.name := by
    intro h' c' t' header headed
    obtain ⟨rfl, -, -⟩ := segmented.of_replaced headed.segmented
    obtain ⟨c, ⟨h, s, header', a, headed', known, -⟩, -⟩ := accepted.carries
    obtain ⟨rfl, -, -⟩ := segmented.unique headed'.segmented
    have same := headed.header
    rw [headed'.header] at same
    exact ⟨a, Option.some.inj same ▸ known⟩
  obtain ⟨q, valid⟩ | ⟨f, refused⟩ :=
    accepted_or_refused m revoked' (h ++ "." ++ c ++ "." ++ t) now'
  · obtain ⟨c', signed, -⟩ := valid.carries
    exact absurd signed (unsigned c')
  · obtain ⟨message, rfl⟩ := refused.of_not_signed named unsigned
    exact ⟨message, verifyAt_of_refused refused⟩

/-- Two tokens that are accepted, at any times and with any lists of revoked tokens, are the same if
they agree on their first two segments. And a token that is accepted is refused as an invalid one, at
any time and with any list, if another text stands in the place of its last segment. -/
theorem signature_unique (m : TokenMaker) :
    (∀ token token' revoked revoked' now now' p p',
      m.verifyAt revoked token now = .ok p → m.verifyAt revoked' token' now' = .ok p' →
        (Text.split '.' token).take 2 = (Text.split '.' token').take 2 → token = token') ∧
    ∀ token h c s revoked now p, m.verifyAt revoked token now = .ok p → Segmented token h c s →
      ∀ t, t ≠ s → ∀ revoked' now', ∃ message,
        m.verifyAt revoked' (h ++ "." ++ c ++ "." ++ t) now' =
          .error (.new .invalidToken message) := by
  constructor
  · intro token token' revoked revoked' now now' p p' verified verified' agree
    have accepted := accepted_of_verifyAt verified
    have accepted' := accepted_of_verifyAt verified'
    obtain ⟨h, c, s, segmented⟩ := accepted.segmented
    obtain ⟨h', c', s', segmented'⟩ := accepted'.segmented
    rw [segmented.split, segmented'.split] at agree
    obtain ⟨rfl, rfl⟩ : h = h' ∧ c = c' := by simpa using agree
    have called := accepted.signature segmented
    rw [accepted'.signature segmented'] at called
    rw [segmented.whole, segmented'.whole, Option.some.inj called]
  · intro token h c s revoked now p verified segmented t other revoked' now'
    exact refused_of_replaced (accepted_of_verifyAt verified) segmented other revoked' now'

/-- The signature of a token for an hour with padding, with one more character, before a fourth
segment, and left out. -/
theorem signature_unique_changed :
    ∃ (m : TokenMaker) (h c s : String) (p : Claims),
      m.verifyAt .empty (h ++ "." ++ c ++ "." ++ s) ⟨0⟩ = .ok p ∧
      ∀ t ∈ [s ++ "=", s ++ "A", s ++ ".A", ""], ∃ message,
        m.verifyAt .empty (h ++ "." ++ c ++ "." ++ t) ⟨0⟩ = .error (.new .invalidToken message) := by
  let m : TokenMaker := { secret := List.replicate 32 7, algorithm := .hs512 }
  let p := m.claims ⟨1⟩ "ada" "user-1" 3600000000000 ⟨0⟩
  have issued : m.create? ⟨1⟩ "ada" "user-1" 3600000000000 ⟨0⟩ = some (m.encode p, p) :=
    create?_eq_some_iff.mpr ⟨rfl, by decide, rfl⟩
  have accepted : m.Accepted .empty (m.encode p) ⟨0⟩ p.wholeSeconds :=
    ⟨carries_of_create? (by decide) issued, by decide, fun _ asked => asked, rfl⟩
  have verified := verifyAt_of_accepted accepted
  obtain ⟨h, c, s, segmented⟩ := accepted.segmented
  obtain ⟨-, changed⟩ := signature_unique m
  refine ⟨m, h, c, s, _, segmented.whole ▸ verified, fun t member => ?_⟩
  refine changed _ h c s _ _ _ verified segmented t ?_ .empty ⟨0⟩
  have full := segmented.nonempty.2.2
  simp only [List.mem_cons, List.not_mem_nil, or_false] at member
  obtain rfl | rfl | rfl | rfl := member
  · simp
  · simp
  · simp
  · exact full.symm

end TokenMaker

end HttpService

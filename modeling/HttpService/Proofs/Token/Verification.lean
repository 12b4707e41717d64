import HttpService.Proofs.Text.Split
import HttpService.Token.Maker
import Mathlib.Data.List.Basic

/-!
# Verification

Which tokens are valid, and why a token that is not is refused. The conditions are nested: a token
is segmented, has a header, is signed, carries claims, and only then do its expiry, its issuer and
the revocation list count. A refusal names the first condition that fails.
-/

namespace HttpService

theorem Algorithm.ofName?_eq_some_iff {s : String} {a : Algorithm} :
    ofName? s = some a ↔ s = a.name := by
  constructor
  · intro found
    have named := List.find?_some found
    exact (beq_iff_eq.mp named).symm
  · intro same
    subst same
    cases a <;> decide

theorem Algorithm.ofName?_eq_none_iff {s : String} :
    ofName? s = none ↔ ∀ a : Algorithm, s ≠ a.name := by
  rw [Option.eq_none_iff_forall_ne_some]
  exact forall_congr' fun _ => not_congr ofName?_eq_some_iff

namespace TokenMaker

/-- Three non-empty segments without dots, with dots between them. -/
structure Segmented (token header claims signature : String) : Prop where
  whole : token = header ++ "." ++ claims ++ "." ++ signature
  dotless : '.' ∉ header.toList ∧ '.' ∉ claims.toList ∧ '.' ∉ signature.toList
  nonempty : header ≠ "" ∧ claims ≠ "" ∧ signature ≠ ""

theorem split_eq_three_iff {token h c s : String} :
    Text.split '.' token = [h, c, s] ↔
      token = h ++ "." ++ c ++ "." ++ s ∧ '.' ∉ h.toList ∧ '.' ∉ c.toList ∧ '.' ∉ s.toList := by
  have pieces : Text.split '.' token = [h, c, s] ↔
      Text.splitChars '.' token.toList = [h.toList, c.toList, s.toList] := by
    have back : [h, c, s] = [h.toList, c.toList, s.toList].map String.ofList := by simp
    rw [Text.split, back]
    exact (List.map_injective_iff.mpr fun _ _ same => String.ofList_injective same).eq_iff
  rw [pieces, Text.splitChars_eq_three_iff, ← String.toList_inj]
  simp

theorem segments?_eq_some_iff {token h c s : String} :
    segments? token = some (h, c, s) ↔ Segmented token h c s := by
  constructor
  · intro found
    unfold segments? at found
    split at found
    · next pieces =>
        split at found
        · cases found
        · next full =>
            cases found
            obtain ⟨whole, dotless⟩ := split_eq_three_iff.mp pieces
            simp only [Bool.or_eq_true, String.isEmpty_iff, not_or, and_assoc] at full
            exact ⟨whole, dotless, full⟩
    · cases found
  · rintro ⟨whole, dotless, nonempty⟩
    unfold segments?
    rw [split_eq_three_iff.mpr ⟨whole, dotless⟩]
    simp [String.isEmpty_iff, nonempty]

theorem segments?_eq_none_iff {token : String} :
    segments? token = none ↔ ¬ ∃ h c s, Segmented token h c s := by
  constructor
  · rintro none ⟨h, c, s, segmented⟩
    rw [segments?_eq_some_iff.mpr segmented] at none
    cases none
  · intro unsegmented
    cases found : segments? token with
    | none => rfl
    | some segments =>
        obtain ⟨h, c, s⟩ := segments
        exact absurd ⟨h, c, s, segments?_eq_some_iff.mp found⟩ unsegmented

/-- The first segment of a token is read as a header. -/
structure Headed (token h c s : String) (header : TokenHeader) : Prop where
  segmented : Segmented token h c s
  header : decodeSegment? TokenHeader.reader h = some header

/-- The last segment of a token is the code of the others, as they are written, under the algorithm
that the header names and the maker's secret. -/
inductive Signed (m : TokenMaker) (token c : String) : Prop where
  | intro (h s : String) (header : TokenHeader) (algorithm : Algorithm)
      (headed : Headed token h c s header) (named : header.algorithm = algorithm.name)
      (code : Encoding.Base64Url.decode? s =
        some (algorithm.sign m.secret (Text.utf8 (h ++ "." ++ c))))

/-- The middle segment of a signed token is read as these claims. -/
def Carries (m : TokenMaker) (token : String) (p : Claims) : Prop :=
  ∃ c, Signed m token c ∧ decodeSegment? Claims.reader c = some p

/-- The claims have the issuer that the maker asks for, if it asks for one. -/
def IssuerFits (m : TokenMaker) (p : Claims) : Prop :=
  ∀ issuer, m.issuer = some issuer → p.issuer = some issuer

/-- Why a token is refused: one of the conditions fails, and those before it hold. -/
inductive Refused (m : TokenMaker) (revoked : RevocationList) (token : String) (now : Instant) :
    Failure → Prop where
  | shape (unsegmented : ¬ ∃ h c s, Segmented token h c s) :
      Refused m revoked token now (.new .invalidToken "malformed token")
  | header {h c s : String} (segmented : Segmented token h c s)
      (unread : decodeSegment? TokenHeader.reader h = none) :
      Refused m revoked token now (.new .invalidToken "malformed token header")
  | algorithm {h c s : String} {header : TokenHeader} (headed : Headed token h c s header)
      (unknown : ∀ a : Algorithm, header.algorithm ≠ a.name) :
      Refused m revoked token now
        (.new .invalidSigningMethod ("unexpected signing method: " ++ header.algorithm))
  | encoding {h c s : String} {header : TokenHeader} {a : Algorithm}
      (headed : Headed token h c s header) (named : header.algorithm = a.name)
      (undecoded : Encoding.Base64Url.decode? s = none) :
      Refused m revoked token now (.new .invalidToken "malformed token signature")
  | signature {h c s : String} {header : TokenHeader} {a : Algorithm} {code : List UInt8}
      (headed : Headed token h c s header) (named : header.algorithm = a.name)
      (decoded : Encoding.Base64Url.decode? s = some code)
      (different : code ≠ a.sign m.secret (Text.utf8 (h ++ "." ++ c))) :
      Refused m revoked token now (.new .invalidToken "token signature mismatch")
  | claims {c : String} (signed : Signed m token c)
      (unread : decodeSegment? Claims.reader c = none) :
      Refused m revoked token now (.new .invalidToken "malformed token claims")
  | expired {p : Claims} (carries : Carries m token p) (passed : p.expiresAt.nanos ≤ now.nanos) :
      Refused m revoked token now (.new .expiredToken "token has expired")
  | issuer {p : Claims} (carries : Carries m token p) (current : now.nanos < p.expiresAt.nanos)
      (other : ¬ IssuerFits m p) :
      Refused m revoked token now (.new .invalidToken "unexpected token issuer")
  | revoked {p : Claims} (carries : Carries m token p) (current : now.nanos < p.expiresAt.nanos)
      (issued : IssuerFits m p) (listed : revoked.isRevoked p.id = true) :
      Refused m revoked token now (.new .invalidToken "token has been revoked")

/-- What makes a token valid, with the claims that verification gives. -/
structure Accepted (m : TokenMaker) (revoked : RevocationList) (token : String) (now : Instant)
    (p : Claims) : Prop where
  carries : Carries m token p
  current : now.nanos < p.expiresAt.nanos
  issued : IssuerFits m p
  unlisted : revoked.isRevoked p.id = false

/-! ## The steps of verification -/

theorem issuerFits_iff {m : TokenMaker} {p : Claims} :
    (m.issuer.isNone || p.issuer == m.issuer) = true ↔ IssuerFits m p := by
  unfold IssuerFits
  cases m.issuer with
  | none => simp
  | some issuer => simp

instance (m : TokenMaker) (p : Claims) : Decidable (IssuerFits m p) :=
  decidable_of_iff _ issuerFits_iff

/-- The last three steps: expiry, issuer, revocation. -/
def judge (m : TokenMaker) (revoked : RevocationList) (now : Instant) (p : Claims) :
    Except Failure Claims :=
  if p.expiresAt.nanos ≤ now.nanos then .error (.new .expiredToken "token has expired")
  else if ¬ IssuerFits m p then .error (.new .invalidToken "unexpected token issuer")
  else if revoked.isRevoked p.id then .error (.new .invalidToken "token has been revoked")
  else .ok p

theorem orFail_some_bind {α β : Type} (x : α) (f : Failure) (k : α → Except Failure β) :
    (orFail (some x) f >>= k) = k x := rfl

theorem orFail_none_bind {α β : Type} (f : Failure) (k : α → Except Failure β) :
    (orFail none f >>= k) = .error f := rfl

theorem require_bind {β : Type} (condition : Bool) (f : Failure) (k : Unit → Except Failure β) :
    (require condition f >>= k) = if condition then k () else .error f := by
  cases condition <;> rfl

section

variable {m : TokenMaker} {revoked : RevocationList} {token h c s : String} {now : Instant}
  {header : TokenHeader} {a : Algorithm} {p : Claims}

theorem checks_eq_judge (m : TokenMaker) (revoked : RevocationList) (now : Instant) (p : Claims) :
    (do
      require (!p.expiredAt now) (.new .expiredToken "token has expired")
      require (m.issuer.isNone || p.issuer == m.issuer) (invalid "unexpected token issuer")
      require (!revoked.isRevoked p.id) (invalid "token has been revoked")
      .ok p : Except Failure Claims) = judge m revoked now p := by
  simp only [require_bind, issuerFits_iff, judge, Claims.expiredAt, Instant.le]
  by_cases passed : p.expiresAt.nanos ≤ now.nanos
  · simp [passed]
  · by_cases issued : IssuerFits m p
    · cases revoked.isRevoked p.id <;> simp [passed, issued, invalid]
    · simp [passed, issued, invalid]

/-- Once the header is read and names an algorithm. -/
theorem verifyAt_of_headed (revoked : RevocationList) (now : Instant)
    (headed : Headed token h c s header) (named : header.algorithm = a.name) :
    verifyAt m revoked token now = (do
      let signature ← orFail (Encoding.Base64Url.decode? s) (invalid "malformed token signature")
      require (a.verify m.secret (Text.utf8 (h ++ "." ++ c)) signature)
        (invalid "token signature mismatch")
      let p ← orFail (decodeSegment? Claims.reader c) (invalid "malformed token claims")
      judge m revoked now p) := by
  unfold verifyAt
  rw [segments?_eq_some_iff.mpr headed.segmented, orFail_some_bind]
  simp only [headed.header, orFail_some_bind, Algorithm.ofName?_eq_some_iff.mpr named,
    checks_eq_judge]

theorem verifyAt_of_signed (revoked : RevocationList) (now : Instant) (signed : Signed m token c) :
    verifyAt m revoked token now = (do
      let p ← orFail (decodeSegment? Claims.reader c) (invalid "malformed token claims")
      judge m revoked now p) := by
  obtain ⟨h, s, header, a, headed, named, code⟩ := signed
  rw [verifyAt_of_headed revoked now headed named, code, orFail_some_bind, require_bind]
  simp [Algorithm.verify]

theorem verifyAt_of_carries (revoked : RevocationList) (now : Instant)
    (carries : Carries m token p) : verifyAt m revoked token now = judge m revoked now p := by
  obtain ⟨c, signed, read⟩ := carries
  rw [verifyAt_of_signed revoked now signed, read, orFail_some_bind]

/-! ## Both answers -/

theorem verifyAt_of_accepted (accepted : Accepted m revoked token now p) :
    verifyAt m revoked token now = .ok p := by
  obtain ⟨carries, current, issued, unlisted⟩ := accepted
  rw [verifyAt_of_carries revoked now carries, judge, if_neg (by omega),
    if_neg (not_not.mpr issued)]
  simp [unlisted]

theorem verifyAt_of_refused {f : Failure} (refused : Refused m revoked token now f) :
    verifyAt m revoked token now = .error f := by
  cases refused with
  | shape unsegmented =>
      unfold verifyAt
      rw [segments?_eq_none_iff.mpr unsegmented, orFail_none_bind, invalid]
  | header segmented unread =>
      unfold verifyAt
      rw [segments?_eq_some_iff.mpr segmented, orFail_some_bind]
      simp only [unread, orFail_none_bind, invalid]
  | algorithm headed unknown =>
      unfold verifyAt
      rw [segments?_eq_some_iff.mpr headed.segmented, orFail_some_bind]
      simp only [headed.header, orFail_some_bind, Algorithm.ofName?_eq_none_iff.mpr unknown,
        orFail_none_bind]
  | encoding headed named undecoded =>
      rw [verifyAt_of_headed revoked now headed named, undecoded, orFail_none_bind, invalid]
  | signature headed named decoded different =>
      rw [verifyAt_of_headed revoked now headed named, decoded, orFail_some_bind, require_bind]
      simp [Algorithm.verify, different, invalid]
  | claims signed unread =>
      rw [verifyAt_of_signed revoked now signed, unread, orFail_none_bind, invalid]
  | expired carries passed =>
      rw [verifyAt_of_carries revoked now carries, judge, if_pos passed]
  | issuer carries current other =>
      rw [verifyAt_of_carries revoked now carries, judge, if_neg (by omega), if_pos other]
  | revoked carries current issued listed =>
      rw [verifyAt_of_carries revoked now carries, judge, if_neg (by omega),
        if_neg (not_not.mpr issued), if_pos listed]

theorem accepted_or_refused_of_carries (revoked : RevocationList) (now : Instant)
    (carries : Carries m token p) :
    Accepted m revoked token now p ∨ ∃ f, Refused m revoked token now f := by
  by_cases passed : p.expiresAt.nanos ≤ now.nanos
  · exact .inr ⟨_, .expired carries passed⟩
  have current : now.nanos < p.expiresAt.nanos := by omega
  by_cases issued : IssuerFits m p
  · cases listed : revoked.isRevoked p.id with
    | true => exact .inr ⟨_, .revoked carries current issued listed⟩
    | false => exact .inl ⟨carries, current, issued, listed⟩
  · exact .inr ⟨_, .issuer carries current issued⟩

theorem accepted_or_refused_of_headed (headed : Headed token h c s header)
    (named : header.algorithm = a.name) :
    (∃ p, Accepted m revoked token now p) ∨ ∃ f, Refused m revoked token now f := by
  cases decoded : Encoding.Base64Url.decode? s with
  | none => exact .inr ⟨_, .encoding headed named decoded⟩
  | some code =>
      by_cases same : code = a.sign m.secret (Text.utf8 (h ++ "." ++ c))
      · have signed : Signed m token c := ⟨h, s, header, a, headed, named, same ▸ decoded⟩
        cases read : decodeSegment? Claims.reader c with
        | none => exact .inr ⟨_, .claims signed read⟩
        | some p =>
            have answered := accepted_or_refused_of_carries revoked now ⟨c, signed, read⟩
            exact answered.imp_left fun accepted => ⟨p, accepted⟩
      · exact .inr ⟨_, .signature headed named decoded same⟩

/-- The conditions leave no token out. -/
theorem accepted_or_refused (m : TokenMaker) (revoked : RevocationList) (token : String)
    (now : Instant) :
    (∃ p, Accepted m revoked token now p) ∨ ∃ f, Refused m revoked token now f := by
  by_cases segmented : ∃ h c s, Segmented token h c s
  · obtain ⟨h, c, s, segmented⟩ := segmented
    cases read : decodeSegment? TokenHeader.reader h with
    | none => exact .inr ⟨_, .header segmented read⟩
    | some header =>
        have headed : Headed token h c s header := ⟨segmented, read⟩
        by_cases named : ∃ a : Algorithm, header.algorithm = a.name
        · obtain ⟨a, named⟩ := named
          exact accepted_or_refused_of_headed headed named
        · exact .inr ⟨_, .algorithm headed (not_exists.mp named)⟩
  · exact .inr ⟨_, .shape segmented⟩

theorem accepted_of_verifyAt (verified : verifyAt m revoked token now = .ok p) :
    Accepted m revoked token now p := by
  obtain ⟨q, accepted⟩ | ⟨f, refused⟩ := accepted_or_refused m revoked token now
  · rw [verifyAt_of_accepted accepted] at verified
    cases verified
    exact accepted
  · rw [verifyAt_of_refused refused] at verified
    cases verified

theorem refused_of_verifyAt {f : Failure} (failed : verifyAt m revoked token now = .error f) :
    Refused m revoked token now f := by
  obtain ⟨q, accepted⟩ | ⟨g, refused⟩ := accepted_or_refused m revoked token now
  · rw [verifyAt_of_accepted accepted] at failed
    cases failed
  · rw [verifyAt_of_refused refused] at failed
    cases failed
    exact refused

/-! ## What the list matters for -/

section

variable {other : RevocationList}

theorem Accepted.of_list (accepted : Accepted m revoked token now p)
    (same : revoked.isRevoked p.id = other.isRevoked p.id) : Accepted m other token now p :=
  { accepted with unlisted := same ▸ accepted.unlisted }

theorem Refused.of_list {f : Failure} (refused : Refused m revoked token now f)
    (same : ∀ p, Carries m token p → revoked.isRevoked p.id = other.isRevoked p.id) :
    Refused m other token now f := by
  cases refused with
  | shape unsegmented => exact .shape unsegmented
  | header segmented unread => exact .header segmented unread
  | algorithm headed unknown => exact .algorithm headed unknown
  | encoding headed named undecoded => exact .encoding headed named undecoded
  | signature headed named decoded different => exact .signature headed named decoded different
  | claims signed unread => exact .claims signed unread
  | expired carries passed => exact .expired carries passed
  | issuer carries current other => exact .issuer carries current other
  | revoked carries current issued listed =>
      exact .revoked carries current issued (same _ carries ▸ listed)

/-- A list counts only by whether it has the id that the token carries. -/
theorem verifyAt_of_list
    (same : ∀ p, Carries m token p → revoked.isRevoked p.id = other.isRevoked p.id) :
    verifyAt m revoked token now = verifyAt m other token now := by
  obtain ⟨p, accepted⟩ | ⟨f, refused⟩ := accepted_or_refused m revoked token now
  · rw [verifyAt_of_accepted accepted,
      verifyAt_of_accepted (accepted.of_list (same p accepted.carries))]
  · rw [verifyAt_of_refused refused, verifyAt_of_refused (refused.of_list same)]

end

end

/-- Verification gives the claims of exactly the valid tokens, and refuses every other with the
failure of the first condition that it breaks. -/
theorem verification_exact (m : TokenMaker) (revoked : RevocationList) (token : String)
    (now : Instant) :
    (∀ p, verifyAt m revoked token now = .ok p ↔ Accepted m revoked token now p) ∧
      ∀ f, verifyAt m revoked token now = .error f ↔ Refused m revoked token now f :=
  ⟨fun _ => ⟨accepted_of_verifyAt, verifyAt_of_accepted⟩,
    fun _ => ⟨refused_of_verifyAt, verifyAt_of_refused⟩⟩

end TokenMaker

end HttpService

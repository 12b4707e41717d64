import HttpService.Proofs.Access.Credential
import HttpService.Proofs.Token.Encoding

/-!
# Issued tokens

What a maker issues carries the claims that it was issued for, and is written in characters that a
header can have. A request that has it after the scheme presents it.
-/

namespace HttpService

/-! ## Codes -/

namespace Crypto.Sha2

variable {w : Nat}

theorem length_bigEndian (n value : Nat) : (bigEndian n value).length = n := by
  simp [bigEndian]

theorem length_compress (p : Sha2 w) {hash : List (BitVec w)} (eight : hash.length = 8)
    (block : List UInt8) : (p.compress hash block).length = 8 := by
  simp [compress, State.toList, eight]

/-- A digest is never shorter than its words allow. -/
theorem length_digest (p : Sha2 w) (eight : p.start.length = 8) (message : List UInt8) :
    (p.digest message).length = min p.size (8 * wordBytes w) := by
  have words : ∀ (blocks : List (List UInt8)) (hash : List (BitVec w)), hash.length = 8 →
      (blocks.foldl p.compress hash).length = 8 := by
    intro blocks
    induction blocks with
    | nil => exact fun _ eight => eight
    | cons block blocks ih => exact fun _ eight => ih _ (p.length_compress eight block)
  unfold digest
  simp only [List.length_take, List.length_flatMap, length_bigEndian, List.map_const',
    words _ _ eight, List.sum_replicate_nat]

end Crypto.Sha2

theorem Algorithm.sign_ne_nil (a : Algorithm) (secret message : List UInt8) :
    a.sign secret message ≠ [] := by
  have starts : Crypto.sha256.start.length = 8 ∧ Crypto.sha384.start.length = 8 ∧
      Crypto.sha512.start.length = 8 := by decide +kernel
  apply List.ne_nil_of_length_pos
  cases a with
  | hs256 => exact (Crypto.sha256.length_digest starts.1 _).symm ▸ by decide
  | hs384 => exact (Crypto.sha384.length_digest starts.2.1 _).symm ▸ by decide
  | hs512 => exact (Crypto.sha512.length_digest starts.2.2 _).symm ▸ by decide

/-! ## Segments -/

namespace TokenHeader

theorem reader_toJson (level : Nat) (h : TokenHeader) :
    (reader (level + 1) h.toJson.document).toOption = some h := by
  obtain ⟨algorithm, type⟩ := h
  unfold reader toJson
  rw [Json.Reader.record_object level (by simp) (by simp)]
  cases type with
  | none =>
      simp [toOption_bind, toOption_ok, Json.Fields.required, Json.Fields.defaulted,
        Json.Fields.find?, Json.written, Json.Reader.string_text, Json.ofText?, Json.ofOption]
      rfl
  | some type =>
      simp [toOption_bind, toOption_ok, Json.Fields.required, Json.Fields.defaulted,
        Json.Fields.find?, Json.written, Json.Reader.string_text, Json.Reader.option_text,
        Json.ofText?, Json.ofOption]

end TokenHeader

namespace TokenMaker

/-- Nothing is read from an empty segment. -/
theorem ne_empty_of_decodeSegment? {α : Type} {r : Json.Reader α} {s : String} {x : α}
    (read : decodeSegment? r s = some x) : s ≠ "" := by
  rintro rfl
  cases read

theorem segment_ne_empty {bytes : List UInt8} (full : bytes ≠ []) :
    Encoding.Base64Url.encode bytes ≠ "" := by
  intro empty
  have back := Encoding.Base64Url.decode?_encode bytes
  rw [empty] at back
  exact full (Option.some.inj back).symm

variable (m : TokenMaker) {c : Claims}

/-- The claims of an issued token, if the calendar has their times. -/
theorem carries_encode (issued : c.issuedAt.floorSecond.inRange = true)
    (expires : c.expiresAt.floorSecond.inRange = true) :
    m.Carries (m.encode c) c.wholeSeconds := by
  let header : TokenHeader := ⟨m.algorithm.name, some "JWT"⟩
  have headed : decodeSegment? TokenHeader.reader (segment header.toJson) = some header := by
    rw [decodeSegment?_segment, Json.depthLimit, TokenHeader.reader_toJson]
  have read : decodeSegment? Claims.reader (segment c.toJson) = some c.wholeSeconds := by
    have start : Instant.ofSeconds? c.issuedAt.seconds = some c.issuedAt.floorSecond :=
      if_pos issued
    have stop : Instant.ofSeconds? c.expiresAt.seconds = some c.expiresAt.floorSecond :=
      if_pos expires
    rw [decodeSegment?_segment, Json.depthLimit, Claims.reader_toJson, start, stop]
    rfl
  let signed := segment header.toJson ++ "." ++ segment c.toJson
  let code := m.algorithm.sign m.secret (Text.utf8 signed)
  have segmented : Segmented (m.encode c) (segment header.toJson) (segment c.toJson)
      (Encoding.Base64Url.encode code) :=
    { whole := rfl
      dotless := ⟨Encoding.Base64Url.encode_dotless _, Encoding.Base64Url.encode_dotless _,
        Encoding.Base64Url.encode_dotless _⟩
      nonempty := ⟨ne_empty_of_decodeSegment? headed, ne_empty_of_decodeSegment? read,
        segment_ne_empty (m.algorithm.sign_ne_nil _ _)⟩ }
  refine ⟨segment c.toJson, ?_, read⟩
  exact .intro _ _ header m.algorithm ⟨segmented, headed⟩ rfl
    (Encoding.Base64Url.decode?_encode _)

theorem encode_ne_empty : m.encode c ≠ "" := by
  intro empty
  obtain ⟨h, s, pieces⟩ := split_encode m c
  rw [empty] at pieces
  cases pieces

/-! ## Issuing -/

/-- The claims of a token that is issued now, whether or not the calendar reaches its expiry. -/
def claims (id : Uuid) (username subject : String) (lifetime : Int) (now : Instant) : Claims :=
  ⟨id, username, subject, now.floorSecond, ⟨now.floorSecond.nanos + lifetime⟩, m.issuer⟩

theorem create?_eq_some_iff {m : TokenMaker} {id : Uuid} {username subject token : String}
    {lifetime : Int} {now : Instant} :
    m.create? id username subject lifetime now = some (token, c) ↔
      c = m.claims id username subject lifetime now ∧ c.expiresAt.inRange = true ∧
        token = m.encode c := by
  simp only [create?, claimsFor?, Instant.add?, Option.bind_eq_bind, Option.bind_eq_some_iff,
    Option.some.injEq, Prod.mk.injEq, Option.ite_none_right_eq_some]
  constructor
  · rintro ⟨_, ⟨expiry, ⟨reached, rfl⟩, rfl⟩, rfl, rfl⟩
    exact ⟨rfl, reached, rfl⟩
  · rintro ⟨rfl, reached, rfl⟩
    exact ⟨_, ⟨_, ⟨reached, rfl⟩, rfl⟩, rfl, rfl⟩

/-- An issued token carries its claims with their times in whole seconds. -/
theorem carries_of_create? {m : TokenMaker} {id : Uuid} {username subject token : String}
    {lifetime : Int} {now : Instant} (dated : now.inRange = true)
    (issued : m.create? id username subject lifetime now = some (token, c)) :
    m.Carries token c.wholeSeconds := by
  obtain ⟨rfl, reached, rfl⟩ := create?_eq_some_iff.mp issued
  have start := Instant.inRange_floorSecond (Instant.inRange_floorSecond dated)
  exact m.carries_encode start (Instant.inRange_floorSecond reached)

/-! ## Presenting -/

/-- A character that leaves a mark. -/
def Marks (ch : Char) : Prop :=
  33 ≤ ch.toNat ∧ ch.toNat < 127

instance (ch : Char) : Decidable (Marks ch) :=
  inferInstanceAs (Decidable (33 ≤ ch.toNat ∧ ch.toNat < 127))

/-- The characters of tokens: the alphabet for URLs, and dots. -/
def IsTokenChar (ch : Char) : Prop :=
  ch = '.' ∨ (Encoding.Base64Url.valueOf? ch).isSome = true

instance (ch : Char) : Decidable (IsTokenChar ch) :=
  inferInstanceAs (Decidable (ch = '.' ∨ (Encoding.Base64Url.valueOf? ch).isSome = true))

theorem isTokenChar_iff {ch : Char} :
    IsTokenChar ch ↔ ch = '.' ∨ ∃ n, n < 64 ∧ ch = Encoding.Base64Url.charOf n := by
  refine or_congr_right ?_
  rw [Option.isSome_iff_exists]
  constructor
  · rintro ⟨n, value⟩
    obtain ⟨small, same⟩ := Encoding.Base64Url.charOf_of_valueOf? value
    exact ⟨n, small, same.symm⟩
  · rintro ⟨n, small, rfl⟩
    exact ⟨n, Encoding.Base64Url.valueOf?_charOf small⟩

theorem isTokenChar_of_mem_encode {ch : Char} {bytes : List UInt8}
    (member : ch ∈ (Encoding.Base64Url.encode bytes).toList) : IsTokenChar ch := by
  rw [Encoding.Base64Url.encode, String.toList_ofList] at member
  exact isTokenChar_iff.mpr (.inr (Encoding.Base64Url.exists_charOf_of_mem member))

theorem isTokenChar_encode {ch : Char} (member : ch ∈ (m.encode c).toList) : IsTokenChar ch := by
  unfold encode at member
  simp only [String.toList_append, List.mem_append] at member
  obtain (((inside | inside) | inside) | inside) | inside := member
  · exact isTokenChar_of_mem_encode inside
  · exact .inl (List.mem_singleton.mp inside)
  · exact isTokenChar_of_mem_encode inside
  · exact .inl (List.mem_singleton.mp inside)
  · exact isTokenChar_of_mem_encode inside

theorem IsTokenChar.marks {ch : Char} (legal : IsTokenChar ch) : Marks ch := by
  have alphabet : ∀ n < 64, Marks (Encoding.Base64Url.charOf n) := by decide
  obtain rfl | ⟨n, small, rfl⟩ := isTokenChar_iff.mp legal
  · decide
  · exact alphabet n small

/-- Tokens are base64 and dots. -/
theorem marks_encode {ch : Char} (member : ch ∈ (m.encode c).toList) : Marks ch :=
  (isTokenChar_encode m member).marks

end TokenMaker

namespace Credential

open TokenMaker (Marks)

theorem not_isBlank_of_marks {ch : Char} (marks : Marks ch) : Text.isBlank ch = false := by
  obtain ⟨low, high⟩ := marks
  simp [Text.isBlank]
  omega

/-- Nothing is trimmed off a text that leaves marks only. -/
theorem trim_of_marks {s : String} (marks : ∀ ch ∈ s.toList, Marks ch) : Text.trim s = s :=
  Text.trim_eq_self_iff.mpr
    ⟨fun ch first => not_isBlank_of_marks (marks ch (List.mem_of_mem_head? first)),
      fun ch last => not_isBlank_of_marks (marks ch (List.mem_of_mem_getLast? last))⟩

theorem isTextChar_of_marks {ch : Char} (marks : Marks ch) : Headers.isTextChar ch = true := by
  obtain ⟨low, high⟩ := marks
  simp [Headers.isTextChar]
  omega

/-- The scheme, a blank and a token can be read as text, and bear the token. -/
theorem headerOffers_of_get? {h : Headers} {scheme token : String}
    (bearer : lowerAscii scheme = "bearer") (marks : ∀ ch ∈ token.toList, Marks ch)
    (full : token ≠ "") (first : h.get? "authorization" = some (scheme ++ " " ++ token)) :
    HeaderOffers h token := by
  have lettered : ∀ ch ∈ scheme.toList, Marks ch := by
    intro ch member
    obtain ⟨low, high⟩ := letter_of_scheme bearer member
    exact ⟨by omega, by omega⟩
  have legible : Headers.readable (scheme ++ " " ++ token) = true := by
    unfold Headers.readable
    simp only [String.toList_append, List.all_append, Bool.and_eq_true, List.all_eq_true]
    refine ⟨⟨fun ch member => isTextChar_of_marks (lettered ch member), by simp [Headers.isTextChar]⟩,
      fun ch member => isTextChar_of_marks (marks ch member)⟩
  refine ⟨scheme ++ " " ++ token, ?_, ?_⟩
  · simp only [Headers.text?, first, legible, ↓reduceIte]
  · have nothing : Text.blank "" = true := rfl
    have bears := Bears.intro bearer ⟨nothing, nothing, nothing⟩ (trim_of_marks marks) full
    rwa [String.empty_append, String.append_empty, String.append_empty] at bears

/-- A token in the authorization header is what the request presents. -/
theorem ofRequest?_bearer {token : String} (marks : ∀ ch ∈ token.toList, Marks ch)
    (full : token ≠ "") (method : Method) (target : Target) (body : String) :
    ofRequest? ⟨method, target, [("authorization", "Bearer " ++ token)], body⟩ = some token := by
  have bearer : lowerAscii "Bearer" = "bearer" := by decide
  have first : Headers.get? [("authorization", "Bearer " ++ token)] "authorization" =
      some ("Bearer" ++ " " ++ token) := rfl
  exact ofRequest?_eq_some_iff.mpr (.header (headerOffers_of_get? bearer marks full first))

end Credential

end HttpService

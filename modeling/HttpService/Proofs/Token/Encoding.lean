import HttpService.Proofs.Encoding.Base64Url
import HttpService.Proofs.Json.Record
import HttpService.Proofs.Text.Utf8
import HttpService.Proofs.Token.Verification
import HttpService.Proofs.Uuid

/-!
# Tokens are read back

A token that was issued has three segments, and its claims are read back with their times in whole
seconds.
-/

namespace HttpService

theorem toOption_bind {ε α β : Type} (x : Except ε α) (k : α → Except ε β) :
    (x >>= k).toOption = x.toOption.bind fun a => (k a).toOption := by
  cases x <;> rfl

theorem toOption_ok {ε α : Type} (a : α) : (Except.ok a : Except ε α).toOption = some a := rfl

namespace Claims

/-- The claims as a token holds them. -/
def wholeSeconds (c : Claims) : Claims :=
  { c with issuedAt := c.issuedAt.floorSecond, expiresAt := c.expiresAt.floorSecond }

theorem uuidReader_text (level : Nat) (u : Uuid) :
    uuidReader level (Json.document (.text u.toString)) = .ok u :=
  Json.Reader.filterMap_eq_ok_iff.mpr
    ⟨u.toString, Json.Reader.string_text level _, Uuid.parse?_toString u⟩

theorem document_ofInt (k : Int) : (Json.ofInt k).document = .number (Json.ofInteger k) := by
  cases k <;> rfl

theorem isInt64_of_ofSeconds? {k : Int} {t : Instant} (h : Instant.ofSeconds? k = some t) :
    Json.IsInt64 k := by
  have first : Instant.first.nanos = -8334601228800000000000 := rfl
  have last : Instant.last.nanos = 8210266876799999999999 := rfl
  unfold Instant.ofSeconds? at h
  simp only [Instant.inRange, Instant.nanosPerSecond, Option.ite_none_right_eq_some,
    Bool.and_eq_true] at h
  have low := of_decide_eq_true h.1.1
  have high := of_decide_eq_true h.1.2
  unfold Json.IsInt64
  omega

theorem secondsReader_ofInt (level : Nat) (k : Int) :
    (secondsReader level (Json.ofInt k).document).toOption = Instant.ofSeconds? k := by
  have reads : ∀ t, secondsReader level (Json.ofInt k).document = .ok t ↔
      Instant.ofSeconds? k = some t := by
    intro t
    unfold secondsReader
    rw [document_ofInt, Json.Reader.filterMap_eq_ok_iff]
    constructor
    · rintro ⟨v, read, found⟩
      rwa [← (Json.Reader.int64_ofInteger.mp read).1]
    · intro found
      exact ⟨k, Json.Reader.int64_ofInteger.mpr ⟨rfl, isInt64_of_ofSeconds? found⟩, found⟩
  refine Option.ext fun t => ?_
  rw [← reads t]
  cases secondsReader level (Json.ofInt k).document <;> simp [Except.toOption]

/-- What is read from the text of claims: nothing if the calendar does not reach a time. -/
theorem reader_toJson (level : Nat) (c : Claims) :
    (reader (level + 1) c.toJson.document).toOption = (do
      let issuedAt ← Instant.ofSeconds? c.issuedAt.seconds
      let expiresAt ← Instant.ofSeconds? c.expiresAt.seconds
      some { c with issuedAt, expiresAt }) := by
  obtain ⟨id, username, subject, issuedAt, expiresAt, issuer⟩ := c
  unfold reader toJson
  cases issuer with
  | none =>
      rw [Json.Reader.record_object level (by simp) (by simp)]
      simp [toOption_bind, toOption_ok, Json.Fields.required, Json.Fields.defaulted,
        Json.Fields.find?, Json.written, uuidReader_text, Json.Reader.string_text,
        secondsReader_ofInt]
  | some issuer =>
      rw [Json.Reader.record_object level (by simp) (by simp)]
      simp [toOption_bind, toOption_ok, Json.Fields.required, Json.Fields.defaulted,
        Json.Fields.find?, Json.written, uuidReader_text, Json.Reader.string_text,
        Json.Reader.option_text, secondsReader_ofInt]

end Claims

namespace TokenMaker

theorem segmentText_utf8 (s : String) : segmentText (Text.utf8 s) = s := by
  rw [segmentText, Text.ofUtf8?_utf8, Option.getD_some]

theorem decodeSegment?_segment {α : Type} (r : Json.Reader α) (j : Json) :
    decodeSegment? r (segment j) = (r Json.depthLimit j.document).toOption := by
  rw [decodeSegment?, segment, Encoding.Base64Url.decode?_encode, Option.bind_eq_bind,
    Option.bind_some, segmentText_utf8, Json.read_render]

/-- Claims are read back with their times in whole seconds. -/
theorem eq_wholeSeconds_of_decode {c p : Claims}
    (read : decodeSegment? Claims.reader (segment c.toJson) = some p) : p = c.wholeSeconds := by
  rw [decodeSegment?_segment, Json.depthLimit, Claims.reader_toJson] at read
  simp only [Option.bind_eq_bind, Option.bind_eq_some_iff, Option.some.injEq] at read
  obtain ⟨issuedAt, issued, expiresAt, expires, rfl⟩ := read
  simp only [Instant.ofSeconds?, Option.ite_none_right_eq_some, Option.some.injEq] at issued expires
  rw [Claims.wholeSeconds, ← issued.2, ← expires.2]
  rfl

/-! ## The claims of a token

Its text alone decides what claims a token carries, whichever maker it is shown to.
-/

theorem split_of_carries {m : TokenMaker} {token : String} {p : Claims}
    (carries : Carries m token p) :
    ∃ h c s, Text.split '.' token = [h, c, s] ∧ decodeSegment? Claims.reader c = some p := by
  obtain ⟨c, ⟨h, s, header, a, headed, -, -⟩, read⟩ := carries
  exact ⟨h, c, s, split_eq_three_iff.mpr ⟨headed.segmented.whole, headed.segmented.dotless⟩, read⟩

theorem carries_unique {m m' : TokenMaker} {token : String} {p q : Claims}
    (carries : Carries m token p) (other : Carries m' token q) : p = q := by
  obtain ⟨h, c, s, pieces, read⟩ := split_of_carries carries
  obtain ⟨h', c', s', pieces', read'⟩ := split_of_carries other
  rw [pieces] at pieces'
  cases pieces'
  rw [read] at read'
  exact Option.some.inj read'

theorem split_encode (m : TokenMaker) (c : Claims) :
    ∃ h s, Text.split '.' (m.encode c) = [h, segment c.toJson, s] :=
  ⟨_, _, split_eq_three_iff.mpr
    ⟨rfl, Encoding.Base64Url.encode_dotless _, Encoding.Base64Url.encode_dotless _,
      Encoding.Base64Url.encode_dotless _⟩⟩

theorem eq_wholeSeconds_of_carries {m m' : TokenMaker} {c p : Claims}
    (carries : Carries m' (m.encode c) p) : p = c.wholeSeconds := by
  obtain ⟨h, middle, s, pieces, read⟩ := split_of_carries carries
  obtain ⟨h', s', issued⟩ := split_encode m c
  rw [issued, List.cons.injEq, List.cons.injEq] at pieces
  rw [← pieces.2.1] at read
  exact eq_wholeSeconds_of_decode read

end TokenMaker

theorem Claims.wholeSeconds_expiresAt_le (c : Claims) :
    c.wholeSeconds.expiresAt.nanos ≤ c.expiresAt.nanos := by
  simp only [wholeSeconds, Instant.floorSecond, Instant.seconds, Instant.nanosPerSecond]
  omega

end HttpService

import HttpService.Access.Credential
import HttpService.Proofs.Text.Blank
import HttpService.Proofs.Text.Split

/-!
# Which token a request presents

Each carrier offers a token or none by its own rules: an authorization header by its scheme, the
cookies and the query by the first of them that has the name. A request presents what the first
carrier offers that offers one, and nothing else of it matters.
-/

namespace HttpService.Credential

/-! ## What the carriers offer -/

/-- A header value of a scheme, a blank, and a token. The scheme is `bearer` in any case, and there
may be further blanks before the token and around the whole. -/
inductive Bears : String → String → Prop
  | intro {left scheme between token right : String} (bearer : lowerAscii scheme = "bearer")
      (blanks : Text.blank left = true ∧ Text.blank between = true ∧ Text.blank right = true)
      (trimmed : Text.trim token = token) (full : token ≠ "") :
      Bears (left ++ scheme ++ " " ++ between ++ token ++ right) token

/-- What the first element gives that gives anything. -/
def First {α β : Type} (gives : α → β → Prop) (xs : List α) (y : β) : Prop :=
  ∃ before x after, xs = before ++ x :: after ∧ (∀ a ∈ before, ∀ b, ¬ gives a b) ∧ gives x y

/-- What stands between semicolons in the cookie headers that can be read as text. -/
def cookieParts (h : Headers) : List String :=
  ((h.getAll "cookie").filter Headers.readable).flatMap (Text.split ';')

/-- The part of a cookie header is a name, an equals sign, and the value. -/
def Assigns (name part value : String) : Prop :=
  ∃ left, (Text.trim part).toList = left.toList ++ '=' :: value.toList ∧ '=' ∉ left.toList ∧
    Text.trim left = name

/-- The token is the value without the blanks around it, and then without the quotes around it. -/
def Unquotes (value token : String) : Prop :=
  ∃ left right, (Text.trim value).toList = left ++ token.toList ++ right ∧
    Text.Surrounded (· == '"') left token.toList right

def HeaderOffers (h : Headers) (token : String) : Prop :=
  ∃ value, h.text? "authorization" = some value ∧ Bears value token

def CookieOffers (h : Headers) (token : String) : Prop :=
  ∃ value, First (Assigns "auth_token") (cookieParts h) value ∧ Unquotes value token ∧ token ≠ ""

def QueryOffers (t : Target) (token : String) : Prop :=
  ∃ query, t.query = some query ∧
    First (fun pair value => pair = ("token", value)) (Encoding.Form.pairs query) token ∧
    token ≠ ""

/-- The token of a request, with the carriers before it offering none. -/
inductive Presents (r : Request) (token : String) : Prop
  | header (offers : HeaderOffers r.headers token) : Presents r token
  | cookie (headless : ∀ other, ¬ HeaderOffers r.headers other)
      (offers : CookieOffers r.headers token) : Presents r token
  | parameter (headless : ∀ other, ¬ HeaderOffers r.headers other)
      (cookieless : ∀ other, ¬ CookieOffers r.headers other)
      (offers : QueryOffers r.target token) : Presents r token

theorem Presents.ne_empty {r : Request} {token : String} (presents : Presents r token) :
    token ≠ "" := by
  cases presents with
  | header offers =>
      obtain ⟨value, -, bears⟩ := offers
      cases bears
      assumption
  | cookie _ offers => exact offers.choose_spec.2.2
  | parameter _ _ offers => exact offers.choose_spec.2.2

/-! ## The header -/

theorem nonEmpty_eq_some_iff {s token : String} :
    nonEmpty s = some token ↔ s = token ∧ token ≠ "" := by
  simp only [nonEmpty, Option.ite_none_left_eq_some, String.isEmpty_iff, Option.some.injEq]
  constructor
  · rintro ⟨full, rfl⟩
    exact ⟨rfl, full⟩
  · rintro ⟨rfl, full⟩
    exact ⟨full, rfl⟩

/-- The characters of the scheme are letters, because nothing else has a letter in lower case. -/
theorem letter_of_scheme {scheme : String} (bearer : lowerAscii scheme = "bearer") {ch : Char}
    (member : ch ∈ scheme.toList) : 65 ≤ ch.toNat ∧ ch.toNat ≤ 122 := by
  have lower : ch.toLower ∈ "bearer".toList := by
    rw [← bearer, lowerAscii, String.toList_ofList]
    exact List.mem_map_of_mem member
  have small : ∀ d ∈ "bearer".toList, 97 ≤ d.toNat ∧ d.toNat ≤ 122 := by simp
  unfold Char.toLower at lower
  split at lower
  · next upper =>
      obtain ⟨low, high⟩ : 65 ≤ ch.toNat ∧ ch.toNat ≤ 90 := upper
      omega
  · have bounds := small ch lower
    omega

theorem not_isBlank_of_scheme {scheme : String} (bearer : lowerAscii scheme = "bearer") :
    ∀ ch ∈ scheme.toList, Text.isBlank ch = false := by
  intro ch member
  obtain ⟨low, high⟩ := letter_of_scheme bearer member
  simp [Text.isBlank]
  omega

/-- A scheme starts a text with no blank. -/
theorem start_of_scheme {scheme : String} (bearer : lowerAscii scheme = "bearer") (rest : String) :
    ∀ ch ∈ (scheme ++ rest).toList.head?, Text.isBlank ch = false := by
  cases chars : scheme.toList with
  | nil =>
      rw [lowerAscii, chars] at bearer
      exact absurd bearer (by decide)
  | cons ch more =>
      rw [String.toList_append, chars]
      rintro _ ⟨⟩
      exact not_isBlank_of_scheme bearer ch (chars ▸ List.mem_cons_self)

theorem stop_of_trimmed {token : String} (trimmed : Text.trim token = token) (full : token ≠ "")
    (rest : String) : ∀ ch ∈ (rest ++ token).toList.getLast?, Text.isBlank ch = false := by
  have given : token.toList ≠ [] := by simpa using full
  obtain ⟨-, last⟩ := Text.trim_eq_self_iff.mp trimmed
  rw [String.toList_append, List.getLast?_append, List.getLast?_eq_some_getLast given,
    Option.some_or, ← List.getLast?_eq_some_getLast given]
  exact last

/-- The scheme ends at the first blank that is left, and the token is all that follows it but for
blanks. -/
theorem bears_iff {value token : String} :
    Bears value token ↔ ∃ scheme rest, Text.cut ' ' (Text.trim value) = (scheme, some rest) ∧
      lowerAscii scheme = "bearer" ∧ Text.trim rest = token ∧ token ≠ "" := by
  constructor
  · intro bears
    cases bears with
    | @intro left scheme between _ right bearer blanks trimmed full =>
      have blank {s : String} (all : Text.blank s = true) :
          ∀ ch ∈ s.toList, Text.isBlank ch = true := List.all_eq_true.mp all
      have kept : Text.trim (left ++ scheme ++ " " ++ between ++ token ++ right) =
          scheme ++ " " ++ between ++ token := by
        refine Text.trim_eq_iff.mpr ⟨left, right, by simp only [String.append_assoc], ?_⟩
        refine ⟨blank blanks.1, blank blanks.2.2, ?_, stop_of_trimmed trimmed full _⟩
        rw [String.append_assoc, String.append_assoc]
        exact start_of_scheme bearer _
      obtain ⟨start, stop⟩ := Text.trim_eq_self_iff.mp trimmed
      refine ⟨scheme, between ++ token, ?_, bearer, ?_, full⟩
      · rw [kept, Text.cut_eq_some_iff]
        refine ⟨by simp [String.toList_append], fun member => ?_⟩
        exact absurd (not_isBlank_of_scheme bearer ' ' member) (by decide)
      · refine Text.trim_eq_iff.mpr ⟨between, "", by simp, ?_⟩
        exact ⟨blank blanks.2.1, by simp, start, stop⟩
  · rintro ⟨scheme, rest, halves, bearer, trimmed, full⟩
    obtain ⟨left, right, whole, outer⟩ := Text.trim_eq_iff.mp (Eq.refl (Text.trim value))
    obtain ⟨between, after, inside, inner⟩ := Text.trim_eq_iff.mp trimmed
    obtain ⟨joined, -⟩ := Text.cut_eq_some_iff.mp halves
    have shape : value = left ++ scheme ++ " " ++ between ++ token ++ (after ++ right) := by
      rw [whole, ← String.toList_inj, String.toList_append, String.toList_append, joined, inside]
      simp [String.toList_append]
    rw [shape]
    refine .intro bearer ⟨List.all_eq_true.mpr outer.before, List.all_eq_true.mpr inner.before, ?_⟩
      (Text.trim_eq_self_iff.mpr ⟨inner.start, inner.stop⟩) full
    refine List.all_eq_true.mpr fun ch member => ?_
    rw [String.toList_append] at member
    exact (List.mem_append.mp member).elim (inner.after ch) (outer.after ch)

theorem ofAuthorization?_eq_some_iff {h : Headers} {token : String} :
    ofAuthorization? h = some token ↔ HeaderOffers h token := by
  unfold ofAuthorization? HeaderOffers
  rw [Option.bind_eq_bind, Option.bind_eq_some_iff]
  refine exists_congr fun value => and_congr_right fun _ => ?_
  rw [bears_iff]
  cases halves : Text.cut ' ' (Text.trim value) with
  | mk scheme after =>
      cases after with
      | none => simp
      | some rest =>
          simp only [Option.bind_some, beq_iff_eq, Option.ite_none_right_eq_some,
            nonEmpty_eq_some_iff, Prod.mk.injEq, Option.some.injEq]
          constructor
          · rintro ⟨bearer, trimmed, full⟩
            exact ⟨scheme, rest, ⟨rfl, rfl⟩, bearer, trimmed, full⟩
          · rintro ⟨_, _, ⟨rfl, rfl⟩, offer⟩
            exact offer

/-! ## The cookies and the query -/

/-- A search among the entries that can be read is a search among what they are read from. -/
theorem first_iff {α : Type} {read : α → Option (String × String)}
    {wanted : String × String → Bool} {xs : List α} {value : String} :
    (∃ entry, (xs.filterMap read).find? wanted = some entry ∧ entry.2 = value) ↔
      First (fun x v => ∃ entry, read x = some entry ∧ wanted entry = true ∧ entry.2 = v) xs
        value := by
  have passed (a : α) : (!(read a).any wanted) = true ↔
      ∀ b, ¬ ∃ entry, read a = some entry ∧ wanted entry = true ∧ entry.2 = b := by
    cases read a <;> simp
  simp only [List.find?_filterMap, Option.bind_eq_some_iff, List.find?_eq_some_iff_append, First,
    passed]
  constructor
  · rintro ⟨entry, ⟨x, ⟨wants, before, after, whole, earlier⟩, reads⟩, given⟩
    rw [reads, Option.any_some] at wants
    exact ⟨before, x, after, whole, earlier, entry, reads, wants, given⟩
  · rintro ⟨before, x, after, whole, earlier, entry, reads, wants, given⟩
    refine ⟨entry, ⟨x, ⟨?_, before, after, whole, earlier⟩, reads⟩, given⟩
    rwa [reads, Option.any_some]

theorem cookiePair?_eq_some_iff {part left value : String} :
    cookiePair? part = some (left, value) ↔
      (Text.trim part).toList = left.toList ++ '=' :: value.toList ∧ '=' ∉ left.toList := by
  rw [← Text.cut_eq_some_iff, cookiePair?]
  cases Text.cut '=' (Text.trim part) with
  | mk before after => cases after <;> simp

theorem assigns_iff {name part value : String} :
    Assigns name part value ↔ ∃ entry, cookiePair? part = some entry ∧
      (Text.trim entry.1 == name) = true ∧ entry.2 = value := by
  constructor
  · rintro ⟨left, whole, free, named⟩
    exact ⟨(left, value), cookiePair?_eq_some_iff.mpr ⟨whole, free⟩, beq_iff_eq.mpr named, rfl⟩
  · rintro ⟨⟨left, _⟩, reads, named, rfl⟩
    obtain ⟨whole, free⟩ := cookiePair?_eq_some_iff.mp reads
    exact ⟨left, whole, free, beq_iff_eq.mp named⟩

theorem unquote_eq_iff {value token : String} : unquote value = token ↔ Unquotes value token := by
  rw [unquote, Unquotes, ← Text.trimMatches_eq_iff, ← String.toList_inj, String.toList_ofList]

theorem cookies_eq (h : Headers) : cookies h = (cookieParts h).filterMap cookiePair? := by
  rw [cookieParts, List.filterMap_flatMap, cookies]

theorem ofCookie?_eq_some_iff {h : Headers} {token : String} :
    ofCookie? h = some token ↔ CookieOffers h token := by
  have gives : Assigns "auth_token" = fun part v => ∃ entry, cookiePair? part = some entry ∧
      (Text.trim entry.1 == "auth_token") = true ∧ entry.2 = v :=
    funext fun part => funext fun v => propext assigns_iff
  simp only [CookieOffers, gives, ← first_iff, ← cookies_eq, ← unquote_eq_iff]
  unfold ofCookie?
  cases (cookies h).find? fun c => Text.trim c.1 == "auth_token" with
  | none => simp
  | some entry => simp [nonEmpty_eq_some_iff]

theorem ofQuery?_eq_some_iff {t : Target} {token : String} :
    ofQuery? t = some token ↔ QueryOffers t token := by
  have gives : (fun (pair : String × String) value => pair = ("token", value)) =
      fun pair v => ∃ entry, some pair = some entry ∧ (entry.1 == "token") = true ∧ entry.2 = v := by
    funext pair v
    simp [Prod.ext_iff]
  simp only [QueryOffers, gives, ← first_iff, List.filterMap_some]
  unfold ofQuery?
  cases t.query with
  | none => simp
  | some query =>
      cases found : (Encoding.Form.pairs query).find? fun p => p.1 == "token" with
      | none => simp [found]
      | some entry =>
          obtain ⟨name, value⟩ := entry
          simp [found, nonEmpty_eq_some_iff]

/-! ## The request -/

theorem ofRequest?_eq_some_iff {r : Request} {token : String} :
    ofRequest? r = some token ↔ Presents r token := by
  have silent {o : Option String} : o = none ↔ ∀ other, o ≠ some other :=
    Option.eq_none_iff_forall_ne_some
  unfold ofRequest?
  simp only [Option.or_eq_some_iff, silent, Ne, ofAuthorization?_eq_some_iff,
    ofCookie?_eq_some_iff, ofQuery?_eq_some_iff]
  constructor
  · rintro (offers | ⟨headless, offers | ⟨cookieless, offers⟩⟩)
    · exact .header offers
    · exact .cookie headless offers
    · exact .parameter headless cookieless offers
  · rintro (offers | ⟨headless, offers⟩ | ⟨headless, cookieless, offers⟩)
    · exact .inl offers
    · exact .inr ⟨headless, .inl offers⟩
    · exact .inr ⟨headless, .inr ⟨cookieless, offers⟩⟩

end HttpService.Credential

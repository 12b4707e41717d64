import HttpService.Proofs.Encoding.Form
import HttpService.Proofs.Token.Issuing
import HttpService.Stage.Authentication

/-!
# Three ways to carry a token

A token of the characters that issued tokens have is presented as it is, whichever carrier has it, as
long as no carrier before has one. So the service treats the requests that carry it alike.
-/

namespace HttpService

namespace Credential

open TokenMaker (IsTokenChar Marks)

variable {h : Headers} {r r' : Request} {token : String}

/-! ## Carriers -/

/-- The first authorization value is the scheme, a blank and the token. -/
def HeaderCarries (h : Headers) (token : String) : Prop :=
  ∃ scheme, lowerAscii scheme = "bearer" ∧
    h.get? "authorization" = some (scheme ++ " " ++ token)

/-- The cookie is the token, with or without quotes, among any others. -/
def CookieCarries (h : Headers) (token : String) : Prop :=
  ∃ before part after, cookieParts h = before ++ part :: after ∧
    (∀ p ∈ before, ∀ value, ¬ Assigns "auth_token" p value) ∧
    (Text.trim part = "auth_token=" ++ token ∨ Text.trim part = "auth_token=\"" ++ token ++ "\"")

/-- The parameter is the token, among any others. -/
def QueryCarries (t : Target) (token : String) : Prop :=
  ∃ query before after, t.query = some query ∧
    Text.split '&' query = before ++ ("token=" ++ token) :: after ∧
    ∀ part ∈ before, (Encoding.Form.assignment part).1 ≠ "token"

/-- The request has the token in one of the carriers, and none in a carrier before it. -/
inductive Conveys (r : Request) (token : String) : Prop
  | header (carries : HeaderCarries r.headers token) : Conveys r token
  | cookie (headless : ∀ other, ¬ HeaderOffers r.headers other)
      (carries : CookieCarries r.headers token) : Conveys r token
  | parameter (headless : ∀ other, ¬ HeaderOffers r.headers other)
      (cookieless : ∀ other, ¬ CookieOffers r.headers other)
      (carries : QueryCarries r.target token) : Conveys r token

/-! ## What they offer -/

/-- No character of a token is a quote, or is decoded as another. -/
theorem plain_of_isTokenChar {ch : Char} (legal : IsTokenChar ch) :
    Encoding.Form.IsPlain ch ∧ ch ≠ '"' := by
  have alphabet : ∀ n < 64, Encoding.Form.IsPlain (Encoding.Base64Url.charOf n) ∧
      Encoding.Base64Url.charOf n ≠ '"' := by decide
  obtain rfl | ⟨n, small, rfl⟩ := TokenMaker.isTokenChar_iff.mp legal
  · decide
  · exact alphabet n small

section Tokens

variable (legal : ∀ ch ∈ token.toList, IsTokenChar ch) (full : token ≠ "")

include legal

theorem marks_of_legal : ∀ ch ∈ token.toList, Marks ch :=
  fun ch member => (legal ch member).marks

/-- Quotes around a token are all that is taken off it. -/
theorem unquotes_of_legal {value : String} (given : value = token ∨ value = "\"" ++ token ++ "\"") :
    Unquotes value token := by
  have unquoted : ∀ ch ∈ token.toList, (ch == '"') = false := fun ch member =>
    beq_eq_false_iff_ne.mpr (plain_of_isTokenChar (legal ch member)).2
  have start : ∀ ch ∈ token.toList.head?, (ch == '"') = false := fun ch first =>
    unquoted ch (List.mem_of_mem_head? first)
  have stop : ∀ ch ∈ token.toList.getLast?, (ch == '"') = false := fun ch last =>
    unquoted ch (List.mem_of_mem_getLast? last)
  obtain rfl | rfl := given
  · refine ⟨[], [], ?_, by simp, by simp, start, stop⟩
    rw [trim_of_marks (marks_of_legal legal), List.nil_append, List.append_nil]
  · have quote : ∀ ch ∈ "\"".toList, Marks ch := by simp [Marks]
    have marks : ∀ ch ∈ ("\"" ++ token ++ "\"").toList, Marks ch := by
      simp only [String.toList_append, List.forall_mem_append]
      exact ⟨⟨quote, marks_of_legal legal⟩, quote⟩
    refine ⟨['"'], ['"'], ?_, by simp, by simp, start, stop⟩
    rw [trim_of_marks marks]
    simp [String.toList_append]

/-- Each carrier can carry any token alone. -/
theorem carries_alone (path : String) :
    HeaderCarries [("authorization", "Bearer " ++ token)] token ∧
      CookieCarries [("cookie", "auth_token=" ++ token)] token ∧
      QueryCarries ⟨path, some ("token=" ++ token)⟩ token := by
  have marks : ∀ ch ∈ ("auth_token=" ++ token).toList, Marks ch := by
    have name : ∀ ch ∈ "auth_token=".toList, Marks ch := by simp [Marks]
    simp only [String.toList_append, List.forall_mem_append]
    exact ⟨name, marks_of_legal legal⟩
  have free {sep : Char} {name : String} (named : sep ∉ name.toList) (other : ¬ IsTokenChar sep) :
      Text.split sep (name ++ token) = [name ++ token] := by
    refine Text.split_free fun member => ?_
    rw [String.toList_append, List.mem_append] at member
    exact member.elim named fun inside => other (legal sep inside)
  refine ⟨⟨"Bearer", by decide, rfl⟩, ⟨[], _, [], ?_, by simp, .inl (trim_of_marks marks)⟩,
    ⟨_, [], [], rfl, free (by decide) (by decide), by simp⟩⟩
  have legible : Headers.readable ("auth_token=" ++ token) = true :=
    List.all_eq_true.mpr fun ch member => isTextChar_of_marks (marks ch member)
  have given : Headers.getAll [("cookie", "auth_token=" ++ token)] "cookie" =
      ["auth_token=" ++ token] := rfl
  rw [cookieParts, given, List.filter_cons_of_pos legible, List.filter_nil, List.flatMap_singleton,
    free (by decide) (by decide), List.nil_append]

include full

theorem HeaderCarries.offers (carries : HeaderCarries h token) : HeaderOffers h token := by
  obtain ⟨scheme, bearer, first⟩ := carries
  exact headerOffers_of_get? bearer (marks_of_legal legal) full first

theorem CookieCarries.offers (carries : CookieCarries h token) : CookieOffers h token := by
  obtain ⟨before, part, after, parts, others, assigned⟩ := carries
  have assigns {value : String} (whole : Text.trim part = "auth_token=" ++ value) :
      First (Assigns "auth_token") (cookieParts h) value := by
    refine ⟨before, part, after, parts, others, "auth_token", ?_, by decide, by decide⟩
    rw [whole]
    simp [String.toList_append]
  obtain bare | quoted := assigned
  · exact ⟨token, assigns bare, unquotes_of_legal legal (.inl rfl), full⟩
  · refine ⟨"\"" ++ token ++ "\"", assigns ?_, unquotes_of_legal legal (.inr rfl), full⟩
    rw [quoted, String.append_assoc, String.append_assoc]
    rfl

theorem QueryCarries.offers {t : Target} (carries : QueryCarries t token) :
    QueryOffers t token := by
  obtain ⟨query, before, after, asked, parts, others⟩ := carries
  have pair : Encoding.Form.assignment ("token=" ++ token) = ("token", token) := by
    have names : ∀ ch ∈ "token".toList, Encoding.Form.IsPlain ch ∧ ch ≠ '=' := by
      simp [Encoding.Form.IsPlain]
    have joined : "token=" = "token" ++ "=" := by decide
    rw [joined]
    exact Encoding.Form.assignment_eq names fun ch member =>
      (plain_of_isTokenChar (legal ch member)).1
  have nonempty : "token=" ++ token ≠ "" := by simp
  obtain ⟨earlier, later, found, read⟩ := Encoding.Form.pairs_of_split parts nonempty
  rw [pair] at found
  refine ⟨query, asked, ⟨earlier, _, later, found, ?_, rfl⟩, full⟩
  rintro _ member value rfl
  obtain ⟨part, inside, named⟩ := read _ member
  exact others part inside (congrArg Prod.fst named)

theorem Conveys.presents (conveys : Conveys r token) : Presents r token := by
  cases conveys with
  | header carries => exact .header (carries.offers legal full)
  | cookie headless carries => exact .cookie headless (carries.offers legal full)
  | parameter headless cookieless carries =>
      exact .parameter headless cookieless (carries.offers legal full)

end Tokens

/-- The token depends on the first authorization value, the cookies and the query alone. -/
theorem ofRequest?_congr
    (header : r.headers.text? "authorization" = r'.headers.text? "authorization")
    (parts : cookieParts r.headers = cookieParts r'.headers)
    (query : r.target.query = r'.target.query) : ofRequest? r = ofRequest? r' := by
  unfold ofRequest? ofAuthorization? ofCookie? ofQuery?
  rw [header, cookies_eq, cookies_eq, parts, query]

end Credential

/-! ## Who is authenticated -/

theorem Gatekeeper.authenticate_congr (g : Gatekeeper) {r r' : Request}
    (token : Credential.ofRequest? r = Credential.ofRequest? r') (method : r.method = r'.method)
    (path : r.path = r'.path) : g.authenticate r = g.authenticate r' := by
  unfold authenticate identify forbidden
  rw [token, method, path]

theorem SignIn.presented_congr (s : SignIn) {r r' : Request}
    (token : Credential.ofRequest? r = Credential.ofRequest? r') :
    s.presented r = s.presented r' := by
  unfold presented
  rw [token]

namespace Credential

open TokenMaker (IsTokenChar)

/-- A request presents what its first carrier offers that offers a token, which is never empty, and
nothing but the carriers matters. A text of the characters of tokens is presented as it stands,
whichever carrier has it. So a token that was issued is authenticated alike however it is sent. -/
theorem extraction_exact :
    (∀ r token, ofRequest? r = some token ↔ Presents r token) ∧
    (∀ r, ofRequest? r ≠ some "") ∧
    (∀ r r' : Request, r.headers.text? "authorization" = r'.headers.text? "authorization" →
      cookieParts r.headers = cookieParts r'.headers → r.target.query = r'.target.query →
      ofRequest? r = ofRequest? r') ∧
    (∀ r token, token ≠ "" → (∀ ch ∈ token.toList, IsTokenChar ch) → Conveys r token →
      ofRequest? r = some token) ∧
    ∀ (m : TokenMaker) id username subject lifetime now token c,
      m.create? id username subject lifetime now = some (token, c) →
      ∀ r r', Conveys r token → Conveys r' token → r.method = r'.method → r.path = r'.path →
        (∀ g : Gatekeeper, g.authenticate r = g.authenticate r') ∧
          ∀ s : SignIn, s.presented r = s.presented r' := by
  have extracted (r : Request) (token : String) (full : token ≠ "")
      (legal : ∀ ch ∈ token.toList, IsTokenChar ch) (conveys : Conveys r token) :
      ofRequest? r = some token := ofRequest?_eq_some_iff.mpr (conveys.presents legal full)
  refine ⟨fun r token => ofRequest?_eq_some_iff, ?_, fun r r' => ofRequest?_congr, extracted, ?_⟩
  · intro r nothing
    exact (ofRequest?_eq_some_iff.mp nothing).ne_empty rfl
  · intro m id username subject lifetime now token c issued r r' conveys conveys' method path
    obtain ⟨-, -, rfl⟩ := TokenMaker.create?_eq_some_iff.mp issued
    have legal : ∀ ch ∈ (m.encode c).toList, IsTokenChar ch := fun ch =>
      m.isTokenChar_encode
    have same : ofRequest? r = ofRequest? r' :=
      (extracted r _ m.encode_ne_empty legal conveys).trans
        (extracted r' _ m.encode_ne_empty legal conveys').symm
    exact ⟨fun g => g.authenticate_congr same method path, fun s => s.presented_congr same⟩

/-- A token behind a scheme, between quotes and among parameters, past carriers that have none; and
an issued one in each carrier alone. -/
theorem extraction_exact_three_ways :
    let byHeader : Request := ⟨.get, ⟨"/x", some "token=q"⟩, [("authorization", "bEARER a.b-c")], ""⟩
    let byCookie : Request := ⟨.get, ⟨"/x", none⟩,
      [("authorization", "Basic dTpw"), ("cookie", "theme=dark; auth_token=\"a.b-c\"; lang=de")], ""⟩
    let byQuery : Request := ⟨.get, ⟨"/x", some "page=2&token=a.b-c&token=d"⟩,
      [("authorization", "Bearer  "), ("cookie", "auth_token=")], ""⟩
    let asks (headers : Headers) (query : Option String) : Request :=
      ⟨.get, ⟨"/x", query⟩, headers, ""⟩
    ofRequest? byHeader = some "a.b-c" ∧ ofRequest? byCookie = some "a.b-c" ∧
      ofRequest? byQuery = some "a.b-c" ∧
      ∃ token c, ({ secret := [] } : TokenMaker).create? (.ofSeed 1) "ada" "7" 3600000000000 ⟨0⟩ =
        some (token, c) ∧ ∀ g : Gatekeeper,
        g.authenticate (asks [("authorization", "Bearer " ++ token)] none) =
          g.authenticate (asks [("cookie", "auth_token=" ++ token)] none) ∧
        g.authenticate (asks [("authorization", "Bearer " ++ token)] none) =
          g.authenticate (asks [] (some ("token=" ++ token))) := by
  intro byHeader byCookie byQuery asks
  obtain ⟨-, -, -, extracted, alike⟩ := extraction_exact
  have legal : ∀ ch ∈ "a.b-c".toList, IsTokenChar ch := by
    simp [IsTokenChar, Encoding.Base64Url.valueOf?]
  have headless {h : Headers} (none : ofAuthorization? h = none) (other : String) :
      ¬ HeaderOffers h other := by
    rw [← ofAuthorization?_eq_some_iff, none]
    exact nofun
  have cookieless {h : Headers} (none : ofCookie? h = none) (other : String) :
      ¬ CookieOffers h other := by
    rw [← ofCookie?_eq_some_iff, none]
    exact nofun
  refine ⟨extracted _ _ (by decide) legal (.header ⟨"bEARER", by decide, rfl⟩),
    extracted _ _ (by decide) legal (.cookie (headless (by decide +kernel)) ?_),
    extracted _ _ (by decide) legal (.parameter (headless (by decide +kernel))
      (cookieless (by decide +kernel)) ?_), ?_⟩
  · refine ⟨["theme=dark"], " auth_token=\"a.b-c\"", [" lang=de"], by decide +kernel, ?_,
      .inr (by decide +kernel)⟩
    intro p member value assigns
    rw [List.mem_singleton.mp member, assigns_iff] at assigns
    obtain ⟨entry, reads, named, -⟩ := assigns
    have read : cookiePair? "theme=dark" = some ("theme", "dark") := by decide +kernel
    cases read.symm.trans reads
    exact absurd named (by decide +kernel)
  · exact ⟨_, ["page=2"], ["token=d"], rfl, by decide +kernel, by decide +kernel⟩
  · let m : TokenMaker := { secret := [] }
    obtain ⟨token, c, issued, legal⟩ : ∃ token c,
        m.create? (.ofSeed 1) "ada" "7" 3600000000000 ⟨0⟩ = some (token, c) ∧
          ∀ ch ∈ token.toList, IsTokenChar ch :=
      ⟨_, _, TokenMaker.create?_eq_some_iff.mpr ⟨rfl, by decide, rfl⟩, fun _ =>
        m.isTokenChar_encode⟩
    obtain ⟨header, cookie, query⟩ := carries_alone legal "/x"
    let inHeader := asks [("authorization", "Bearer " ++ token)] none
    let inCookie := asks [("cookie", "auth_token=" ++ token)] none
    let inQuery := asks [] (some ("token=" ++ token))
    have viaHeader : Conveys inHeader token := .header header
    have viaCookie : Conveys inCookie token := .cookie (headless rfl) cookie
    have viaQuery : Conveys inQuery token := .parameter (headless rfl) (cookieless rfl) query
    refine ⟨token, c, issued, fun g => ⟨?_, ?_⟩⟩
    · exact (alike m _ _ _ _ _ token c issued inHeader inCookie viaHeader viaCookie rfl rfl).1 g
    · exact (alike m _ _ _ _ _ token c issued inHeader inQuery viaHeader viaQuery rfl rfl).1 g

end Credential

end HttpService

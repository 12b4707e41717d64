import HttpService.Proofs.Act
import HttpService.Stage.Cors
import Mathlib.Data.List.Basic

/-!
# Cross-origin answers

What an answer says to the pages of other origins. What is allowed are the policy's methods, headers
and age, on every answer. The origin that is named is the request's own if it is listed, and an
asterisk if it is not and an asterisk is listed; else it is left to what lies behind the stage.
-/

namespace HttpService

/-! ## Lists in headers -/

namespace Headers

theorem legal_intercalate {items : List (List Char)} {legal : Char → Bool}
    (each : ∀ item ∈ items, item.all legal = true) (comma : legal ',' = true)
    (space : legal ' ' = true) : ([',', ' '].intercalate items).all legal = true := by
  induction items with
  | nil => rfl
  | cons item items ih =>
      have rest := ih fun other member => each other (.tail _ member)
      have first := each item (.head _)
      cases items with
      | nil => simpa [List.intercalate_singleton] using first
      | cons next items =>
          rw [List.intercalate_cons_cons, List.all_append, List.all_append, first, rest]
          simp [comma, space]

theorem legalValue_intercalate {items : List String}
    (legal : ∀ item ∈ items, legalValue item = true) :
    legalValue (", ".intercalate items) = true := by
  unfold legalValue at *
  rw [String.toList_intercalate]
  exact legal_intercalate (List.forall_mem_map.mpr legal) (by decide) (by decide)

end Headers

namespace CorsPolicy

variable {p : CorsPolicy}

theorem headerList_of_legal {items : List String}
    (legal : ∀ item ∈ items, Headers.legalValue item = true) :
    headerList items = ", ".intercalate items :=
  if_pos (Headers.legalValue_intercalate legal)

theorem headersValue_eq (p : CorsPolicy) :
    p.headersValue = ", ".intercalate (p.headers.filter Headers.legalValue) :=
  headerList_of_legal fun _ member => (List.mem_filter.mp member).2

theorem methodsValue_eq (legal : ∀ m ∈ p.methods, Headers.legalValue m.name = true) :
    p.methodsValue = ", ".intercalate (p.methods.map Method.name) :=
  headerList_of_legal (List.forall_mem_map.mpr legal)

/-! ## The origin -/

/-- The request's origin, as text, is on the list, and no asterisk. -/
def Lists (p : CorsPolicy) (request : Headers) (origin : String) : Prop :=
  request.text? "origin" = some origin ∧ origin ≠ "*" ∧ origin ∈ p.origins

variable {request : Headers} {origin : String}

theorem allowedOrigin?_of_lists (lists : p.Lists request origin) :
    p.allowedOrigin? (request.get? "origin") = some (origin, true) := by
  obtain ⟨text, named, listed⟩ := lists
  unfold Headers.text? at text
  cases given : request.get? "origin" with
  | none =>
      rw [given] at text
      cases text
  | some o =>
      rw [given] at text
      obtain ⟨readable, same⟩ := Option.ite_none_right_eq_some.mp text
      obtain rfl := Option.some.inj same
      simp [allowedOrigin?, isListed, readable, named, listed]

theorem allowedOrigin?_of_not_lists (unlisted : ∀ origin, ¬ p.Lists request origin) :
    p.allowedOrigin? (request.get? "origin") =
      if p.origins.contains "*" then some ("*", false) else none := by
  cases given : request.get? "origin" with
  | none => rfl
  | some o =>
      refine if_neg fun accepted => unlisted o ?_
      simp only [isListed, Bool.and_eq_true, bne_iff_ne, List.contains_iff_mem] at accepted
      exact ⟨by simp [Headers.text?, given, accepted.1], accepted.2⟩

/-- The headers with the origin that is allowed. -/
def nameOrigin (p : CorsPolicy) (origin : Option String) (h : Headers) : Headers :=
  match p.allowedOrigin? origin with
  | some (o, true) => (h.insert "access-control-allow-origin" o).append "vary" "Origin"
  | some (o, false) => h.insert "access-control-allow-origin" o
  | none => h

theorem apply_eq (origin : Option String) (h : Headers) :
    p.apply origin h =
      (((p.nameOrigin origin h).insert "access-control-allow-methods" p.methodsValue).insert
        "access-control-allow-headers" p.headersValue).insert "access-control-max-age"
          p.maxAgeValue :=
  rfl

/-- The headers that the stage has to do with. -/
def headerNames : List String :=
  ["access-control-allow-origin", "vary", "access-control-allow-methods",
    "access-control-allow-headers", "access-control-max-age"]

/-- What the answer to a request has, if what lies behind the stage has given it these headers. -/
structure Applied (p : CorsPolicy) (request inner outer : Headers) : Prop where
  listed : ∀ origin, p.Lists request origin →
    outer.getAll "access-control-allow-origin" = [origin] ∧
      outer.getAll "vary" = inner.getAll "vary" ++ ["Origin"]
  any : (∀ origin, ¬ p.Lists request origin) → "*" ∈ p.origins →
    outer.getAll "access-control-allow-origin" = ["*"] ∧ outer.getAll "vary" = inner.getAll "vary"
  left : (∀ origin, ¬ p.Lists request origin) → "*" ∉ p.origins →
    outer.getAll "access-control-allow-origin" = inner.getAll "access-control-allow-origin" ∧
      outer.getAll "vary" = inner.getAll "vary"
  methods : (∀ m ∈ p.methods, Headers.legalValue m.name = true) →
    outer.getAll "access-control-allow-methods" = [", ".intercalate (p.methods.map Method.name)]
  headers : outer.getAll "access-control-allow-headers" =
    [", ".intercalate (p.headers.filter Headers.legalValue)]
  maxAge : outer.getAll "access-control-max-age" = [toString p.maxAge.seconds]
  others : ∀ name, Headers.lowerName name ∉ headerNames → outer.getAll name = inner.getAll name

section

variable {inner : Headers} {name : String}

/-- Three headers are set on every answer, and the others are not touched by that. -/
theorem getAll_apply
    (methods : Headers.lowerName name ≠ Headers.lowerName "access-control-allow-methods")
    (headers : Headers.lowerName name ≠ Headers.lowerName "access-control-allow-headers")
    (maxAge : Headers.lowerName name ≠ Headers.lowerName "access-control-max-age")
    (origin : Option String) :
    (p.apply origin inner).getAll name = (p.nameOrigin origin inner).getAll name := by
  rw [apply_eq, Headers.getAll_insert_of_ne maxAge, Headers.getAll_insert_of_ne headers,
    Headers.getAll_insert_of_ne methods]

theorem origin_apply (p : CorsPolicy) (origin : Option String) (inner : Headers) :
    (p.apply origin inner).getAll "access-control-allow-origin" =
      (p.nameOrigin origin inner).getAll "access-control-allow-origin" :=
  getAll_apply (by decide) (by decide) (by decide) origin

theorem vary_apply (p : CorsPolicy) (origin : Option String) (inner : Headers) :
    (p.apply origin inner).getAll "vary" = (p.nameOrigin origin inner).getAll "vary" :=
  getAll_apply (by decide) (by decide) (by decide) origin

theorem nameOrigin_of_lists (lists : p.Lists request origin) (inner : Headers) :
    p.nameOrigin (request.get? "origin") inner =
      (inner.insert "access-control-allow-origin" origin).append "vary" "Origin" := by
  rw [nameOrigin, allowedOrigin?_of_lists lists]

theorem nameOrigin_any (unlisted : ∀ origin, ¬ p.Lists request origin) (any : "*" ∈ p.origins)
    (inner : Headers) :
    p.nameOrigin (request.get? "origin") inner =
      inner.insert "access-control-allow-origin" "*" := by
  rw [nameOrigin, allowedOrigin?_of_not_lists unlisted, if_pos (List.contains_iff_mem.mpr any)]

theorem nameOrigin_none (unlisted : ∀ origin, ¬ p.Lists request origin) (none : "*" ∉ p.origins)
    (inner : Headers) : p.nameOrigin (request.get? "origin") inner = inner := by
  rw [nameOrigin, allowedOrigin?_of_not_lists unlisted,
    if_neg (mt List.contains_iff_mem.mp none)]

/-- Whether the origin is listed, there is an asterisk, or neither. -/
theorem nameOrigin_cases (p : CorsPolicy) (request inner : Headers) :
    (∃ origin, p.nameOrigin (request.get? "origin") inner =
        (inner.insert "access-control-allow-origin" origin).append "vary" "Origin") ∨
      p.nameOrigin (request.get? "origin") inner =
        inner.insert "access-control-allow-origin" "*" ∨
      p.nameOrigin (request.get? "origin") inner = inner := by
  by_cases listed : ∃ origin, p.Lists request origin
  · obtain ⟨origin, lists⟩ := listed
    exact .inl ⟨origin, nameOrigin_of_lists lists inner⟩
  · have unlisted := not_exists.mp listed
    by_cases any : "*" ∈ p.origins
    · exact .inr (.inl (nameOrigin_any unlisted any inner))
    · exact .inr (.inr (nameOrigin_none unlisted any inner))

theorem applied_apply (p : CorsPolicy) (request inner : Headers) :
    p.Applied request inner (p.apply (request.get? "origin") inner) where
  listed origin lists := by
    rw [origin_apply, vary_apply, nameOrigin_of_lists lists]
    constructor
    · rw [Headers.getAll_append_of_ne (by decide), Headers.getAll_insert_self]
    · rw [Headers.getAll_append_self, Headers.getAll_insert_of_ne (by decide)]
  any unlisted any := by
    rw [origin_apply, vary_apply, nameOrigin_any unlisted any]
    exact ⟨Headers.getAll_insert_self .., Headers.getAll_insert_of_ne (by decide) _⟩
  left unlisted none := by
    rw [origin_apply, vary_apply, nameOrigin_none unlisted none]
    exact ⟨rfl, rfl⟩
  methods legal := by
    rw [apply_eq, Headers.getAll_insert_of_ne (by decide), Headers.getAll_insert_of_ne (by decide),
      Headers.getAll_insert_self, methodsValue_eq legal]
  headers := by
    rw [apply_eq, Headers.getAll_insert_of_ne (by decide), Headers.getAll_insert_self,
      headersValue_eq]
  maxAge := Headers.getAll_insert_self ..
  others name apart := by
    -- The names are in lower case, so a name that is none of them differs from each in any case.
    have lowered : headerNames = headerNames.map Headers.lowerName := by decide
    have different (other : String) (own : other ∈ headerNames) :
        Headers.lowerName name ≠ Headers.lowerName other := fun same =>
      apart (lowered ▸ same ▸ List.mem_map_of_mem own)
    rw [getAll_apply (different _ (by decide)) (different _ (by decide)) (different _ (by decide))]
    rcases nameOrigin_cases p request inner with ⟨origin, named⟩ | named | named
    · rw [named, Headers.getAll_append_of_ne (different _ (by decide)),
        Headers.getAll_insert_of_ne (different _ (by decide))]
    · rw [named, Headers.getAll_insert_of_ne (different _ (by decide))]
    · rw [named]

end

end CorsPolicy

namespace Stage

variable {p : CorsPolicy} {request : Request} {next : Next} {flow after : Flow}

/-- The last act of the stage. -/
def allow (p : CorsPolicy) (request : Request) (inner : Response) : Act Flow Response :=
  Act.pure { inner with headers := p.apply (request.headers.get? "origin") inner.headers }

theorem cors_preflight (preflight : request.method = .options) (next : Next) (flow : Flow) :
    (cors p).process request next flow =
      (.done ⟨200, p.apply (request.headers.get? "origin") [], ""⟩, flow) := by
  have answers : (cors p).process request next = Act.pure ⟨200, [], ""⟩ >>= allow p request :=
    if_pos preflight
  rw [answers]
  rfl

theorem cors_onward (other : request.method ≠ .options) (next : Next) (flow : Flow) :
    (cors p).process request next flow = (next.run request >>= allow p request) flow := by
  have goesOn : (cors p).process request next = next.run request >>= allow p request :=
    if_neg other
  rw [goesOn]

/-- How the stage answers. A preflight is answered whatever lies behind; any other request goes on,
and what comes back is changed in its headers only. -/
theorem cors_answers (p : CorsPolicy) (request : Request) :
    (request.method = .options → ∃ headers, p.Applied request.headers [] headers ∧
      ∀ next flow, (cors p).process request next flow = (.done ⟨200, headers, ""⟩, flow)) ∧
    (request.method ≠ .options → ∀ (next : Next) (flow after : Flow) (ending : Ending Response),
      next.run request flow = (ending, after) →
        (∀ inner, ending = .done inner → ∃ headers,
          p.Applied request.headers inner.headers headers ∧
            (cors p).process request next flow =
              (.done { inner with headers := headers }, after)) ∧
        ((∀ inner, ending ≠ .done inner) →
          (cors p).process request next flow = (ending, after))) := by
  constructor
  · intro preflight
    exact ⟨_, p.applied_apply request.headers [], cors_preflight preflight⟩
  · intro other next flow after ending ran
    rw [cors_onward other]
    constructor
    · rintro inner rfl
      exact ⟨_, p.applied_apply request.headers inner.headers, Act.bind_done ran _⟩
    · intro unanswered
      cases ending with
      | done inner => exact absurd rfl (unanswered inner)
      | panicked raised => exact Act.bind_panicked ran _
      | dropped => exact Act.bind_dropped ran _

/-- An origin that is not listed, where what lies behind allows any. -/
theorem cors_answers_left :
    let p : CorsPolicy := { origins := ["https://ui.example"] }
    let request : Request :=
      { method := .get, target := ⟨"/files", none⟩, headers := [("origin", "https://evil.example")],
        body := "" }
    let handler : Handler := fun _ _ =>
      Act.pure (.ok (Response.noContent.withHeader "access-control-allow-origin" "*"))
    let flow : Flow := { context := Context.withSignal 0, site := {} }
    ∃ headers,
      (cors p).process request (.endpoint handler) flow = (.done ⟨204, headers, ""⟩, flow) ∧
      headers.getAll "access-control-allow-origin" = ["*"] ∧
      headers.getAll "access-control-allow-methods" =
        ["GET, POST, PUT, PATCH, DELETE, OPTIONS"] := by
  intro p request handler flow
  obtain ⟨-, onward⟩ := cors_answers p request
  obtain ⟨answers, -⟩ := onward (by decide) (.endpoint handler) flow flow _ rfl
  obtain ⟨headers, applied, answered⟩ := answers _ rfl
  have unlisted : ∀ origin, ¬ p.Lists request.headers origin := by
    rintro origin ⟨text, -, listed⟩
    have given : request.headers.text? "origin" = some "https://evil.example" := by decide
    rw [given] at text
    obtain rfl := Option.some.inj text
    exact absurd listed (by decide)
  refine ⟨headers, answered, ?_, ?_⟩
  · rw [(applied.left unlisted (by decide)).1]
    decide
  · rw [applied.methods (by decide)]
    decide

/-- So an origin that is refused may be named all the same. -/
theorem not_always_refused :
    ¬ ∀ (p : CorsPolicy) (request : Request) (next : Next) (flow after : Flow)
        (response : Response),
      (cors p).process request next flow = (.done response, after) →
        (∀ origin, ¬ p.Lists request.headers origin) → "*" ∉ p.origins →
          response.headers.getAll "access-control-allow-origin" = [] := by
  intro refuses
  let p : CorsPolicy := { origins := [] }
  let request : Request := { method := .get, target := ⟨"/files", none⟩, headers := [], body := "" }
  let handler : Handler := fun _ _ =>
    Act.pure (.ok (Response.noContent.withHeader "access-control-allow-origin" "*"))
  have refused := refuses p request (.endpoint handler)
    { context := Context.withSignal 0, site := {} } _ _ rfl (fun _ lists => nomatch lists.1)
    (by decide)
  exact absurd refused (by decide)

end Stage

end HttpService

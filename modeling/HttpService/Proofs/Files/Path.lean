import HttpService.Endpoint.Files
import HttpService.Proofs.Json.Members

/-!
# The path that a request gives

A query gives a path if exactly one of its decoded pairs is named `path`. A body gives one if it is
an object with exactly one member of that name, or an array of one item, and the value is a string
without lone surrogates. A percent escape always stands for some text, so a query cannot be
undecodable; a body can. The endpoints take the path that is given if it is absolute, and refuse
every other request as an invalid argument.
-/

namespace HttpService

/-! ## Paths in a query -/

/-- Exactly one pair of the query is named `path`, and this is its decoded value. -/
def QueryGives (query path : String) : Prop :=
  ∃ before after, Encoding.Form.pairs query = before ++ ("path", path) :: after ∧
    ∀ pair ∈ before ++ after, pair.1 ≠ "path"

theorem queryGives_iff {query path : String} : QueryGives query path ↔
    ((Encoding.Form.pairs query).filter fun pair => pair.1 == "path") = [("path", path)] := by
  have others (l : List (String × String)) :
      (l.filter fun pair => pair.1 == "path") = [] ↔ ∀ pair ∈ l, pair.1 ≠ "path" := by
    simp only [List.filter_eq_nil_iff, beq_iff_eq, ne_eq]
  constructor
  · rintro ⟨before, after, split, apart⟩
    obtain ⟨first, last⟩ := List.forall_mem_append.mp apart
    rw [split, List.filter_append, (others before).mpr first,
      List.nil_append, List.filter_cons_of_pos (by rfl), (others after).mpr last]
  · intro single
    obtain ⟨before, after, split, first, -, last⟩ := List.filter_eq_cons_iff.mp single
    refine ⟨before, after, split, List.forall_mem_append.mpr ⟨?_, (others after).mp last⟩⟩
    exact fun pair member same => first pair member (beq_iff_eq.mpr same)

/-! ## Paths in a body -/

namespace Json

namespace Fields

section

variable {name : String} {ms : List (List Piece × Document)} {given : List (String × Document)}

/-- The member is known by another name. -/
def IsOther (name : String) (m : List Piece × Document) : Prop :=
  ∃ other, pieces m.1 = .ok other ∧ other ≠ name

/-- What an open record with a single field collects: nothing if no member is named so, and one
member if no other one is. -/
inductive CollectsOne (name : String) :
    List (List Piece × Document) → List (String × Document) → Prop
  | absent {ms : List (List Piece × Document)} (others : ∀ m ∈ ms, IsOther name m) :
      CollectsOne name ms []
  | present {before after : List (List Piece × Document)} {key : List Piece} {d : Document}
      (named : pieces key = .ok name) (others : ∀ m ∈ before ++ after, IsOther name m) :
      CollectsOne name (before ++ (key, d) :: after) [(name, d)]

theorem CollectsOne.skip {m : List Piece × Document} (other : IsOther name m)
    (collects : CollectsOne name ms given) : CollectsOne name (m :: ms) given := by
  cases collects with
  | absent others => exact .absent (List.forall_mem_cons.mpr ⟨other, others⟩)
  | @present before after key d named others =>
      exact @CollectsOne.present name (m :: before) after key d named
        (List.forall_mem_cons.mpr ⟨other, others⟩)

theorem collect_skip {m : List Piece × Document} (other : IsOther name m) :
    collect [name] false (m :: ms) = collect [name] false ms := by
  obtain ⟨key, named, different⟩ := other
  have unknown : key ∉ [name] := mt List.mem_singleton.mp different
  rw [collect, named]
  cases collect [name] false ms <;> simp [bind, Except.bind, unknown]

theorem collect_skipAll {before : List (List Piece × Document)}
    (others : ∀ m ∈ before, IsOther name m) :
    collect [name] false (before ++ ms) = collect [name] false ms := by
  induction before with
  | nil => rfl
  | cons m before ih =>
      obtain ⟨other, rest⟩ := List.forall_mem_cons.mp others
      rw [List.cons_append, collect_skip other, ih rest]

theorem collect_others (others : ∀ m ∈ ms, IsOther name m) :
    collect [name] false ms = .ok [] := by
  rw [← List.append_nil ms, collect_skipAll others]
  rfl

theorem collect_named_eq_ok_iff {key : List Piece} {d : Document} (named : pieces key = .ok name) :
    collect [name] false ((key, d) :: ms) = .ok given ↔
      ∃ rest, collect [name] false ms = .ok rest ∧ (∀ entry ∈ rest, entry.1 ≠ name) ∧
        given = (name, d) :: rest := by
  rw [collect, named]
  change (collect [name] false ms >>= _) = _ ↔ _
  rw [bind_eq_ok]
  refine exists_congr fun rest => and_congr_right fun _ => ?_
  rw [if_pos (List.mem_singleton_self name)]
  by_cases again : rest.any (fun entry => entry.1 == name) = true
  · obtain ⟨entry, inside, same⟩ := List.any_eq_true.mp again
    rw [if_pos again]
    constructor
    · intro twice
      cases twice
    · rintro ⟨fresh, -⟩
      exact absurd (beq_iff_eq.mp same) (fresh entry inside)
  · have fresh : ∀ entry ∈ rest, entry.1 ≠ name := fun entry inside same =>
      again (List.any_eq_true.mpr ⟨entry, inside, beq_iff_eq.mpr same⟩)
    rw [if_neg again]
    constructor
    · intro same
      exact ⟨fresh, (Except.ok.inj same).symm⟩
    · rintro ⟨-, rfl⟩
      rfl

theorem collect_single_eq_ok_iff :
    collect [name] false ms = .ok given ↔ CollectsOne name ms given := by
  constructor
  · intro collected
    induction ms generalizing given with
    | nil =>
        cases collected
        exact .absent nofun
    | cons m ms ih =>
        obtain ⟨key, named, -⟩ := bind_eq_ok.mp collected
        by_cases same : key = name
        · -- What is collected after a member of the name is nothing, for it is not repeated.
          subst same
          obtain ⟨rest, later, fresh, rfl⟩ := (collect_named_eq_ok_iff named).mp collected
          cases ih later with
          | absent others => exact @CollectsOne.present _ [] ms m.1 m.2 named others
          | present => exact absurd rfl (fresh _ List.mem_cons_self)
        · have other : IsOther name m := ⟨key, named, same⟩
          exact (ih ((collect_skip other).symm.trans collected)).skip other
  · rintro (others | ⟨named, others⟩)
    · exact collect_others others
    · obtain ⟨first, last⟩ := List.forall_mem_append.mp others
      rw [collect_skipAll first, collect_named_eq_ok_iff named]
      exact ⟨[], collect_others last, nofun, rfl⟩

end

end Fields

/-- The document is an object with exactly one member named `path`, or an array of one item, and the
value there is this text. -/
inductive Document.GivesPath (path : String) : Document → Prop
  | member {before after : List (List Piece × Document)} {name value : List Piece}
      (named : pieces name = .ok "path") (text : pieces value = .ok path)
      (others : ∀ m ∈ before ++ after, Fields.IsOther "path" m) :
      GivesPath path (.object (before ++ (name, .text value) :: after))
  | item {value : List Piece} (text : pieces value = .ok path) :
      GivesPath path (.array [.text value])

theorem Reader.string_eq_ok_iff {level : Nat} {d : Document} {s : String} :
    string level d = .ok s ↔ ∃ value, d = .text value ∧ pieces value = .ok s := by
  cases d <;> simp [string]

end Json

namespace Endpoint

open Json

theorem pathReader_eq_ok_iff {level : Nat} {d : Document} {path : String} :
    pathReader (level + 1) d = .ok path ↔ d.GivesPath path := by
  constructor
  · intro read
    cases d with
    | object ms =>
        obtain ⟨given, collected, built⟩ := bind_eq_ok.mp read
        cases Fields.collect_single_eq_ok_iff.mp collected with
        | absent => cases built
        | present named others =>
            obtain ⟨value, rfl, text⟩ := Reader.string_eq_ok_iff.mp built
            exact .member named text others
    | array ds =>
        match ds, read with
        | [d], read =>
            obtain ⟨value, rfl, text⟩ := Reader.string_eq_ok_iff.mp read
            exact .item text
    | _ => cases read
  · rintro (⟨named, text, others⟩ | text)
    · refine bind_eq_ok.mpr ⟨_, Fields.collect_single_eq_ok_iff.mpr (.present named others), ?_⟩
      exact text
    · exact text

end Endpoint

/-- The body is a document that gives the path. -/
def BodyGives (body path : String) : Prop :=
  ∃ d, Json.Document.parse? body.toList = some d ∧ d.GivesPath path

theorem not_bodyGives_empty (path : String) : ¬ BodyGives "" path := by
  rintro ⟨d, parsed, -⟩
  cases parsed

/-! ## Paths that are passed on -/

/-- The path begins with a slash. -/
def IsAbsolute (path : String) : Prop :=
  ∃ rest, path.toList = '/' :: rest

namespace Endpoint

theorem read_pathReader_eq_ok_iff {body path : String} :
    Json.read pathReader body = .ok path ↔ BodyGives body path := by
  unfold Json.read BodyGives
  cases Json.Document.parse? body.toList with
  | none => simp
  | some d =>
      have read : pathReader Json.depthLimit d = .ok path ↔ d.GivesPath path :=
        pathReader_eq_ok_iff
      simpa using read

theorem jsonBody_eq_ok_iff {request : Request} {path : String} :
    Request.jsonBody pathReader request = .ok path ↔ BodyGives request.body path := by
  rw [← read_pathReader_eq_ok_iff]
  unfold Request.jsonBody
  by_cases empty : request.body = ""
  · have refused := mt read_pathReader_eq_ok_iff.mp (not_bodyGives_empty path)
    simp [empty, refused]
  · rw [if_neg (by simpa using empty)]
    cases Json.read pathReader request.body <;> simp

theorem startsWith_slash_iff {path : String} :
    Text.startsWith path "/" = true ↔ IsAbsolute path := by
  rw [Text.startsWith, List.isPrefixOf_iff_prefix]
  exact exists_congr fun rest => eq_comm

/-- What stands for a path that is not absolute. -/
def relativePath (path : String) : Failure :=
  (Failure.invalidArgument "path must be absolute").withField "path" (.text path)

theorem absolute_of_isAbsolute {path : String} (fits : IsAbsolute path) :
    absolute path = .ok path :=
  if_pos (startsWith_slash_iff.mpr fits)

theorem absolute_of_not_isAbsolute {path : String} (relative : ¬ IsAbsolute path) :
    absolute path = .error (relativePath path) :=
  if_neg (mt startsWith_slash_iff.mp relative)

/-- Where a request gives its path. -/
inductive PathSource
  | query
  | body

namespace PathSource

variable {source : PathSource} {request : Request} {path other : String} {f : Failure}

def Gives : PathSource → Request → String → Prop
  | query, request, path => QueryGives (request.target.query.getD "") path
  | body, request, path => BodyGives request.body path

/-- What an endpoint makes of a request before it asks the store. -/
def read : PathSource → Request → Except Failure String
  | query, request => queryPath request
  | body, request => bodyPath request

theorem Gives.unique (gives : source.Gives request path) (others : source.Gives request other) :
    path = other := by
  cases source with
  | query =>
      have same := (queryGives_iff.mp gives).symm.trans (queryGives_iff.mp others)
      simpa using same
  | body =>
      have same := (jsonBody_eq_ok_iff.mpr gives).symm.trans (jsonBody_eq_ok_iff.mpr others)
      exact Except.ok.inj same

/-- Why a request is refused. -/
inductive Refuses : PathSource → Request → Failure → Prop
  | relative {source : PathSource} {request : Request} {path : String}
      (given : source.Gives request path) (relative : ¬ IsAbsolute path) :
      Refuses source request (relativePath path)
  | missing {request : Request} (none : ∀ path, ¬ query.Gives request path) :
      Refuses query request (.invalidArgument "query parameter 'path' is required")
  | empty {request : Request} (empty : request.body = "") :
      Refuses body request (.invalidArgument "request body is empty")
  | unreadable {request : Request} {fault : Json.Fault} (none : ∀ path, ¬ body.Gives request path)
      (full : request.body ≠ "") (faulty : Json.read pathReader request.body = .error fault) :
      Refuses body request (.ofFault fault)

theorem Refuses.code (refuses : source.Refuses request f) : f.code = .invalidArgument := by
  cases refuses <;> rfl

/-- No absolute path is refused. -/
theorem Refuses.not_absolute (refuses : source.Refuses request f)
    (gives : source.Gives request path) : ¬ IsAbsolute path := by
  cases refuses with
  | relative given relative => exact given.unique gives ▸ relative
  | missing none => exact absurd gives (none path)
  | empty empty => exact absurd (empty ▸ gives) (not_bodyGives_empty path)
  | unreadable none => exact absurd gives (none path)

/-- The path that is given is read if it is absolute. -/
theorem read_of_gives (gives : source.Gives request path) :
    source.read request = absolute path := by
  cases source with
  | query =>
      change queryPath request = _
      unfold queryPath
      rw [queryGives_iff.mp gives]
  | body =>
      change bodyPath request = _
      unfold bodyPath
      rw [jsonBody_eq_ok_iff.mpr gives]
      rfl

theorem refuses_of_none (none : ∀ path, ¬ source.Gives request path) :
    ∃ f, source.read request = .error f ∧ source.Refuses request f := by
  cases source with
  | query =>
      refine ⟨_, ?_, .missing none⟩
      change queryPath request = _
      unfold queryPath
      dsimp only
      split
      · next name path single =>
          have here : (name, path) ∈ [(name, path)] := List.mem_singleton_self _
          obtain rfl : name = "path" := by
            rw [← single, List.mem_filter] at here
            exact beq_iff_eq.mp here.2
          exact absurd (queryGives_iff.mpr single) (none path)
      · rfl
  | body =>
      by_cases empty : request.body = ""
      · refine ⟨_, ?_, .empty empty⟩
        change bodyPath request = _
        simp [bodyPath, Request.jsonBody, empty, bind, Except.bind]
      · cases faulty : Json.read pathReader request.body with
        | ok path => exact absurd (read_pathReader_eq_ok_iff.mp faulty) (none path)
        | error fault =>
            refine ⟨_, ?_, .unreadable none empty faulty⟩
            change bodyPath request = _
            simp [bodyPath, Request.jsonBody, empty, faulty, bind, Except.bind]

/-- An absolute path is read if it is the one that is given, and every other request is refused. -/
theorem read_cases (source : PathSource) (request : Request) :
    (∃ path, source.Gives request path ∧ IsAbsolute path ∧ source.read request = .ok path) ∨
      ∃ f, source.Refuses request f ∧ source.read request = .error f := by
  by_cases given : ∃ path, source.Gives request path
  · obtain ⟨path, gives⟩ := given
    by_cases fits : IsAbsolute path
    · exact .inl ⟨path, gives, fits, (read_of_gives gives).trans (absolute_of_isAbsolute fits)⟩
    · refine .inr ⟨_, .relative gives fits, ?_⟩
      exact (read_of_gives gives).trans (absolute_of_not_isAbsolute fits)
  · obtain ⟨f, read, refuses⟩ := refuses_of_none (not_exists.mp given)
    exact .inr ⟨f, refuses, read⟩

end PathSource

end Endpoint

end HttpService

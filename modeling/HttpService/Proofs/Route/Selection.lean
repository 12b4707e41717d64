import HttpService.Proofs.Route.Captures
import HttpService.Proofs.Route.Composition
import Mathlib.Data.List.Infix

/-!
# The route of a request

A request goes to the first route that was registered for its method and whose pattern fits its
path, and no later call changes that. The route's handler is called with what the pattern captures
as its route parameters and with no others.
-/

namespace HttpService

/-- The route is one for the method, and its pattern fits the path. -/
def Route.Fits (route : Route) (method : Method) (path : String) : Prop :=
  route.method = method ∧ ∃ found, Pattern.Fits route.pattern.parts path.toList found

/-- No earlier one of the routes fits; this one does, and its pattern captures the parameters. -/
structure FirstFit (routes : List Route) (method : Method) (path : String) (route : Route)
    (params : Table String) : Prop where
  fits : route.Fits method path
  captured : route.pattern.captures path = some params
  first : ∃ before after, routes = before ++ route :: after ∧
    ∀ earlier ∈ before, ¬ earlier.Fits method path

/-- A handler behind the stages is called with these route parameters only: one that does something
else on others could not be told apart from it. -/
def SeesOnly (params : Table String) (stages : List Stage) (handler : Handler) (request : Request)
    (flow : Flow) : Prop :=
  ∀ other : Handler, (∀ c, c.params = params → other c = handler c) →
    (compose stages (.endpoint other)).run request flow =
      (compose stages (.endpoint handler)).run request flow

namespace Route

variable {route : Route} {method : Method} {path : String}

theorem captures_isSome_iff :
    (route.captures? method path).isSome ↔ route.Fits method path := by
  unfold captures? Fits
  by_cases same : route.method = method
  · rw [if_pos same, Pattern.captures_eq, Option.isSome_map]
    constructor
    · intro matched
      obtain ⟨found, eq⟩ := Option.isSome_iff_exists.mp matched
      exact ⟨same, found, Pattern.matchParts_sound eq⟩
    · rintro ⟨-, found, fits⟩
      exact Pattern.matchParts_complete fits
  · simp [same]

theorem captures?_eq_some_iff {params : Table String} :
    route.captures? method path = some params ↔
      route.Fits method path ∧ route.pattern.captures path = some params := by
  constructor
  · intro captured
    have fits : route.Fits method path := captures_isSome_iff.mp (by rw [captured]; rfl)
    rw [captures?, if_pos fits.1] at captured
    exact ⟨fits, captured⟩
  · rintro ⟨fits, captured⟩
    rw [captures?, if_pos fits.1, captured]

theorem captures?_eq_none_iff :
    route.captures? method path = none ↔ ¬ route.Fits method path := by
  rw [← captures_isSome_iff, Option.not_isSome_iff_eq_none]

end Route

/-! ## Parameters -/

theorem Pattern.ascending_captures {p : Pattern} {path : String} {params : Table String}
    (captured : p.captures path = some params) : Table.Ascending params := by
  rw [captures_eq] at captured
  obtain ⟨found, -, rfl⟩ := Option.map_eq_some_iff.mp captured
  exact Table.ascending_ofList _

theorem FirstFit.append {routes : List Route} {method : Method} {path : String} {route : Route}
    {params : Table String} (first : FirstFit routes method path route params)
    (more : List Route) : FirstFit (routes ++ more) method path route params := by
  obtain ⟨before, after, split, earlier⟩ := first.first
  exact { first with first := ⟨before, after ++ more, by rw [split]; simp, earlier⟩ }

namespace Router

theorem params_withParams (params : Table String) (flow : Flow) :
    (withParams params flow).context.params =
      params.foldl (fun t entry => t.insert entry.1 entry.2) flow.context.params := by
  unfold withParams
  generalize flow.context = c
  induction params generalizing c with
  | nil => rfl
  | cons entry rest ih => exact ih (c.insertParam entry.1 entry.2)

/-- A context without parameters gets exactly those that were captured. -/
theorem params_withParams_fresh {p : Pattern} {path : String} {params : Table String} {flow : Flow}
    (captured : p.captures path = some params) (fresh : flow.context.params = []) :
    (withParams params flow).context.params = params := by
  rw [params_withParams, fresh]
  exact Table.ofList_of_ascending (Pattern.ascending_captures captured)

theorem sameOn_endpoint {params : Table String} {handler other : Handler}
    (agree : ∀ c, c.params = params → other c = handler c) :
    SameOn params (Next.endpoint other).run (Next.endpoint handler).run := by
  intro request flow kept
  have called : other flow.context request = handler flow.context request :=
    congrFun (agree flow.context kept) request
  have current : Flow.current flow = (.done flow.context, flow) := rfl
  unfold Next.endpoint
  dsimp only
  rw [Act.bind_done current, Act.bind_done current, called]

theorem seesOnly_of_keepsParams {params : Table String} {stages : List Stage}
    (keep : ∀ stage ∈ stages, stage.KeepsParams) (handler : Handler) (request : Request)
    {flow : Flow} (given : flow.context.params = params) :
    SeesOnly params stages handler request flow := by
  intro other agree
  have same : SameOn params (compose stages (.endpoint other)).run
      (compose stages (.endpoint handler)).run :=
    SameOn.compose keep rfl (sameOn_endpoint agree)
  exact same request flow given

/-! ## Selection -/

variable {r r' : Router} {method : Method} {path : String} {route : Route} {params : Table String}

theorem find_eq_some_iff :
    r.find method path = some (route, params) ↔ FirstFit r.routes method path route params := by
  unfold find
  rw [List.findSome?_eq_some_iff]
  constructor
  · rintro ⟨before, stored, after, split, captured, earlier⟩
    obtain ⟨found, eq, same⟩ := Option.map_eq_some_iff.mp captured
    cases same
    obtain ⟨fits, captures⟩ := Route.captures?_eq_some_iff.mp eq
    refine ⟨fits, captures, before, after, split, fun other member => ?_⟩
    exact Route.captures?_eq_none_iff.mp (Option.map_eq_none_iff.mp (earlier other member))
  · rintro ⟨fits, captures, before, after, split, earlier⟩
    refine ⟨before, route, after, split, ?_, fun other member => ?_⟩
    · rw [Route.captures?_eq_some_iff.mpr ⟨fits, captures⟩, Option.map_some]
    · rw [Route.captures?_eq_none_iff.mpr (earlier other member), Option.map_none]

theorem find_eq_none_iff :
    r.find method path = none ↔ ∀ route ∈ r.routes, ¬ route.Fits method path := by
  unfold find
  rw [List.findSome?_eq_none_iff]
  exact forall₂_congr fun route _ => Option.map_eq_none_iff.trans Route.captures?_eq_none_iff

/-- Calls leave the routes that there are where they are. -/
theorem Step.routes_prefix {e : RouterEvent} (step : Step r e r') : r.routes <+: r'.routes := by
  cases step with
  | route known call =>
      cases registers_of_handleAll call with
      | taken listed => exact List.prefix_rfl
      | malformed unlisted flawed => exact List.prefix_rfl
      | stored unlisted compiled => exact List.prefix_append _ _
  | opened path known => exact List.prefix_rfl
  | used stage known => rw [routes_use]
  | replaced notFound => exact List.prefix_rfl

theorem Run.routes_prefix {events : List RouterEvent} (run : Run r events r') :
    r.routes <+: r'.routes := by
  induction run with
  | refl => exact List.prefix_rfl
  | tail run step ih => exact ih.trans step.routes_prefix

/-- A route that is selected stays selected, with the parameters it was selected with. -/
theorem find_later {events : List RouterEvent} (later : Run r events r')
    (found : r.find method path = some (route, params)) :
    r'.find method path = some (route, params) := by
  obtain ⟨more, whole⟩ := later.routes_prefix
  rw [find_eq_some_iff] at found ⊢
  exact whole ▸ found.append more

theorem matchRoute_eq (r : Router) (method : Method) (path : String) :
    r.matchRoute method path =
      (r.find method path).map fun found => ⟨found.1.pattern.text, found.2⟩ := rfl

/-- The router matches the method and the path with the route, and sends every such request to it:
the route's handler is called behind the stages of the route, and if no other parameters are set
before, with those of the route alone. -/
structure Serves (r : Router) (method : Method) (path : String) (route : Route)
    (params : Table String) : Prop where
  matched : r.matchRoute method path = some ⟨route.pattern.text, params⟩
  dispatched : ∀ request flow, request.method = method → request.path = path →
    r.dispatch request flow =
      (compose (r.stagesTo route.group) (.endpoint route.handler)).run request
        (withParams params flow)
  given : ∀ flow : Flow, flow.context.params = [] → (withParams params flow).context.params = params
  seen : ∀ request flow, flow.context.params = [] →
    (∀ stage ∈ r.stagesTo route.group, stage.KeepsParams) →
      SeesOnly params (r.stagesTo route.group) route.handler request (withParams params flow)

/-- The router matches nothing, and has the handler for missing routes called with no parameters. -/
structure Declines (r : Router) (method : Method) (path : String) : Prop where
  unmatched : r.matchRoute method path = none
  dispatched : ∀ request flow, request.method = method → request.path = path →
    r.dispatch request flow =
      (compose r.chain.stages (.endpoint r.notFound)).run request flow
  seen : ∀ request flow, flow.context.params = [] →
    (∀ stage ∈ r.chain.stages, stage.KeepsParams) →
      SeesOnly [] r.chain.stages r.notFound request flow

theorem serves_of_find (found : r.find method path = some (route, params)) :
    r.Serves method path route params := by
  have captured := (find_eq_some_iff.mp found).captured
  refine ⟨?_, ?_, fun flow fresh => params_withParams_fresh captured fresh, ?_⟩
  · rw [matchRoute_eq, found, Option.map_some]
  · rintro request flow rfl rfl
    exact dispatch_of_find found
  · intro request flow fresh keep
    exact seesOnly_of_keepsParams keep route.handler request
      (params_withParams_fresh captured fresh)

theorem declines_of_find_none (missing : r.find method path = none) : r.Declines method path := by
  refine ⟨?_, ?_, ?_⟩
  · rw [matchRoute_eq, missing, Option.map_none]
  · rintro request flow rfl rfl
    exact dispatch_of_find_none missing
  · intro request flow fresh keep
    exact seesOnly_of_keepsParams keep r.notFound request fresh

/-- The earliest route that fits is the one that serves, and it serves with the same parameters
whatever is called on the router later. Nothing serves if none fits. -/
theorem selection_exact (r : Router) (method : Method) (path : String) :
    (∀ route params, FirstFit r.routes method path route params →
        r.Serves method path route params ∧
          ∀ events r', Run r events r' → r'.Serves method path route params) ∧
      ((∀ route ∈ r.routes, ¬ route.Fits method path) → r.Declines method path) ∧
      ((∃ route params, FirstFit r.routes method path route params) ∨
        ∀ route ∈ r.routes, ¬ route.Fits method path) := by
  refine ⟨?_, ?_, ?_⟩
  · intro route params first
    have found := find_eq_some_iff.mpr first
    exact ⟨serves_of_find found, fun events r' later => serves_of_find (find_later later found)⟩
  · intro none
    exact declines_of_find_none (find_eq_none_iff.mpr none)
  · cases selected : r.find method path with
    | none => exact .inr (find_eq_none_iff.mp selected)
    | some found => exact .inl ⟨found.1, found.2, find_eq_some_iff.mp selected⟩

/-- A placeholder serves a path although the path itself is registered as a pattern later. -/
theorem selection_exact_earlier_placeholder :
    let parts : List Part := [.literal "/files/".toList, .placeholder "name".toList, .literal []]
    let named : Route := ⟨.get, ⟨"/files/\x7bname\x7d", parts⟩, none, noRoute⟩
    let params : Table String := [("name", "special")]
    let r : Router := { routes := [named], chain := ⟨[.accessLog]⟩ }
    ∃ events r', Run r events r' ∧
      r'.listing = [(.get, "/files/\x7bname\x7d"), (.get, "/files/special")] ∧
      r'.matchRoute .get "/files/special" = some ⟨"/files/\x7bname\x7d", params⟩ ∧
      (∀ request flow, flow.context.params = [] →
        SeesOnly params [.accessLog] noRoute request (withParams params flow)) ∧
      r'.Declines .put "/files/special" := by
  intro parts named params r
  let p : Pattern := ⟨"/files/special", [.literal "/files/special".toList]⟩
  let r' : Router := r.store ⟨.get, p, none, noRoute⟩
  have compiled : Pattern.compile "/files/special" = .ok p := by cbv
  have captured : named.pattern.captures "/files/special" = some params := by cbv
  have call : r.handleAll none [(.get, "/files/special", noRoute)] = (r', .ok ()) := by
    have full : r.full none "/files/special" = "/files/special" := rfl
    rw [handleAll_single, full]
    simp [insert, has, compiled, r, r', named, store, bind, Except.bind]
  have run : Run r [.route none .get "/files/special" noRoute (.ok ())] r' :=
    Run.refl.tail (.route (by simp [Knows]) call)
  have fits : named.Fits .get "/files/special" :=
    (Route.captures?_eq_some_iff.mp (by rw [Route.captures?, if_pos rfl, captured])).1
  have first : FirstFit r.routes .get "/files/special" named params :=
    ⟨fits, captured, [], [], rfl, by simp⟩
  have served := ((selection_exact r .get "/files/special").1 named params first).2 _ r' run
  have declined := (selection_exact r' .put "/files/special").2.1 (by
    rintro route member ⟨same, -⟩
    simp only [r', r, store, List.mem_append, List.mem_singleton] at member
    rcases member with rfl | rfl <;> cases same)
  refine ⟨_, r', run, rfl, served.matched, ?_, declined⟩
  intro request flow fresh
  refine served.seen request flow fresh ?_
  have single : r'.stagesTo named.group = [.accessLog] := rfl
  rw [single]
  intro stage member
  rw [List.mem_singleton.mp member]
  exact Stage.forwarding_accessLog.keepsParams

end Router

end HttpService

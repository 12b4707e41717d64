import HttpService.Proofs.Concat
import HttpService.Proofs.Route.History
import Mathlib.Data.List.Forall2
import Mathlib.Data.List.Nodup

/-!
# What a router holds

Whatever calls build it, a router holds exactly the routes whose registration was accepted, no two
of them for one method and full pattern, and groups that lie in older groups. A refusal leaves it as
it was.
-/

namespace HttpService

namespace Pattern

theorem names_alternate (first : List Char) (rest : List (List Char × List Char)) (text : String) :
    names ⟨text, alternate first rest⟩ = rest.map fun entry => String.ofList entry.1 := by
  induction rest generalizing first with
  | nil => rfl
  | cons entry rest ih =>
      obtain ⟨name, next⟩ := entry
      have inner := ih next
      unfold names at inner ⊢
      rw [alternate_cons]
      simp only [List.filterMap_cons, inner, List.map_cons]

/-- The placeholders of an accepted pattern have names of their own. -/
theorem names_nodup {text : String} {p : Pattern} (compiled : compile text = .ok p) :
    p.names.Nodup := by
  obtain ⟨-, first, rest, shape, reads⟩ := compile_reads compiled
  have same : p = ⟨p.text, alternate first rest⟩ := by rw [← shape]
  rw [same, names_alternate]
  have distinct := (List.nodup_append.mp reads.distinct).2.1
  have mapped := List.Nodup.map (fun _ _ same => String.ofList_injective same) distinct
  rwa [List.map_map] at mapped

end Pattern

namespace Router

section

variable {events : List RouterEvent} {r r' : Router} {group : Option Nat} {e : RouterEvent}

/-! ## Routes and groups in order -/

/-- What a router is like at any time: its routes are compiled, listed once, and registered in
groups that are open; each group lies in an older one or in none. -/
structure Sound (r : Router) : Prop where
  listed_once : r.listing.Nodup
  compiled : ∀ route ∈ r.routes, Pattern.compile route.pattern.text = .ok route.pattern
  known : ∀ route ∈ r.routes, r.Knows route.group
  older : ∀ (i : Nat) (g : RouteGroup), r.groups[i]? = some g → ∀ parent ∈ g.parent, parent < i

theorem Knows.mono (known : r.Knows group) (grown : r.groups.length ≤ r'.groups.length) :
    r'.Knows group :=
  fun i member => Nat.lt_of_lt_of_le (known i member) grown

theorem listing_store (route : Route) :
    (r.store route).listing = r.listing ++ [(route.method, route.pattern.text)] := by
  simp [listing, store]

theorem Sound.store {method : Method} {full : String} {handler : Handler} {p : Pattern}
    (sound : Sound r) (known : r.Knows group) (unlisted : (method, full) ∉ r.listing)
    (compiled : Pattern.compile full = .ok p) : Sound (r.store ⟨method, p, group, handler⟩) where
  listed_once := by
    rw [listing_store, (Pattern.compile_reads compiled).1]
    exact List.nodup_append.mpr ⟨sound.listed_once, List.nodup_singleton _,
      fun entry listed other single same =>
        unlisted (List.mem_singleton.mp single ▸ same ▸ listed)⟩
  compiled route member := by
    obtain old | new := List.mem_append.mp member
    · exact sound.compiled route old
    · rw [List.mem_singleton.mp new, (Pattern.compile_reads compiled).1]
      exact compiled
  known route member := by
    obtain old | new := List.mem_append.mp member
    · exact sound.known route old
    · rw [List.mem_singleton.mp new]
      exact known
  older := sound.older

theorem groups_openGroup (parent : Option Nat) (path : String) :
    (r.openGroup parent path).1.groups =
      r.groups ++ [⟨Pattern.join (r.base parent) path, parent, {}⟩] := rfl

theorem Sound.openGroup (sound : Sound r) {parent : Option Nat} (known : r.Knows parent)
    (path : String) : Sound (r.openGroup parent path).1 where
  listed_once := sound.listed_once
  compiled := sound.compiled
  known route member := by
    refine (sound.known route member).mono ?_
    simp [groups_openGroup]
  older i g opened parent' member := by
    rw [groups_openGroup] at opened
    obtain old | ⟨rfl, rfl⟩ := getElem?_concat_cases opened
    · exact sound.older i g old parent' member
    · exact known parent' member

/-- Adding a stage changes the chain of one group, or the router's own. -/
theorem getElem?_use (i : Nat) (stage : Stage) :
    (r.use group stage).groups[i]? = (r.groups[i]?).map fun g =>
      if group = some i then { g with chain := g.chain.push stage } else g := by
  cases group with
  | none => simp [use]
  | some j =>
      simp only [use, List.getElem?_modify, Option.map_eq_map, Option.some.injEq]

theorem length_use (stage : Stage) : (r.use group stage).groups.length = r.groups.length := by
  cases group with
  | none => rfl
  | some j => simp only [use, List.length_modify]

theorem routes_use (stage : Stage) : (r.use group stage).routes = r.routes := by
  cases group <;> rfl

theorem Sound.use (sound : Sound r) (stage : Stage) : Sound (r.use group stage) where
  listed_once := by
    unfold listing
    rw [routes_use]
    exact sound.listed_once
  compiled := by
    rw [routes_use]
    exact sound.compiled
  known route member := by
    rw [routes_use] at member
    exact (sound.known route member).mono (length_use stage).ge
  older i g opened parent member := by
    rw [getElem?_use] at opened
    obtain ⟨before, found, rfl⟩ := Option.map_eq_some_iff.mp opened
    refine sound.older i before found parent ?_
    split at member <;> exact member

theorem Sound.step (sound : Sound r) (step : Step r e r') : Sound r' := by
  cases step with
  | route known call =>
      cases registers_of_handleAll call with
      | taken listed => exact sound
      | malformed unlisted flawed => exact sound
      | stored unlisted compiled => exact sound.store known unlisted compiled
  | opened path known => exact sound.openGroup known path
  | used stage known => exact sound.use stage
  | replaced notFound =>
      exact ⟨sound.listed_once, sound.compiled, sound.known, sound.older⟩

theorem sound_new : Sound {} :=
  ⟨List.nodup_nil, by simp, by simp, by simp⟩

theorem Run.sound {start : Router} (run : Run start events r) (sound : Sound start) : Sound r := by
  induction run with
  | refl => exact sound
  | tail run step ih => exact ih.step step

/-! ## What the history says of them -/

/-- The router is what its history says. -/
structure Mirrors (events : List RouterEvent) (r : Router) : Prop where
  routes : List.Forall₂ (Stores events) (registrations events) r.routes
  opened : (openings events).length = r.groups.length
  parents : ∀ (i : Nat) (g : RouteGroup), r.groups[i]? = some g →
    ∃ path, (openings events)[i]? = some (g.parent, path)
  located : ∀ (i : Nat) (g : RouteGroup), r.groups[i]? = some g → LiesBelow events (some i) g.path
  staged : ∀ (i : Nat) (g : RouteGroup), r.groups[i]? = some g →
    g.chain.stages = stagesFor events (some i)
  chain : r.chain.stages = stagesFor events none
  unopened : ∀ i, r.groups.length ≤ i → stagesFor events (some i) = []

theorem liesBelow_base (mirrors : Mirrors events r) (known : r.Knows group) :
    LiesBelow events group (r.base group) := by
  cases group with
  | none => exact .router
  | some i =>
      obtain ⟨g, found⟩ : ∃ g, r.groups[i]? = some g :=
        ⟨_, List.getElem?_eq_getElem (known i rfl)⟩
      have base : r.base (some i) = g.path := by simp [Router.base, found]
      exact base ▸ mirrors.located i g found

theorem spells_full (mirrors : Mirrors events r) (known : r.Knows group) (pattern : String) :
    Spells events pattern group (r.full group pattern) := by
  cases group with
  | none => exact .router
  | some i => exact .group (liesBelow_base mirrors known)

theorem mirrors_new : Mirrors [] {} :=
  ⟨.nil, rfl, by simp, by simp, by simp, rfl, by simp [stagesFor]⟩

theorem Mirrors.routes_append (mirrors : Mirrors events r) (more : List RouterEvent) :
    List.Forall₂ (Stores (events ++ more)) (registrations events) r.routes :=
  mirrors.routes.imp fun _ _ stores => stores.append more

/-- A call that registers nothing leaves the routes to those that are registered. -/
theorem Mirrors.routes_kept (mirrors : Mirrors events r) (idle : e.registration? = none) :
    List.Forall₂ (Stores (events ++ [e])) (registrations (events ++ [e])) r.routes := by
  have registered : registrations (events ++ [e]) = registrations events := by
    simp [registrations, idle]
  rw [registered]
  exact mirrors.routes_append [e]

/-- A call that opens no group and adds no stage. -/
theorem Mirrors.still (mirrors : Mirrors events r) (groups : r'.groups = r.groups)
    (chain : r'.chain = r.chain) (opening : e.opening? = none)
    (stage : ∀ group, e.stageFor? group = none)
    (routes : List.Forall₂ (Stores (events ++ [e])) (registrations (events ++ [e])) r'.routes) :
    Mirrors (events ++ [e]) r' := by
  have opened : openings (events ++ [e]) = openings events := by simp [openings, opening]
  have staged : ∀ group, stagesFor (events ++ [e]) group = stagesFor events group := by
    simp [stagesFor, stage]
  refine ⟨routes, ?_, ?_, ?_, ?_, ?_, ?_⟩
  · rw [opened, groups, mirrors.opened]
  · rw [opened, groups]
    exact mirrors.parents
  · rw [groups]
    exact fun i g found => (mirrors.located i g found).append [e]
  · simp only [staged, groups]
    exact mirrors.staged
  · rw [staged, chain]
    exact mirrors.chain
  · simp only [staged, groups]
    exact mirrors.unopened

theorem Mirrors.route {method : Method} {pattern : String} {handler : Handler}
    {answer : Except Failure Unit} (mirrors : Mirrors events r) (known : r.Knows group)
    (outcome : Registers r group method (r.full group pattern) handler r' answer) :
    Mirrors (events ++ [.route group method pattern handler answer]) r' := by
  cases outcome with
  | taken listed =>
      exact mirrors.still rfl rfl rfl (fun _ => rfl) (mirrors.routes_kept rfl)
  | malformed unlisted flawed =>
      exact mirrors.still rfl rfl rfl (fun _ => rfl) (mirrors.routes_kept rfl)
  | stored unlisted compiled =>
      refine mirrors.still rfl rfl rfl (fun _ => rfl) ?_
      rw [registrations_append]
      refine List.rel_append (mirrors.routes_append _) (.cons ⟨rfl, rfl, rfl, ?_⟩ .nil)
      rw [(Pattern.compile_reads compiled).1]
      exact (spells_full mirrors known pattern).append _

theorem Mirrors.openGroup {parent : Option Nat} (mirrors : Mirrors events r)
    (known : r.Knows parent) (path : String) :
    Mirrors (events ++ [.opened parent path]) (r.openGroup parent path).1 := by
  have opened : openings (events ++ [.opened parent path]) =
      openings events ++ [(parent, path)] := openings_append _ _
  have staged : ∀ group, stagesFor (events ++ [.opened parent path]) group =
      stagesFor events group := by
    simp [stagesFor, RouterEvent.stageFor?]
  have newest : (openings (events ++ [.opened parent path]))[r.groups.length]? =
      some (parent, path) := by
    rw [opened, ← mirrors.opened, List.getElem?_concat_length]
  refine ⟨?_, ?_, ?_, ?_, ?_, ?_, ?_⟩
  · exact mirrors.routes_kept rfl
  · simp [opened, groups_openGroup, mirrors.opened]
  · intro i g found
    rw [groups_openGroup] at found
    obtain old | ⟨rfl, rfl⟩ := getElem?_concat_cases found
    · obtain ⟨above, opening⟩ := mirrors.parents i g old
      exact ⟨above, opening_append opening _⟩
    · exact ⟨path, newest⟩
  · intro i g found
    rw [groups_openGroup] at found
    obtain old | ⟨rfl, rfl⟩ := getElem?_concat_cases found
    · exact (mirrors.located i g old).append _
    · exact .group newest ((liesBelow_base mirrors known).append _)
  · intro i g found
    rw [groups_openGroup] at found
    rw [staged]
    obtain old | ⟨rfl, rfl⟩ := getElem?_concat_cases found
    · exact mirrors.staged i g old
    · exact (mirrors.unopened _ (Nat.le_refl _)).symm
  · rw [staged]
    exact mirrors.chain
  · intro i beyond
    rw [staged]
    rw [groups_openGroup, List.length_append] at beyond
    exact mirrors.unopened i (Nat.le_of_add_right_le beyond)

theorem Mirrors.use (mirrors : Mirrors events r) (known : r.Knows group) (stage : Stage) :
    Mirrors (events ++ [.used group stage]) (r.use group stage) := by
  have opened : openings (events ++ [.used group stage]) = openings events := by
    simp [openings, RouterEvent.opening?]
  have staged (other : Option Nat) : stagesFor (events ++ [.used group stage]) other =
      stagesFor events other ++ if group = other then [stage] else [] := by
    rw [stagesFor_append]
    split <;> simp_all [stagesFor, RouterEvent.stageFor?]
  refine ⟨?_, ?_, ?_, ?_, ?_, ?_, ?_⟩
  · rw [routes_use]
    exact mirrors.routes_kept rfl
  · rw [opened, length_use, mirrors.opened]
  · intro i g found
    rw [getElem?_use] at found
    obtain ⟨before, old, rfl⟩ := Option.map_eq_some_iff.mp found
    rw [opened]
    split <;> exact mirrors.parents i before old
  · intro i g found
    rw [getElem?_use] at found
    obtain ⟨before, old, rfl⟩ := Option.map_eq_some_iff.mp found
    split <;> exact (mirrors.located i before old).append _
  · intro i g found
    rw [getElem?_use] at found
    obtain ⟨before, old, rfl⟩ := Option.map_eq_some_iff.mp found
    rw [staged, ← mirrors.staged i before old]
    split
    · rfl
    · rw [List.append_nil]
  · rw [staged, ← mirrors.chain]
    cases group with
    | none => rfl
    | some j => simp [Router.use]
  · intro i beyond
    rw [length_use] at beyond
    rw [staged, mirrors.unopened i beyond]
    split
    · next same => exact absurd (known i same) (Nat.not_lt.mpr beyond)
    · rfl

theorem Mirrors.step (mirrors : Mirrors events r) (step : Step r e r') :
    Mirrors (events ++ [e]) r' := by
  cases step with
  | route known call => exact mirrors.route known (registers_of_handleAll call)
  | opened path known => exact mirrors.openGroup known path
  | used stage known => exact mirrors.use known stage
  | replaced notFound =>
      exact mirrors.still rfl rfl rfl (fun _ => rfl) (mirrors.routes_kept rfl)

theorem Run.mirrors (run : Run {} events r) : Mirrors events r := by
  induction run with
  | refl => exact mirrors_new
  | tail run step ih => exact ih.step step

/-! ## Answers -/

/-- How a registration of a full pattern is answered, and what becomes of the router. -/
structure Ruled (r r' : Router) (method : Method) (full : String) (answer : Except Failure Unit) :
    Prop where
  accepted : answer = .ok () ↔ (method, full) ∉ r.listing ∧ Pattern.WellFormed full
  duplicate : (∃ f, answer = .error f ∧ f.code = .alreadyExists) ↔ (method, full) ∈ r.listing
  malformed : (∃ f, answer = .error f ∧ f.code = .invalidArgument) ↔ ¬ Pattern.WellFormed full
  unchanged : answer ≠ .ok () → r' = r

theorem Sound.wellFormed {method : Method} {full : String} (sound : Sound r)
    (listed : (method, full) ∈ r.listing) : Pattern.WellFormed full := by
  obtain ⟨route, stored, same⟩ := List.mem_map.mp listed
  have text : route.pattern.text = full := congrArg Prod.snd same
  exact Pattern.compile_isOk_iff.mp ⟨_, text ▸ sound.compiled route stored⟩

theorem Registers.ruled {method : Method} {full : String} {handler : Handler}
    {answer : Except Failure Unit} (sound : Sound r)
    (registers : Registers r group method full handler r' answer) :
    Ruled r r' method full answer := by
  cases registers with
  | taken listed =>
      have wellFormed := sound.wellFormed listed
      refine ⟨?_, ?_, ?_, fun _ => rfl⟩
      · simp [listed]
      · exact ⟨fun _ => listed, fun _ => ⟨_, rfl, rfl⟩⟩
      · refine ⟨?_, fun flawed => absurd wellFormed flawed⟩
        rintro ⟨f, ⟨⟩, code⟩
        cases code
  | @malformed flaw unlisted flawed =>
      have notWellFormed : ¬ Pattern.WellFormed full := by
        rw [← Pattern.compile_isOk_iff, flawed]
        simp
      refine ⟨?_, ?_, ?_, fun _ => rfl⟩
      · simp [notWellFormed]
      · refine ⟨?_, fun listed => absurd listed unlisted⟩
        rintro ⟨f, ⟨⟩, code⟩
        cases code
      · exact ⟨fun _ => notWellFormed, fun _ => ⟨_, rfl, rfl⟩⟩
  | stored unlisted compiled =>
      have wellFormed := Pattern.compile_isOk_iff.mp ⟨_, compiled⟩
      refine ⟨?_, ?_, ?_, fun refused => absurd rfl refused⟩
      · simp [unlisted, wellFormed]
      · simp [unlisted]
      · simp [wellFormed]

/-- What holds of every router that calls have built: of its routes, which are those of the accepted
registrations in their order, of its groups, and of the registration that comes next. -/
theorem Run.registration_exact (run : Run {} events r) :
    r.listing.Nodup ∧
      (∀ route ∈ r.routes,
        route.pattern.text.toList.head? = some '/' ∧ route.pattern.names.Nodup) ∧
      List.Forall₂ (Stores events) (registrations events) r.routes ∧
      (∀ route ∈ r.routes, r.Knows route.group) ∧
      (∀ (i : Nat) (g : RouteGroup), r.groups[i]? = some g → ∀ parent ∈ g.parent, parent < i) ∧
      ∀ group method pattern handler, r.Knows group →
        ∃ full, Spells events pattern group full ∧
          Ruled r (r.handleAll group [(method, pattern, handler)]).1 method full
            (r.handleAll group [(method, pattern, handler)]).2 := by
  have sound := run.sound sound_new
  have mirrors := run.mirrors
  refine ⟨sound.listed_once, ?_, mirrors.routes, sound.known, sound.older, ?_⟩
  · intro route stored
    have compiled := sound.compiled route stored
    exact ⟨Pattern.head?_of_compile compiled, Pattern.names_nodup compiled⟩
  · intro group method pattern handler known
    refine ⟨r.full group pattern, spells_full mirrors known pattern, ?_⟩
    exact (registers r group method pattern handler).ruled sound

/-- One full pattern in three spellings, each of which is refused once it is registered. -/
theorem Run.registration_exact_three_spellings :
    ∃ events r, Run {} events r ∧ r.listing = [(.get, "/api/x")] ∧
      ∀ spelling ∈ [(some 0, "x"), (some 1, "/x"), (none, "/api/x")],
        ∃ f, (r.handleAll spelling.1 [(.get, spelling.2, noRoute)]).2 = .error f ∧
          f.code = .alreadyExists := by
  let slashed : Router := (({} : Router).openGroup none "/api/").1
  let groups : Router := (slashed.openGroup none "/api").1
  let p : Pattern := ⟨"/api/x", [.literal "/api/x".toList]⟩
  let r : Router := groups.store ⟨.get, p, some 0, noRoute⟩
  have compiled : Pattern.compile "/api/x" = .ok p := by cbv
  have call : groups.handleAll (some 0) [(.get, "x", noRoute)] = (r, .ok ()) := by
    have full : groups.full (some 0) "x" = "/api/x" := by decide
    rw [handleAll_single, full]
    simp [insert, has, compiled, groups, slashed, openGroup, r, store, bind, Except.bind]
  have run := ((Run.refl.tail (.opened "/api/" (by simp [Knows]))).tail
    (.opened "/api" (by simp [Knows]))).tail (.route (by simp [Knows, openGroup]) call)
  refine ⟨_, r, run, rfl, ?_⟩
  obtain ⟨-, -, -, -, -, next⟩ := Run.registration_exact run
  intro spelling member
  have resolved : r.Knows spelling.1 ∧ r.full spelling.1 spelling.2 = "/api/x" := by
    simp only [List.mem_cons, List.not_mem_nil, or_false] at member
    obtain rfl | rfl | rfl := member
    · exact ⟨by simp [Knows, r, groups, slashed, openGroup, store], by decide⟩
    · exact ⟨by simp [Knows, r, groups, slashed, openGroup, store], by decide⟩
    · exact ⟨by simp [Knows], by decide⟩
  obtain ⟨full, spells, ruled⟩ := next spelling.1 .get spelling.2 noRoute resolved.1
  refine ruled.duplicate.mpr ?_
  rw [spells.unique (spells_full run.mirrors resolved.1 spelling.2), resolved.2]
  exact List.mem_singleton_self _

end

end Router

end HttpService

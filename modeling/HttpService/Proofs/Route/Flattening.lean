import HttpService.Proofs.Route.Joining
import HttpService.Proofs.Route.Registration

/-!
# Groups within groups

Nesting groups is joining their paths. So however a router's routes are spread over nested groups, it
matches what a router without groups matches that has the joined patterns for its routes.
-/

namespace HttpService

/-- The call is a registration, which may have been refused. -/
def RouterEvent.isRoute : RouterEvent → Bool
  | .route .. => true
  | _ => false

/-- The route without its group. -/
def Route.ungrouped (route : Route) : Route :=
  { route with group := none }

namespace Router

section

variable {r r' : Router} {group : Option Nat} {method : Method} {handler : Handler}

/-! ## Opening one group in another -/

/-- Opens groups, each in the one before, and gives the last of them. -/
def openNested (r : Router) (group : Option Nat) : List String → Router × Option Nat
  | [] => (r, group)
  | path :: paths => openNested (r.openGroup group path).1 (r.openGroup group path).2 paths

theorem base_openGroup (r : Router) (group : Option Nat) (path : String) :
    (r.openGroup group path).1.base (r.openGroup group path).2 =
      Pattern.join (r.base group) path := by
  have opened : (r.openGroup group path).1.groups[(r.openGroup group path).2]? =
      some ⟨Pattern.join (r.base group) path, group, {}⟩ := List.getElem?_concat_length
  rw [base, Option.bind_some, opened]

theorem base_openNested (r : Router) (group : Option Nat) (paths : List String) :
    (r.openNested group paths).1.base (r.openNested group paths).2 =
      paths.foldl Pattern.join (r.base group) := by
  induction paths generalizing r group with
  | nil => rfl
  | cons path paths ih => rw [openNested, ih, base_openGroup, List.foldl_cons]

theorem routes_openNested (r : Router) (group : Option Nat) (paths : List String) :
    (r.openNested group paths).1.routes = r.routes := by
  induction paths generalizing r group with
  | nil => rfl
  | cons path paths ih =>
      rw [openNested, ih]
      rfl

theorem isSome_openNested (r : Router) {group : Option Nat} (inside : group.isSome = true)
    (paths : List String) : (r.openNested group paths).2.isSome = true := by
  induction paths generalizing r group with
  | nil => exact inside
  | cons path paths ih => exact ih _ rfl

theorem full_openNested (r : Router) (path : String) (paths : List String) (pattern : String) :
    (r.openNested none (path :: paths)).1.full (r.openNested none (path :: paths)).2 pattern =
      (path :: paths ++ [pattern]).foldl Pattern.join "" := by
  have inside : (r.openNested none (path :: paths)).2.isSome = true :=
    isSome_openNested _ rfl paths
  rw [full, if_pos inside, base_openNested, List.foldl_concat]
  rfl

/-- What a registration comes to depends on the routes and the full pattern only. -/
theorem insert_of_routes (same : r.routes = r'.routes) (group group' : Option Nat) (method : Method)
    (full : String) (handler : Handler) :
    (r.insert group method full handler).map listing =
      (r'.insert group' method full handler).map listing := by
  have listed : r.has method full = r'.has method full := by rw [has, has, same]
  unfold insert
  rw [listed]
  split
  · rfl
  · cases Pattern.compile full with
    | error f => rfl
    | ok p =>
        change Except.ok _ = Except.ok _
        simp [listing, same]

/-- In the innermost of groups with these paths, each opened in the one before, the pattern stands
for the full pattern: registering it there has the outcome of registering the full pattern on the
router itself. -/
structure Lands (r : Router) (paths : List String) (pattern full : String) : Prop where
  full_eq : (r.openNested none paths).1.full (r.openNested none paths).2 pattern = full
  outcome : ∀ method handler,
    ((r.openNested none paths).1.handle (r.openNested none paths).2 method pattern handler).map
      listing = (r.handle none method full handler).map listing

theorem lands (r : Router) (path : String) (paths : List String) (pattern : String) :
    r.Lands (path :: paths) pattern ((path :: paths ++ [pattern]).foldl Pattern.join "") := by
  refine ⟨full_openNested r path paths pattern, fun method handler => ?_⟩
  rw [← full_openNested r path paths pattern]
  exact insert_of_routes (routes_openNested r none _) _ _ method _ handler

/-! ## Flat routers -/

/-- The paths of a group and of those it lies in, the outermost first. -/
inductive Nested (events : List RouterEvent) : Option Nat → List String → Prop
  | router : Nested events none []
  | group {i : Nat} {parent : Option Nat} {path : String} {paths : List String}
      (opening : (openings events)[i]? = some (parent, path)) (outer : Nested events parent paths) :
      Nested events (some i) (paths ++ [path])

/-- A registration, and the one on the router itself that has the same answer: in a group, for the
pattern joined to the paths. -/
inductive Flattens (events : List RouterEvent) : RouterEvent → RouterEvent → Prop
  | direct {method : Method} {pattern : String} {handler : Handler} {answer : Except Failure Unit} :
      Flattens events (.route none method pattern handler answer)
        (.route none method pattern handler answer)
  | grouped {i : Nat} {paths : List String} {method : Method} {pattern : String}
      {handler : Handler} {answer : Except Failure Unit} (nested : Nested events (some i) paths) :
      Flattens events (.route (some i) method pattern handler answer)
        (.route none method ((paths ++ [pattern]).foldl Pattern.join "") handler answer)

variable {events : List RouterEvent}

theorem Nested.append {paths : List String} (nested : Nested events group paths)
    (more : List RouterEvent) : Nested (events ++ more) group paths := by
  induction nested with
  | router => exact .router
  | group opening _ ih => exact .group (opening_append opening more) ih

theorem Flattens.append {e flat : RouterEvent} (flattens : Flattens events e flat)
    (more : List RouterEvent) : Flattens (events ++ more) e flat := by
  cases flattens with
  | direct => exact .direct
  | grouped nested => exact .grouped (nested.append more)

/-- A call that registers nothing has no part in the flat router. -/
theorem flattens_idle {calls : List RouterEvent} {e : RouterEvent} (idle : e.isRoute = false)
    (flattens : List.Forall₂ (Flattens events) (events.filter RouterEvent.isRoute) calls) :
    List.Forall₂ (Flattens (events ++ [e])) ((events ++ [e]).filter RouterEvent.isRoute) calls := by
  rw [List.filter_append, List.filter_cons_of_neg (by simp [idle]), List.filter_nil,
    List.append_nil]
  exact flattens.imp fun _ _ each => each.append [e]

theorem nested_of_liesBelow {path : String} (lies : LiesBelow events group path) :
    ∃ paths, Nested events group paths ∧ path = paths.foldl Pattern.join "" := by
  induction lies with
  | router => exact ⟨[], .router, rfl⟩
  | @group i parent path above opening _ ih =>
      obtain ⟨paths, nested, rfl⟩ := ih
      exact ⟨paths ++ [path], .group opening nested, by rw [List.foldl_concat]⟩

/-- The router has no groups, and the routes of the other router. -/
structure FlatOf (flat r : Router) : Prop where
  groups : flat.groups = []
  routes : flat.routes = r.routes.map Route.ungrouped

variable {flat : Router}

theorem FlatOf.listing_eq (same : FlatOf flat r) : flat.listing = r.listing := by
  simp [listing, same.routes, Route.ungrouped]

theorem FlatOf.matchRoute_eq (same : FlatOf flat r) (method : Method) (path : String) :
    flat.matchRoute method path = r.matchRoute method path := by
  unfold matchRoute find
  rw [same.routes, List.findSome?_map, List.map_findSome?, List.map_findSome?]
  congr 1
  funext route
  simp only [Function.comp_apply, Option.map_map]
  rfl

/-- A registration of a full pattern is answered by both routers alike. -/
theorem FlatOf.registers (same : FlatOf flat r) {full : String} {answer : Except Failure Unit}
    (registers : Registers r group method full handler r' answer) :
    ∃ flat', flat.handleAll none [(method, full, handler)] = (flat', answer) ∧ FlatOf flat' r' := by
  have asked : flat.full none full = full := rfl
  rw [handleAll_single, asked]
  unfold insert
  cases registers with
  | taken listed =>
      rw [← same.listing_eq] at listed
      rw [if_pos (mem_listing_iff.mp listed)]
      exact ⟨flat, rfl, same⟩
  | malformed unlisted flawed =>
      rw [← same.listing_eq] at unlisted
      rw [if_neg (mt mem_listing_iff.mpr unlisted), flawed]
      exact ⟨flat, rfl, same⟩
  | @stored p unlisted compiled =>
      rw [← same.listing_eq] at unlisted
      rw [if_neg (mt mem_listing_iff.mpr unlisted), compiled]
      refine ⟨flat.store ⟨method, p, none, handler⟩, rfl, same.groups, ?_⟩
      simp [store, same.routes, Route.ungrouped]

theorem full_flattens (mirrors : Mirrors events r) (known : r.Knows group) (pattern : String)
    (answer : Except Failure Unit) :
    Flattens events (.route group method pattern handler answer)
      (.route none method (r.full group pattern) handler answer) := by
  cases group with
  | none => exact .direct
  | some i =>
      obtain ⟨paths, nested, base⟩ := nested_of_liesBelow (liesBelow_base mirrors known)
      have full : r.full (some i) pattern = (paths ++ [pattern]).foldl Pattern.join "" := by
        rw [List.foldl_concat, ← base]
        rfl
      rw [full]
      exact .grouped nested

/-- What is built of calls is built without groups too. -/
theorem Run.flattens (run : Run {} events r) :
    ∃ calls flat, Run {} calls flat ∧ FlatOf flat r ∧
      List.Forall₂ (Flattens events) (events.filter RouterEvent.isRoute) calls := by
  induction run with
  | refl => exact ⟨[], {}, .refl, ⟨rfl, rfl⟩, .nil⟩
  | @tail events r r' e run step ih =>
      obtain ⟨calls, flat, flatRun, same, flattens⟩ := ih
      cases step with
      | @route group method pattern handler r' answer known call =>
          obtain ⟨flat', flatCall, same'⟩ := same.registers (registers_of_handleAll call)
          refine ⟨_, flat', flatRun.tail (.route (by simp [Knows]) flatCall), same', ?_⟩
          rw [List.filter_append]
          refine List.rel_append (flattens.imp fun _ _ each => each.append _) (.cons ?_ .nil)
          exact (full_flattens run.mirrors known pattern answer).append _
      | opened path known =>
          exact ⟨calls, flat, flatRun, ⟨same.groups, same.routes⟩, flattens_idle rfl flattens⟩
      | used stage known =>
          refine ⟨calls, flat, flatRun, ⟨same.groups, ?_⟩, flattens_idle rfl flattens⟩
          rw [routes_use, same.routes]
      | replaced notFound =>
          exact ⟨calls, flat, flatRun, ⟨same.groups, same.routes⟩, flattens_idle rfl flattens⟩

/-- Joining is associative; where two parts meet, slashes may be lost, and no empty segment comes to
be. A pattern stands for the same full pattern in nested groups, in a single group for the first path
with the others joined in front of it, and in a single group for any bracketing of the paths. And a
router that calls have built matches what a router without groups matches, on which the joined
patterns are registered one by one. -/
theorem groups_flatten :
    (∀ a b c : String, Pattern.join (Pattern.join a b) c = Pattern.join a (Pattern.join b c)) ∧
      (∀ above below : String,
        (below = "" ∧ Pattern.join above below = above ∨
          ∃ kept, Pattern.Trimmed above.toList kept ∧
            (Pattern.join above below).toList = kept ++ Pattern.led below.toList) ∧
        (Pattern.Single above.toList → Pattern.Single below.toList →
          Pattern.Single (Pattern.join above below).toList)) ∧
      (∀ (r : Router) (path : String) (paths : List String) (pattern : String),
        ∃ full, r.Lands (path :: paths) pattern full ∧
          r.Lands [path] (paths.foldr Pattern.join pattern) full ∧
          (∀ b : Pattern.Bracketing, b.parts = path :: paths → r.Lands [b.joined] pattern full) ∧
          Pattern.Joined (path :: paths ++ [pattern]) full) ∧
      ∀ events r, Run {} events r →
        ∃ calls flat, Run {} calls flat ∧ flat.groups = [] ∧
          List.Forall₂ (Flattens events) (events.filter RouterEvent.isRoute) calls ∧
          ∀ method path, flat.matchRoute method path = r.matchRoute method path := by
  refine ⟨Pattern.join_assoc, fun above below => ⟨Pattern.join_meets above below,
    Pattern.single_join⟩, ?_, ?_⟩
  · intro r path paths pattern
    refine ⟨_, r.lands path paths pattern, ?_, ?_, Pattern.joined_foldl _⟩
    · have flat := r.lands path [] (paths.foldr Pattern.join pattern)
      have whole : (path :: [] ++ [paths.foldr Pattern.join pattern]).foldl Pattern.join "" =
          (path :: paths ++ [pattern]).foldl Pattern.join "" :=
        Pattern.join_foldr paths (Pattern.join "" path) pattern
      exact whole ▸ flat
    · intro b parts
      have flat := r.lands b.joined [] pattern
      have whole : (b.joined :: [] ++ [pattern]).foldl Pattern.join "" =
          (path :: paths ++ [pattern]).foldl Pattern.join "" := by
        rw [← parts, List.foldl_concat, List.foldl_concat, ← b.join_joined ""]
        rfl
      exact whole ▸ flat
  · intro events r run
    obtain ⟨calls, flat, flatRun, same, flattens⟩ := run.flattens
    exact ⟨calls, flat, flatRun, same.groups, flattens, same.matchRoute_eq⟩

/-- A path between slashes, a path without any, and an empty one. -/
theorem groups_flatten_files :
    let r : Router := {}
    let b : Pattern.Bracketing := .pair (.part "/api/") (.pair (.part "files") (.part ""))
    r.Lands ["/api/", "files", ""] "\x7bid\x7d" "/api/files/\x7bid\x7d" ∧
      r.Lands ["/api/"] "files/\x7bid\x7d" "/api/files/\x7bid\x7d" ∧
      r.Lands [b.joined] "\x7bid\x7d" "/api/files/\x7bid\x7d" ∧
      Pattern.Single (Pattern.join "/api/" "/files").toList ∧
      ∃ events built calls flat, Run r events built ∧ built.groups.length = 3 ∧
        Run r calls flat ∧ flat.groups = [] ∧
        flat.matchRoute .get "/api/files/7" = some ⟨"/api/files/\x7bid\x7d", [("id", "7")]⟩ := by
  intro r b
  obtain ⟨-, meets, nested, flattens⟩ := groups_flatten
  obtain ⟨full, lands, single, bracketed, -⟩ := nested r "/api/" ["files", ""] "\x7bid\x7d"
  obtain rfl : full = "/api/files/\x7bid\x7d" := lands.full_eq.symm.trans (by decide)
  have slashes : Pattern.Single "/api/".toList ∧ Pattern.Single "/files".toList := by
    constructor <;> exact Pattern.single_iff.mpr (by decide)
  refine ⟨lands, single, bracketed b rfl, (meets _ _).2 slashes.1 slashes.2, ?_⟩
  let groups : Router := (r.openNested none ["/api/", "files", ""]).1
  let p : Pattern := ⟨"/api/files/\x7bid\x7d",
    [.literal "/api/files/".toList, .placeholder ['i', 'd'], .literal []]⟩
  let built : Router := groups.store ⟨.get, p, some 2, noRoute⟩
  have reads : Pattern.Reads [] "/api/files/\x7bid\x7d".toList "/api/files/".toList
      [(['i', 'd'], [])] := ⟨by rfl, by simp [Pattern.isBrace], by decide, by decide⟩
  have compiled : Pattern.compile "/api/files/\x7bid\x7d" = .ok p :=
    Pattern.compile_of_reads rfl reads
  have captured : p.captures "/api/files/7" = some [("id", "7")] := rfl
  have call : groups.handleAll (some 2) [(.get, "\x7bid\x7d", noRoute)] = (built, .ok ()) := by
    have full : groups.full (some 2) "\x7bid\x7d" = "/api/files/\x7bid\x7d" := lands.full_eq
    rw [handleAll_single, full]
    simp [insert, has, compiled, groups, r, openNested, openGroup, built, store, bind, Except.bind]
  have run := (((Run.refl.tail (.opened "/api/" (by simp [Knows]))).tail
    (.opened "files" (by simp [Knows, openGroup]))).tail
    (.opened "" (by simp [Knows, openGroup]))).tail (.route (by simp [Knows, openGroup]) call)
  obtain ⟨calls, flat, flatRun, ungrouped, -, matched⟩ := flattens _ built run
  refine ⟨_, built, calls, flat, run, rfl, flatRun, ungrouped, ?_⟩
  have routes : built.routes = [⟨.get, p, some 2, noRoute⟩] := rfl
  have found : built.find .get "/api/files/7" =
      some (⟨.get, p, some 2, noRoute⟩, [("id", "7")]) := by
    unfold find
    rw [routes]
    simp [Route.captures?, captured]
  rw [matched, matchRoute, found]
  rfl

end

end Router

end HttpService

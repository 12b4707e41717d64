import HttpService.Proofs.Files.Relay
import HttpService.Proofs.Route.Flattening

/-!
# The file routes of a router

Whatever a router had before and whatever is called on it later, a request that is sent to one of the
file routes passes that route's stages to an endpoint that guards the store: no path reaches the
store but the absolute one that the request gives.
-/

namespace HttpService

namespace FileOperation

/-- The pattern of the operation's route in the group of the file routes. -/
def below : FileOperation → String
  | stat | remove => ""
  | list => "/list"
  | makeDirectory => "/mkdir"

theorem join_below (op : FileOperation) :
    Pattern.join (Pattern.join "" "/api/v1/files") op.below = op.pattern := by
  cases op <;> decide

/-- The operation's route in a group. -/
def route (op : FileOperation) (store : FileStore) (group : Nat) : Route :=
  ⟨op.method, ⟨op.pattern, [.literal op.pattern.toList]⟩, some group, op.handler store⟩

theorem compile_pattern (op : FileOperation) :
    Pattern.compile op.pattern = .ok ⟨op.pattern, [.literal op.pattern.toList]⟩ := by
  cases op <;> cbv

end FileOperation

namespace Endpoint

open Router

theorem addFiles_eq (r : Router) (store : FileStore) :
    addFiles r store = (r.openGroup none "/api/v1/files").1.handleAll (some r.groups.length)
      ([FileOperation.stat, .list, .makeDirectory, .remove].map fun op =>
        (op.method, op.below, op.handler store)) := rfl

/-- Routes of distinct operations are all registered where none of them is listed. -/
theorem handleAll_operations {r : Router} {store : FileStore} {group : Nat}
    {ops : List FileOperation} (base : r.base (some group) = Pattern.join "" "/api/v1/files")
    (free : ∀ op ∈ ops, (op.method, op.pattern) ∉ r.listing)
    (distinct : (ops.map fun op => (op.method, op.pattern)).Nodup) :
    r.handleAll (some group) (ops.map fun op => (op.method, op.below, op.handler store)) =
      ({ r with routes := r.routes ++ ops.map fun op => op.route store group }, .ok ()) := by
  induction ops generalizing r with
  | nil => simp [handleAll]
  | cons op ops ih =>
      obtain ⟨fresh, distinct⟩ := List.nodup_cons.mp distinct
      obtain ⟨unlisted, free⟩ := List.forall_mem_cons.mp free
      have full : r.full (some group) op.below = op.pattern := by
        rw [← op.join_below, ← base]
        rfl
      have stored : r.handleAll (some group) [(op.method, op.below, op.handler store)] =
          (r.store (op.route store group), .ok ()) := by
        rw [handleAll_single, full, Router.insert, if_neg (mt mem_listing_iff.mpr unlisted),
          op.compile_pattern]
        rfl
      have stillFree : ∀ other ∈ ops,
          (other.method, other.pattern) ∉ (r.store (op.route store group)).listing := by
        intro other member listed
        rw [listing_store] at listed
        rcases List.mem_append.mp listed with old | new
        · exact free other member old
        · have same : (other.method, other.pattern) = (op.method, op.pattern) :=
            List.mem_singleton.mp new
          exact fresh (List.mem_map.mpr ⟨other, member, same⟩)
      have sameBase : (r.store (op.route store group)).base (some group) =
          Pattern.join "" "/api/v1/files" := base
      rw [List.map_cons, handleAll_cons, stored]
      refine (ih sameBase stillFree distinct).trans ?_
      simp [Router.store]

theorem addFiles_of_free {r : Router} {store : FileStore}
    (free : ∀ op : FileOperation, (op.method, op.pattern) ∉ r.listing) :
    addFiles r store =
      ({ (r.openGroup none "/api/v1/files").1 with
          routes := r.routes ++ [FileOperation.stat, .list, .makeDirectory, .remove].map fun op =>
            op.route store r.groups.length }, .ok ()) := by
  rw [addFiles_eq]
  exact handleAll_operations (base_openGroup r none "/api/v1/files") (fun op _ => free op)
    (by decide)

/-- The routes that registering the file routes adds are those of the four operations. -/
theorem mem_routes_addFiles {r : Router} {store : FileStore} {route : Route}
    (member : route ∈ (addFiles r store).1.routes) :
    route ∈ r.routes ∨ ∃ op : FileOperation, route.method = op.method ∧
      route.pattern.text = op.pattern ∧ route.handler = op.handler store := by
  rw [addFiles_eq] at member
  obtain old | ⟨entry, inside, method, text, handler⟩ := mem_routes_handleAll member
  · exact .inl old
  · obtain ⟨op, -, rfl⟩ := List.mem_map.mp inside
    refine .inr ⟨op, method, ?_, handler⟩
    rw [text, ← op.join_below]
    exact congrArg (Pattern.join · op.below) (base_openGroup r none "/api/v1/files")

/-- A request for which there was no route before goes to a file route's endpoint, behind the stages
of that route. Each time the endpoint is reached, the store is called at most once: with the absolute
path that the request gives, or else the request is refused as an invalid argument and the store is
not called. A failure of the store is answered with its own code and message. Stages that go on at
most once reach the endpoint at most once. -/
theorem files_relayed {r r' : Router} {store : FileStore} {mark : FileCall → Site → Site}
    {events : List RouterEvent} {request : Request} {route : Route} {params : Table String}
    (unserved : r.find request.method request.path = none)
    (found : (addFiles r (store.marking mark)).1.find request.method request.path =
      some (route, params))
    (later : Run (addFiles r (store.marking mark)).1 events r') :
    ∃ op : FileOperation, route.method = op.method ∧ route.pattern.text = op.pattern ∧
      (∀ flow, r'.dispatch request flow =
        (compose (r'.stagesTo route.group) (.endpoint (op.handler (store.marking mark)))).run
          request (withParams params flow)) ∧
      (∀ request flow, ∃ calls, op.Outcome store request (flow.marked mark calls) calls
        ((Next.endpoint (op.handler (store.marking mark))).run request flow)) ∧
      ((∀ stage ∈ r'.stagesTo route.group, stage.GoesOnOnce) → ∀ flow,
        op.Served store mark (r'.stagesTo route.group) request (withParams params flow)
          (r'.dispatch request flow)) := by
  obtain old | ⟨op, method, text, handler⟩ := mem_routes_addFiles (mem_routes_of_find found)
  · have fits := (find_eq_some_iff.mp found).fits
    exact absurd fits (find_eq_none_iff.mp unserved route old)
  · have dispatched (flow : Flow) : r'.dispatch request flow =
        (compose (r'.stagesTo route.group) (.endpoint (op.handler (store.marking mark)))).run
          request (withParams params flow) :=
      handler ▸ dispatch_of_find (find_later later found)
    refine ⟨op, method, text, dispatched, op.exists_outcome store mark, fun single flow => ?_⟩
    rw [dispatched]
    exact FileOperation.served_of_goesOnOnce single

/-- A body in the form of an array, at a route whose group got a stage later. -/
theorem files_relayed_array_body :
    let mark (call : FileCall) (site : Site) : Site :=
      { site with trace := site.trace ++ [call.path] }
    let request : Request :=
      { method := .post, target := ⟨"/api/v1/files/mkdir", none⟩, headers := [],
        body := "[ \"/a/b\" ]" }
    let r := (addFiles {} (FileStore.local.marking mark)).1
    let r' := r.use (some 0) .recovery
    let route := FileOperation.makeDirectory.route (FileStore.local.marking mark) 0
    ({} : Router).find request.method request.path = none ∧
      r.find request.method request.path = some (route, []) ∧
      Run r [.used (some 0) .recovery] r' ∧
      (∀ stage ∈ r'.stagesTo route.group, stage.GoesOnOnce) ∧
      PathSource.body.Gives request "/a/b" ∧
      ∃ op : FileOperation, op.method = .post ∧ ∀ flow,
        op.Served FileStore.local mark (r'.stagesTo route.group) request flow
          (r'.dispatch request flow) := by
  intro mark request r r' route
  let routes : List Route := [FileOperation.stat, .list, .makeDirectory, .remove].map fun op =>
    op.route (FileStore.local.marking mark) 0
  have registered : r = { groups := [⟨"/api/v1/files", none, {}⟩], routes := routes } :=
    congrArg Prod.fst (addFiles_of_free (r := {}) (by simp [listing]))
  have unserved : ({} : Router).find request.method request.path = none := rfl
  have others (op : FileOperation) (different : op.method ≠ .post) :
      (op.route (FileStore.local.marking mark) 0).captures? .post "/api/v1/files/mkdir" = none :=
    if_neg different
  have captured : route.captures? .post "/api/v1/files/mkdir" = some [] := by
    have matched : route.pattern.captures "/api/v1/files/mkdir" = some [] := by cbv
    exact (if_pos rfl).trans matched
  have found : r.find request.method request.path = some (route, []) := by
    rw [registered]
    simp only [find, routes, List.map_cons, List.findSome?_cons, request, Request.path,
      others .stat (by decide), others .list (by decide), Option.map_none]
    rw [captured]
    rfl
  have gives : PathSource.body.Gives request "/a/b" :=
    ⟨.array [.text [.char '/', .char 'a', .char '/', .char 'b']], by cbv, .item (by cbv)⟩
  have later : Run r [.used (some 0) .recovery] r' :=
    Run.refl.tail (.used .recovery (by rw [registered]; simp [Knows]))
  have stages : r'.stagesTo route.group = [.recovery] := by
    simp only [r', registered]
    rfl
  have single : ∀ stage ∈ r'.stagesTo route.group, stage.GoesOnOnce := by
    intro stage member
    rw [stages, List.mem_singleton] at member
    exact member ▸ Stage.forwarding_recovery.goesOnOnce
  obtain ⟨op, method, -, -, -, served⟩ := files_relayed unserved found later
  exact ⟨unserved, found, later, single, gives, op, method.symm, served single⟩

end Endpoint

end HttpService

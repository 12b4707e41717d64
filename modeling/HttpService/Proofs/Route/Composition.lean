import HttpService.Proofs.Route.Registration
import HttpService.Proofs.Stage.Conduct

/-!
# What a request passes

Stages compose like their lists, and a request passes them in and out. A router has a request pass
its own stages and then those of the groups that its route lies in, from the outermost group in,
whenever they were added.
-/

namespace HttpService

/-- A group and those that it lies in, the outermost first. -/
inductive Lineage (events : List RouterEvent) : Option Nat → List Nat → Prop
  | router : Lineage events none []
  | group {i : Nat} {parent : Option Nat} {path : String} {line : List Nat}
      (opening : (openings events)[i]? = some (parent, path))
      (above : Lineage events parent line) : Lineage events (some i) (line ++ [i])

/-- The stages of the router and then those of the groups in a line, as the history has them. -/
def stagesAlong (events : List RouterEvent) (line : List Nat) : List Stage :=
  stagesFor events none ++ line.flatMap fun i => stagesFor events (some i)

theorem Lineage.unique {events : List RouterEvent} {group : Option Nat} {line other : List Nat}
    (lineage : Lineage events group line) (others : Lineage events group other) : line = other := by
  induction lineage generalizing other with
  | router =>
      cases others
      rfl
  | group opening _ ih =>
      cases others with
      | group opened above =>
          cases opening.symm.trans opened
          rw [ih above]

namespace Router

section

variable {events : List RouterEvent} {r : Router}

/-- Groups are found from the inside out, each one older than the one before. -/
theorem lineageFrom_stages (sound : Sound r) (mirrors : Mirrors events r) {depth : Nat}
    {group : Option Nat} (known : r.Knows group) (deep : ∀ i ∈ group, i < depth) :
    ∃ line, Lineage events group line ∧
      (lineageFrom r.groups depth group).flatMap (fun g => g.chain.stages) =
        line.flatMap fun i => stagesFor events (some i) := by
  induction depth generalizing group with
  | zero =>
      cases group with
      | none => exact ⟨[], .router, rfl⟩
      | some i => exact absurd (deep i rfl) (Nat.not_lt_zero i)
  | succ depth ih =>
      cases group with
      | none => exact ⟨[], .router, rfl⟩
      | some i =>
          obtain ⟨g, found⟩ : ∃ g, r.groups[i]? = some g :=
            ⟨_, List.getElem?_eq_getElem (known i rfl)⟩
          have older := sound.older i g found
          obtain ⟨path, opening⟩ := mirrors.parents i g found
          have parentKnown : r.Knows g.parent := fun p member =>
            Nat.lt_trans (older p member) (known i rfl)
          obtain ⟨line, above, same⟩ := ih parentKnown fun p member =>
            Nat.lt_of_lt_of_le (older p member) (Nat.le_of_lt_succ (deep i rfl))
          refine ⟨line ++ [i], .group opening above, ?_⟩
          have step : lineageFrom r.groups (depth + 1) (some i) =
              lineageFrom r.groups depth g.parent ++ [g] := by simp [lineageFrom, found]
          rw [step, List.flatMap_append, List.flatMap_append, same]
          simp [mirrors.staged i g found]

theorem stagesTo_eq (sound : Sound r) (mirrors : Mirrors events r) {group : Option Nat}
    (known : r.Knows group) :
    ∃ line, Lineage events group line ∧ r.stagesTo group = stagesAlong events line := by
  obtain ⟨line, lineage, same⟩ := lineageFrom_stages sound mirrors known known
  refine ⟨line, lineage, ?_⟩
  unfold stagesTo stagesAlong
  rw [mirrors.chain]
  exact congrArg (stagesFor events none ++ ·) same

/-! ## Dispatching -/

/-- The flow with the parameters of a route. -/
def withParams (params : Table String) (flow : Flow) : Flow :=
  { flow with
    context := params.foldl (fun c (name, value) => c.insertParam name value) flow.context }

theorem dispatch_of_find {request : Request} {flow : Flow} {route : Route} {params : Table String}
    (found : r.find request.method request.path = some (route, params)) :
    r.dispatch request flow =
      (compose (r.stagesTo route.group) (.endpoint route.handler)).run request
        (withParams params flow) := by
  unfold dispatch
  rw [found]
  rfl

theorem dispatch_of_find_none {request : Request} {flow : Flow}
    (missing : r.find request.method request.path = none) :
    r.dispatch request flow =
      (compose r.chain.stages (.endpoint r.notFound)).run request flow := by
  unfold dispatch
  rw [missing]

theorem mem_routes_of_find {method : Method} {path : String} {route : Route}
    {params : Table String} (found : r.find method path = some (route, params)) :
    route ∈ r.routes := by
  obtain ⟨stored, member, captured⟩ := List.exists_of_findSome?_eq_some found
  obtain ⟨_, -, same⟩ := Option.map_eq_some_iff.mp captured
  cases same
  exact member

/-- Composition follows the lists of stages. A chain runs as an onion, and nothing that lies behind
a stage that answers makes a difference. A router that calls have built runs a request through its
own stages and those along the lineage of the route's group. -/
theorem composition_exact :
    (∀ (outer inner : List Stage) (terminal : Next),
        compose (outer ++ inner) terminal = compose outer (compose inner terminal)) ∧
      (∀ (c : Chain) (stage : Stage) (handler : Handler),
        (c.push stage).run handler =
          (compose c.stages (Next.through stage (.endpoint handler))).run) ∧
      (∀ (c other : Chain) (handler : Handler),
        (c.extend other).run handler =
          (compose c.stages (compose other.stages (.endpoint handler))).run) ∧
      (∀ (c : Chain) (handler : Handler) (request : Request) (flow : Flow),
        (∀ stage ∈ c.stages, stage.GoesOnOnce) →
          Journey c.stages (.endpoint handler) request flow (c.run handler request flow)) ∧
      (∀ (before after others : List Stage) (stage : Stage) (handler other : Handler)
        (request request' : Request) (flow flow' : Flow) (stops : List Stop)
        (out : Ending Response × Flow),
        WayIn (compose (stage :: after) (.endpoint handler)) before request flow stops request'
          flow' →
        (∀ next, stage.process request' next flow' = out) →
        Chain.run ⟨before ++ stage :: others⟩ other request flow = wayOut stops out) ∧
      ∀ (events : List RouterEvent) (r : Router), Run {} events r →
        ∀ (request : Request) (flow : Flow),
          (∀ route params, r.find request.method request.path = some (route, params) →
            ∃ line, Lineage events route.group line ∧
              r.dispatch request flow =
                (compose (stagesAlong events line) (.endpoint route.handler)).run request
                  (withParams params flow)) ∧
          (r.find request.method request.path = none →
            r.dispatch request flow =
              (compose (stagesFor events none) (.endpoint r.notFound)).run request flow) := by
  refine ⟨compose_append, ?_, ?_, ?_, ?_, ?_⟩
  · intro c stage handler
    exact congrArg Next.run (compose_append c.stages [stage] (.endpoint handler))
  · intro c other handler
    exact congrArg Next.run (compose_append c.stages other.stages (.endpoint handler))
  · intro c handler request flow single
    exact journey_run single (.endpoint handler) request flow
  · intro before after others stage handler other request request' flow flow' stops out way answers
    exact way.run_of_answers answers
  · intro events r run request flow
    have sound := run.sound sound_new
    refine ⟨?_, ?_⟩
    · intro route params found
      have known := sound.known route (mem_routes_of_find found)
      obtain ⟨line, lineage, stages⟩ := stagesTo_eq sound run.mirrors known
      exact ⟨line, lineage, stages ▸ dispatch_of_find found⟩
    · intro missing
      rw [dispatch_of_find_none missing, run.mirrors.chain]

/-- A preflight request to a route in a nested group. The stages were added after the route, and the
innermost answers by itself. -/
theorem composition_exact_preflight :
    let request : Request :=
      { method := .options, target := ⟨"/api/in/y", none⟩, headers := [], body := "" }
    let flow : Flow := { context := Context.withSignal 0, site := {} }
    let passed : List Stage := [.accessLog, .recovery, .cors {}]
    ∃ events r, Run {} events r ∧
      r.dispatch request flow = (compose passed (.endpoint noRoute)).run request flow ∧
      (∀ stage ∈ passed, stage.GoesOnOnce) ∧
      Journey passed (.endpoint noRoute) request flow
        (Chain.run ⟨passed⟩ noRoute request flow) := by
  intro request flow passed
  let groups : Router :=
    ((({} : Router).openGroup none "/api").1.openGroup (some 0) "/in").1
  let p : Pattern := ⟨"/api/in/y", [.literal "/api/in/y".toList]⟩
  let route : Route := ⟨.options, p, some 1, noRoute⟩
  let routed : Router := groups.store route
  have compiled : Pattern.compile "/api/in/y" = .ok p := by cbv
  have captured : p.captures "/api/in/y" = some [] := by cbv
  have call : groups.handleAll (some 1) [(.options, "y", noRoute)] = (routed, .ok ()) := by
    have full : groups.full (some 1) "y" = "/api/in/y" := by decide
    rw [handleAll_single, full]
    simp [insert, has, compiled, groups, openGroup, routed, store, route, bind, Except.bind]
  let recovering : Router := routed.use (some 0) .recovery
  let crossing : Router := recovering.use (some 1) (.cors {})
  let r : Router := crossing.use none .accessLog
  have opened : Run {} [.opened none "/api", .opened (some 0) "/in"] groups :=
    (Run.refl.tail (.opened "/api" (by simp [Knows]))).tail
      (.opened "/in" (by simp [Knows, openGroup]))
  have inner : groups.Knows (some 1) := by simp [Knows, groups, openGroup]
  have outer : routed.Knows (some 0) := by simp [Knows, routed, groups, openGroup, store]
  have stillInner : recovering.Knows (some 1) := by
    simp [Knows, recovering, length_use, routed, groups, openGroup, store]
  have top : crossing.Knows none := by simp [Knows]
  have run := (((opened.tail (.route inner call)).tail (.used .recovery outer)).tail
    (.used (.cors {}) stillInner)).tail (.used .accessLog top)
  have single : ∀ stage ∈ passed, stage.GoesOnOnce := by
    simp only [passed, List.mem_cons, List.not_mem_nil, or_false]
    rintro stage (rfl | rfl | rfl)
    · exact Stage.forwarding_accessLog.goesOnOnce
    · exact Stage.forwarding_recovery.goesOnOnce
    · exact (Stage.forwarding_cors {}).goesOnOnce
  obtain ⟨-, -, -, journeys, -, dispatches⟩ := composition_exact
  have routes : r.routes = [route] := rfl
  have found : r.find request.method request.path = some (route, []) := by
    unfold find
    rw [routes]
    simp [Route.captures?, route, request, Request.path, captured]
  obtain ⟨line, lineage, dispatched⟩ := (dispatches _ r run request flow).1 route [] found
  have along : line = [0, 1] :=
    lineage.unique (.group rfl (.group rfl .router))
  subst along
  exact ⟨_, r, run, dispatched, single, journeys ⟨passed⟩ noRoute request flow single⟩

end

end Router

end HttpService

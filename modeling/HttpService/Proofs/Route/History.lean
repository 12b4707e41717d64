import HttpService.Proofs.Route.Reading
import HttpService.Route.Router
import Mathlib.Data.List.Basic

/-!
# The history of a router

A router is built by calls that open groups, register routes and add stages, in any order and with
any refusals in between. What the calls say can be read without the router: which routes were
accepted, where a group lies, and which stages it was given.
-/

namespace HttpService

/-- A call on a router that is being built. Groups go by their numbers in the order of opening. -/
inductive RouterEvent
  | route (group : Option Nat) (method : Method) (pattern : String) (handler : Handler)
      (answer : Except Failure Unit)
  | opened (parent : Option Nat) (path : String)
  | used (group : Option Nat) (stage : Stage)
  | replaced (notFound : Handler)

/-- A route as it was asked for. -/
structure Registration where
  group : Option Nat
  method : Method
  pattern : String
  handler : Handler

namespace RouterEvent

def registration? : RouterEvent → Option Registration
  | .route group method pattern handler (.ok ()) => some ⟨group, method, pattern, handler⟩
  | _ => none

/-- The group that was opened: what it lies in, and its path there. -/
def opening? : RouterEvent → Option (Option Nat × String)
  | .opened parent path => some (parent, path)
  | _ => none

/-- The stage that was added to a group, or to the router itself. -/
def stageFor? (group : Option Nat) : RouterEvent → Option Stage
  | .used g stage => if g = group then some stage else none
  | _ => none

end RouterEvent

/-! ## What a history says -/

section

variable {events : List RouterEvent}

/-- The registrations that were accepted, in the order of the calls. -/
def registrations (events : List RouterEvent) : List Registration :=
  events.filterMap RouterEvent.registration?

/-- The groups that were opened, in the order of the calls. -/
def openings (events : List RouterEvent) : List (Option Nat × String) :=
  events.filterMap RouterEvent.opening?

/-- The stages that were added to a group, in the order of the calls. -/
def stagesFor (events : List RouterEvent) (group : Option Nat) : List Stage :=
  events.filterMap (RouterEvent.stageFor? group)

/-- The path that a group lies below. -/
inductive LiesBelow (events : List RouterEvent) : Option Nat → String → Prop
  | router : LiesBelow events none ""
  | group {i : Nat} {parent : Option Nat} {path above : String}
      (opening : (openings events)[i]? = some (parent, path))
      (lies : LiesBelow events parent above) : LiesBelow events (some i) (Pattern.join above path)

/-- The full pattern that a pattern stands for in a group, or in the router itself. -/
inductive Spells (events : List RouterEvent) (pattern : String) : Option Nat → String → Prop
  | router : Spells events pattern none pattern
  | group {i : Nat} {path : String} (lies : LiesBelow events (some i) path) :
      Spells events pattern (some i) (Pattern.join path pattern)

/-- The route that a registration leads to. -/
structure Stores (events : List RouterEvent) (asked : Registration) (route : Route) : Prop where
  method_eq : route.method = asked.method
  group_eq : route.group = asked.group
  handler_eq : route.handler = asked.handler
  spelled : Spells events asked.pattern asked.group route.pattern.text

theorem registrations_append (events more : List RouterEvent) :
    registrations (events ++ more) = registrations events ++ registrations more :=
  List.filterMap_append

theorem openings_append (events more : List RouterEvent) :
    openings (events ++ more) = openings events ++ openings more :=
  List.filterMap_append

theorem stagesFor_append (events more : List RouterEvent) (group : Option Nat) :
    stagesFor (events ++ more) group = stagesFor events group ++ stagesFor more group :=
  List.filterMap_append

theorem opening_append {i : Nat} {opening : Option Nat × String}
    (opened : (openings events)[i]? = some opening) (more : List RouterEvent) :
    (openings (events ++ more))[i]? = some opening := by
  obtain ⟨inside, -⟩ := List.getElem?_eq_some_iff.mp opened
  rw [openings_append, List.getElem?_append_left inside, opened]

theorem LiesBelow.append {group : Option Nat} {path : String} (lies : LiesBelow events group path)
    (more : List RouterEvent) : LiesBelow (events ++ more) group path := by
  induction lies with
  | router => exact .router
  | group opening _ ih => exact .group (opening_append opening more) ih

theorem Spells.append {pattern full : String} {group : Option Nat}
    (spells : Spells events pattern group full) (more : List RouterEvent) :
    Spells (events ++ more) pattern group full := by
  cases spells with
  | router => exact .router
  | group lies => exact .group (lies.append more)

/-- A group lies below one path only. -/
theorem LiesBelow.unique {group : Option Nat} {path other : String}
    (lies : LiesBelow events group path) (others : LiesBelow events group other) :
    path = other := by
  induction lies generalizing other with
  | router =>
      cases others
      rfl
  | group opening _ ih =>
      cases others with
      | group opened above =>
          cases opening.symm.trans opened
          rw [ih above]

theorem Spells.unique {pattern full other : String} {group : Option Nat}
    (spells : Spells events pattern group full) (others : Spells events pattern group other) :
    full = other := by
  cases spells with
  | router =>
      cases others
      rfl
  | group lies =>
      cases others with
      | group also => rw [lies.unique also]

theorem Stores.append {asked : Registration} {route : Route} (stores : Stores events asked route)
    (more : List RouterEvent) : Stores (events ++ more) asked route :=
  { stores with spelled := stores.spelled.append more }

end

/-! ## Calls -/

namespace Pattern

/-- Every text that is no pattern is refused for some flaw. -/
theorem compile_cases (text : String) :
    (∃ p, compile text = .ok p) ∨
      ∃ flaw : PatternFlaw, compile text = .error (flaw.toFailure text) := by
  unfold compile
  split
  · split
    · next parts parsed => exact .inl ⟨_, rfl⟩
    · next flaw parsed => exact .inr ⟨flaw, rfl⟩
  · exact .inr ⟨.relative, rfl⟩

end Pattern

namespace Router

variable {r r' : Router} {group : Option Nat} {method : Method} {pattern : String}
  {handler : Handler}

/-- No group, or the number of one that is open. -/
def Knows (r : Router) (group : Option Nat) : Prop :=
  ∀ i ∈ group, i < r.groups.length

/-- What one call does. -/
inductive Step (r : Router) : RouterEvent → Router → Prop
  | route {group : Option Nat} {method : Method} {pattern : String} {handler : Handler}
      {r' : Router} {answer : Except Failure Unit} (known : r.Knows group)
      (call : r.handleAll group [(method, pattern, handler)] = (r', answer)) :
      Step r (.route group method pattern handler answer) r'
  | opened {parent : Option Nat} (path : String) (known : r.Knows parent) :
      Step r (.opened parent path) (r.openGroup parent path).1
  | used {group : Option Nat} (stage : Stage) (known : r.Knows group) :
      Step r (.used group stage) (r.use group stage)
  | replaced (notFound : Handler) : Step r (.replaced notFound) (r.setNotFound notFound)

/-- What a sequence of calls makes of a router. -/
inductive Run (start : Router) : List RouterEvent → Router → Prop
  | refl : Run start [] start
  | tail {events : List RouterEvent} {r r' : Router} {e : RouterEvent} (run : Run start events r)
      (step : Step r e r') : Run start (events ++ [e]) r'

/-! ## Registering -/

/-- The full pattern that the router makes of a pattern. -/
def full (r : Router) (group : Option Nat) (pattern : String) : String :=
  if group.isSome then Pattern.join (r.base group) pattern else pattern

theorem mem_listing_iff {full : String} :
    (method, full) ∈ r.listing ↔ r.has method full = true := by
  simp [listing, has]

/-- The router with one more route. -/
def store (r : Router) (route : Route) : Router :=
  { r with routes := r.routes ++ [route] }

/-- A registration is refused for a full pattern that is listed for the method or that is none, and
stores a route otherwise. -/
inductive Registers (r : Router) (group : Option Nat) (method : Method) (full : String)
    (handler : Handler) : Router → Except Failure Unit → Prop
  | taken (listed : (method, full) ∈ r.listing) :
      Registers r group method full handler r (.error (taken method full))
  | malformed {flaw : PatternFlaw} (unlisted : (method, full) ∉ r.listing)
      (flawed : Pattern.compile full = .error (flaw.toFailure full)) :
      Registers r group method full handler r (.error (flaw.toFailure full))
  | stored {p : Pattern} (unlisted : (method, full) ∉ r.listing)
      (compiled : Pattern.compile full = .ok p) :
      Registers r group method full handler (r.store ⟨method, p, group, handler⟩) (.ok ())

theorem handleAll_single : r.handleAll group [(method, pattern, handler)] =
    match r.insert group method (r.full group pattern) handler with
    | .ok r' => (r', .ok ())
    | .error f => (r, .error f) := by
  rfl

theorem registers (r : Router) (group : Option Nat) (method : Method) (pattern : String)
    (handler : Handler) :
    Registers r group method (r.full group pattern) handler
      (r.handleAll group [(method, pattern, handler)]).1
      (r.handleAll group [(method, pattern, handler)]).2 := by
  rw [handleAll_single]
  unfold insert
  by_cases listed : (method, r.full group pattern) ∈ r.listing
  · rw [if_pos (mem_listing_iff.mp listed)]
    exact .taken listed
  · rw [if_neg (mt mem_listing_iff.mpr listed)]
    obtain ⟨p, compiled⟩ | ⟨flaw, flawed⟩ := Pattern.compile_cases (r.full group pattern)
    · rw [compiled]
      exact .stored listed compiled
    · rw [flawed]
      exact .malformed listed flawed

theorem registers_of_handleAll {answer : Except Failure Unit}
    (call : r.handleAll group [(method, pattern, handler)] = (r', answer)) :
    Registers r group method (r.full group pattern) handler r' answer := by
  have outcome := registers r group method pattern handler
  rwa [call] at outcome

theorem handleAll_cons (rest : List (Method × String × Handler)) :
    r.handleAll group ((method, pattern, handler) :: rest) =
      match r.handleAll group [(method, pattern, handler)] with
      | (r', .ok ()) => r'.handleAll group rest
      | (r', .error f) => (r', .error f) := by
  rw [handleAll_single]
  change (match r.insert group method (r.full group pattern) handler with
    | .ok r' => r'.handleAll group rest
    | .error f => (r, .error f)) = _
  cases r.insert group method (r.full group pattern) handler <;> rfl

/-- A route was there before, or it is what one of the registrations asks for. -/
theorem mem_routes_handleAll {entries : List (Method × String × Handler)} {route : Route}
    (member : route ∈ (r.handleAll group entries).1.routes) :
    route ∈ r.routes ∨ ∃ entry ∈ entries, route.method = entry.1 ∧
      route.pattern.text = r.full group entry.2.1 ∧ route.handler = entry.2.2 := by
  induction entries generalizing r with
  | nil => exact .inl member
  | cons entry rest ih =>
      obtain ⟨method, pattern, handler⟩ := entry
      rw [handleAll_cons] at member
      cases call : r.handleAll group [(method, pattern, handler)] with
      | mk r' answer =>
          rw [call] at member
          cases registers_of_handleAll call with
          | taken | malformed => exact .inl member
          | stored unlisted compiled =>
              obtain old | ⟨later, inside, asked⟩ := ih member
              · obtain old | new := List.mem_append.mp old
                · exact .inl old
                · rw [List.mem_singleton.mp new]
                  have text := (Pattern.compile_reads compiled).1
                  exact .inr ⟨_, List.mem_cons_self, rfl, text, rfl⟩
              · exact .inr ⟨later, List.mem_cons_of_mem _ inside, asked⟩

end Router

end HttpService

import HttpService.Proofs.Json.Record
import Mathlib.Data.List.Nodup

/-!
# Members left out and members too many

A record that is read from an object without some of its members has the default of each field whose
member is gone. A closed record is read from no object that names what the record does not know, or
that names anything twice.
-/

namespace HttpService.Json

/-- What succeeds after a first reading has succeeded. -/
theorem bind_eq_ok {α β : Type} {x : Except Fault α} {f : α → Except Fault β} {b : β} :
    (x >>= f) = .ok b ↔ ∃ a, x = .ok a ∧ f a = .ok b := by
  cases x with
  | ok a => simp [bind, Except.bind]
  | error fault => simp [bind, Except.bind]

/-! ## Members left out -/

mutual

/-- The value without the members that are gone; a member is given by the names that lead to it. -/
def without : (List String → Bool) → Json → Json
  | gone, .object ms => .object (withoutMembers gone ms)
  | _, .null => .null
  | _, .bool b => .bool b
  | _, .number n => .number n
  | _, .text s => .text s
  | _, .array xs => .array xs

def withoutMembers : (List String → Bool) → List (String × Json) → List (String × Json)
  | _, [] => []
  | gone, (k, v) :: ms =>
      if gone [k] then withoutMembers gone ms
      else (k, without (fun place => gone (k :: place)) v) :: withoutMembers gone ms

end

mutual

theorem without_none : (j : Json) → without (fun _ => false) j = j
  | .object ms => congrArg Json.object (withoutMembers_none ms)
  | .null | .bool _ | .number _ | .text _ | .array _ => rfl

theorem withoutMembers_none :
    (ms : List (String × Json)) → withoutMembers (fun _ => false) ms = ms
  | [] => rfl
  | (k, v) :: ms => by
      rw [withoutMembers, without_none v, withoutMembers_none ms]
      rfl

end

section

variable (gone : List String → Bool) (ms : List (String × Json))

/-- A member that is not gone is found where it was, without what is gone inside of it. -/
theorem find?_withoutMembers (name : String) :
    (withoutMembers gone ms).find? (fun m => m.1 == name) =
      if gone [name] then none
      else (ms.find? fun m => m.1 == name).map fun m =>
        (m.1, without (fun place => gone (m.1 :: place)) m.2) := by
  induction ms with
  | nil => simp [withoutMembers]
  | cons m ms ih =>
      obtain ⟨k, v⟩ := m
      by_cases same : k = name
      · subst same
        by_cases left : gone [k] = true
        · simp [withoutMembers, left, ih]
        · simp [withoutMembers, left]
      · by_cases left : gone [k] = true
        · simp [withoutMembers, left, ih, same]
        · simp [withoutMembers, left, ih, same]

theorem keys_withoutMembers :
    ((withoutMembers gone ms).map Prod.fst).Sublist (ms.map Prod.fst) := by
  induction ms with
  | nil => exact .slnil
  | cons m ms ih =>
      rw [withoutMembers]
      split
      · exact ih.cons _
      · exact ih.cons_cons _

end

theorem Fields.find?_written (level : Nat) (byName : Bool) (ms : List (String × Json))
    (name : String) :
    find? ⟨level, byName, written ms⟩ name =
      (ms.find? fun m => m.1 == name).map fun m => m.2.document := by
  rw [find?, written, List.find?_map, Option.map_map]
  rfl

section

variable {α : Type} {ms : List (String × Json)} {gone : List String → Bool}

theorem Reader.record_without {names : List String} {closed : Bool}
    {build : Fields → Except Fault α} (level : Nat) (fits : ∀ m ∈ ms, m.1 ∈ names)
    (distinct : (ms.map Prod.fst).Nodup) :
    record names closed build (level + 1) (document (without gone (.object ms))) =
      build ⟨level, true, written (withoutMembers gone ms)⟩ := by
  -- Members that are left are still known, and still not repeated.
  have keys := keys_withoutMembers gone ms
  rw [without]
  apply record_object
  · intro m member
    obtain ⟨m', member', same⟩ := List.mem_map.mp
      (keys.subset (List.mem_map_of_mem (f := Prod.fst) member))
    exact same ▸ fits m' member'
  · exact distinct.sublist keys

section

variable {β : Type} {r : Reader α} {build : α → Except Fault β} {level : Nat} {name : String}
  {v : Json} {x : α} {b : β} (found : (ms.find? fun m => m.1 == name) = some (name, v))

include found

/-- A field with a default has it exactly if its member is gone. -/
theorem defaulted_bind {value : α}
    (reads : gone [name] = false →
      r level (without (fun place => gone (name :: place)) v).document = .ok x)
    (rest : build (if gone [name] then value else x) = .ok b) :
    (Fields.defaulted ⟨level, true, written (withoutMembers gone ms)⟩ name value r >>= build) =
      .ok b := by
  refine bind_eq_ok.mpr ⟨_, ?_, rest⟩
  rw [Fields.defaulted, Fields.find?_written, find?_withoutMembers, found]
  cases left : gone [name] with
  | true => rfl
  | false => exact reads left

theorem required_bind (stays : gone [name] = false)
    (reads : r level (without (fun place => gone (name :: place)) v).document = .ok x)
    (rest : build x = .ok b) :
    (Fields.required ⟨level, true, written (withoutMembers gone ms)⟩ name r >>= build) =
      .ok b := by
  refine bind_eq_ok.mpr ⟨x, ?_, rest⟩
  rw [Fields.required, Fields.find?_written, find?_withoutMembers, found, stays]
  exact reads

end

end

/-! ## Members too many -/

/-- The object at a place inside of a document, by its members; the place is given by the names that
lead to it. -/
inductive Document.ObjectAt : List String → Document → List (List Piece × Document) → Prop
  | here (ms : List (List Piece × Document)) : ObjectAt [] (.object ms) ms
  | inside {name : String} {place : List String} {ps : List Piece} {d : Document}
      {ms inner : List (List Piece × Document)} (member : (ps, d) ∈ ms)
      (named : pieces ps = .ok name) (deeper : ObjectAt place d inner) :
      ObjectAt (name :: place) (.object ms) inner

/-- Only known names, and none of them twice. -/
structure KnownOnce (names : List String) (ms : List (List Piece × Document)) : Prop where
  known : ∀ m ∈ ms, ∃ name ∈ names, pieces m.1 = .ok name
  once : (ms.map fun m => pieces m.1).Nodup

section

variable {names : List String} {ms : List (List Piece × Document)}
  {given : List (String × Document)}

/-- What a closed record asks of each further member. -/
theorem Fields.of_collect_cons {m : List Piece × Document}
    (collected : collect names true (m :: ms) = .ok given) :
    ∃ key rest, pieces m.1 = .ok key ∧ collect names true ms = .ok rest ∧ key ∈ names ∧
      (∀ entry ∈ rest, entry.1 ≠ key) ∧ given = (key, m.2) :: rest := by
  obtain ⟨key, named, collected⟩ := bind_eq_ok.mp collected
  obtain ⟨rest, others, collected⟩ := bind_eq_ok.mp collected
  split at collected
  · next known =>
      split at collected
      · cases collected
      · next fresh =>
          cases collected
          refine ⟨key, rest, named, others, known, fun entry inside same => fresh ?_, rfl⟩
          exact List.any_eq_true.mpr ⟨entry, inside, beq_iff_eq.mpr same⟩
  · cases collected

/-- A closed record collects every member under its name. -/
theorem Fields.map_of_collect (collected : collect names true ms = .ok given) :
    ms.map (fun m => (pieces m.1, m.2)) = given.map fun entry => (.ok entry.1, entry.2) := by
  induction ms generalizing given with
  | nil =>
      cases collected
      rfl
  | cons m ms ih =>
      obtain ⟨key, rest, named, others, -, -, rfl⟩ := of_collect_cons collected
      rw [List.map_cons, named, ih others, List.map_cons]

theorem Fields.keys_of_collect (collected : collect names true ms = .ok given) :
    (ms.map fun m => pieces m.1) = (given.map Prod.fst).map .ok := by
  have keys := congrArg (List.map Prod.fst) (map_of_collect collected)
  rw [List.map_map, List.map_map] at keys
  rw [List.map_map]
  exact keys

theorem Fields.collect_distinct (collected : collect names true ms = .ok given) :
    (∀ key ∈ given.map Prod.fst, key ∈ names) ∧ (given.map Prod.fst).Nodup := by
  induction ms generalizing given with
  | nil =>
      cases collected
      exact ⟨nofun, .nil⟩
  | cons m ms ih =>
      obtain ⟨key, rest, -, others, member, fresh, rfl⟩ := of_collect_cons collected
      obtain ⟨known, once⟩ := ih others
      refine ⟨List.forall_mem_cons.mpr ⟨member, known⟩, List.nodup_cons.mpr ⟨?_, once⟩⟩
      exact fun again =>
        have ⟨entry, inside, same⟩ := List.mem_map.mp again
        fresh entry inside same

theorem Fields.knownOnce_of_collect (collected : collect names true ms = .ok given) :
    KnownOnce names ms := by
  have keys := keys_of_collect collected
  obtain ⟨known, once⟩ := collect_distinct collected
  constructor
  · intro m member
    have named : pieces m.1 ∈ (given.map Prod.fst).map .ok := keys ▸ List.mem_map_of_mem member
    obtain ⟨key, inside, named⟩ := List.mem_map.mp named
    exact ⟨key, known key inside, named.symm⟩
  · rw [keys]
    exact once.map fun _ _ => Except.ok.inj

/-- A member is found under its name. -/
theorem Fields.find?_of_collect (collected : collect names true ms = .ok given) (level : Nat)
    {name : String} {ps : List Piece} {d : Document} (member : (ps, d) ∈ ms)
    (named : pieces ps = .ok name) : find? ⟨level, true, given⟩ name = some d := by
  have image : (Except.ok name, d) ∈ given.map fun entry => (Except.ok entry.1, entry.2) :=
    map_of_collect collected ▸ List.mem_map.mpr ⟨(ps, d), member, by rw [named]⟩
  obtain ⟨⟨key, value⟩, inside, same⟩ := List.mem_map.mp image
  cases same
  rw [find?]
  cases found : given.find? fun entry => entry.1 == key with
  | none => exact absurd (beq_self_eq_true key) (List.find?_eq_none.mp found (key, value) inside)
  | some entry =>
      have same : entry.1 = key := by simpa only [beq_iff_eq] using List.find?_some found
      have here := List.mem_of_find?_eq_some found
      obtain rfl : entry = (key, value) :=
        List.inj_on_of_nodup_map (collect_distinct collected).2 here inside same
      rfl

end

/-- Every document that is read has only known names, and none twice, in the object at the place. -/
def Reader.ClosedAt {α : Type} (r : Reader α) (place names : List String) : Prop :=
  ∀ ⦃level : Nat⦄ ⦃d : Document⦄ ⦃a : α⦄ ⦃ms : List (List Piece × Document)⦄,
    r level d = .ok a → d.ObjectAt place ms → KnownOnce names ms

section

variable {α β : Type} {names : List String} {build : Fields → Except Fault α}

theorem Reader.collected_of_record {level : Nat} {ms : List (List Piece × Document)} {a : α}
    (read : record names true build level (.object ms) = .ok a) :
    ∃ inner given, Fields.collect names true ms = .ok given ∧
      build ⟨inner, true, given⟩ = .ok a := by
  cases level with
  | zero => cases read
  | succ inner =>
      obtain ⟨given, collected, built⟩ := bind_eq_ok.mp read
      exact ⟨inner, given, collected, built⟩

theorem Reader.closedAt_record : (record names true build).ClosedAt [] names := by
  rintro level d a ms read ⟨⟩
  obtain ⟨inner, given, collected, -⟩ := collected_of_record read
  exact Fields.knownOnce_of_collect collected

variable {r : Reader β} {place known : List String}

theorem Reader.ClosedAt.option (closed : r.ClosedAt place known) :
    r.option.ClosedAt place known := by
  intro level d b? ms read object
  have present : r.option level d = (r level d).map some := by cases object <;> rfl
  rw [present] at read
  cases found : r level d with
  | ok b => exact closed found object
  | error fault =>
      rw [found] at read
      cases read

/-- A record is closed where the readers of its fields are. -/
theorem Reader.ClosedAt.inside (closed : r.ClosedAt place known) {name : String}
    (field : ∀ f a, build f = .ok a → ∃ value b, Fields.defaulted f name value r = .ok b) :
    (record names true build).ClosedAt (name :: place) known := by
  rintro level d a ms read (_ | ⟨member, named, deeper⟩)
  obtain ⟨inner, given, collected, built⟩ := collected_of_record read
  obtain ⟨value, b, read⟩ := field _ a built
  -- The member that the place goes through is the one that the field was read from.
  rw [Fields.defaulted, Fields.find?_of_collect collected inner member named] at read
  exact closed read deeper

end

end HttpService.Json

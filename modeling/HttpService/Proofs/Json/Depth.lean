import HttpService.Proofs.Json.Document

/-!
# How deep a document is

A reader is told how many containers may still be opened. As long as the document needs no more than
that, the number has no say in what is read: a value reads the same on its own and inside of
something else.
-/

namespace HttpService.Json

mutual

/-- How many containers enclose the innermost part of a document. -/
def Document.depth : Document → Nat
  | .array ds => Document.depthItems ds + 1
  | .object ms => Document.depthMembers ms + 1
  | _ => 0

def Document.depthItems : List Document → Nat
  | [] => 0
  | d :: ds => max d.depth (Document.depthItems ds)

def Document.depthMembers : List (List Piece × Document) → Nat
  | [] => 0
  | (_, d) :: ms => max d.depth (Document.depthMembers ms)

end

mutual

/-- A value is written as deep as it is. -/
theorem depth_document : (j : Json) → j.document.depth = j.depth
  | .null | .bool _ | .number _ | .text _ => rfl
  | .array xs => congrArg (· + 1) (depth_documents xs)
  | .object ms => congrArg (· + 1) (depth_memberDocuments ms)

theorem depth_documents : (xs : List Json) →
    Document.depthItems (documents xs) = depthItems xs
  | [] => rfl
  | x :: xs => by
      rw [documents, Document.depthItems, depth_document x, depth_documents xs, depthItems]

theorem depth_memberDocuments : (ms : List (String × Json)) →
    Document.depthMembers (memberDocuments ms) = depthMembers ms
  | [] => rfl
  | (_, v) :: ms => by
      rw [memberDocuments, Document.depthMembers, depth_document v, depth_memberDocuments ms,
        depthMembers]

end

/-- A result that is the same at all levels from a depth on. -/
def SteadyFrom {β : Type} (depth : Nat) (result : Nat → β) : Prop :=
  ∀ m n, depth ≤ m → depth ≤ n → result m = result n

/-- A reader that learns nothing of its level from a document whose containers may all be opened. -/
def Reader.Steady {α : Type} (r : Reader α) : Prop :=
  ∀ d : Document, SteadyFrom d.depth fun level => r level d

namespace SteadyFrom

variable {α β γ : Type} {depth other : Nat}

theorem const {b : β} : SteadyFrom depth fun _ => b :=
  fun _ _ _ _ => rfl

theorem deeper {result : Nat → β} (steady : SteadyFrom depth result) (le : depth ≤ other) :
    SteadyFrom other result :=
  fun m n atM atN => steady m n (Nat.le_trans le atM) (Nat.le_trans le atN)

theorem bind {first : Nat → Except Fault α} {next : Nat → α → Except Fault β}
    (steady : SteadyFrom depth first) (rest : ∀ a, SteadyFrom depth fun level => next level a) :
    SteadyFrom depth fun level => first level >>= next level := by
  intro m n atM atN
  dsimp only
  rw [steady m n atM atN]
  exact bind_congr fun a => rest a m n atM atN

theorem map {result : Nat → Except Fault α} (steady : SteadyFrom depth result) (f : α → β) :
    SteadyFrom depth fun level => (result level).map f :=
  fun m n atM atN => congrArg (Except.map f) (steady m n atM atN)

/-- Opening a container takes one level. -/
theorem enter {inside : Nat → Except Fault α} (steady : SteadyFrom depth inside) :
    SteadyFrom (depth + 1) fun level => Reader.enter level inside := by
  intro m n atM atN
  cases m with
  | zero => exact absurd atM (Nat.not_succ_le_zero depth)
  | succ m =>
      cases n with
      | zero => exact absurd atN (Nat.not_succ_le_zero depth)
      | succ n => exact steady m n (Nat.le_of_succ_le_succ atM) (Nat.le_of_succ_le_succ atN)

end SteadyFrom

namespace Reader.Steady

variable {α β : Type} {r : Reader α}

/-! ## Values without parts -/

theorem unit : Steady unit
  | .null | .bool _ | .number _ | .text _ | .array _ | .object _ => .const

theorem bool : Steady bool
  | .null | .bool _ | .number _ | .text _ | .array _ | .object _ => .const

theorem string : Steady string
  | .null | .bool _ | .number _ | .text _ | .array _ | .object _ => .const

theorem number : Steady number
  | .null | .bool _ | .number _ | .text _ | .array _ | .object _ => .const

theorem map (steady : r.Steady) (f : α → β) : (r.map f).Steady :=
  fun d => (steady d).map f

theorem filterMap (steady : r.Steady) (expected : String) (f : α → Option β) :
    (r.filterMap expected f).Steady :=
  fun d => (steady d).bind fun _ => .const

/-! ## Values with parts -/

theorem option (steady : r.Steady) : (option r).Steady
  | .null => .const
  | .bool _ | .number _ | .text _ | .array _ | .object _ => (steady _).map some

theorem items (steady : r.Steady) (ds : List Document) :
    SteadyFrom (Document.depthItems ds) fun level => Reader.items r level ds := by
  induction ds with
  | nil => exact .const
  | cons d ds ih =>
      exact ((steady d).deeper (Nat.le_max_left ..)).bind fun _ =>
        (ih.deeper (Nat.le_max_right ..)).bind fun _ => .const

theorem list (steady : r.Steady) : (list r).Steady
  | .array ds => (steady.items ds).enter
  | .null | .bool _ | .number _ | .text _ | .object _ => .const

theorem members (steady : r.Steady) (ms : List (List Piece × Document)) :
    SteadyFrom (Document.depthMembers ms) fun level => Reader.members r level ms := by
  induction ms with
  | nil => exact .const
  | cons m ms ih =>
      exact SteadyFrom.const.bind fun _ =>
        ((steady m.2).deeper (Nat.le_max_left ..)).bind fun _ =>
          (ih.deeper (Nat.le_max_right ..)).bind fun _ => .const

theorem table (steady : r.Steady) : (table r).Steady
  | .object ms => ((steady.members ms).map Table.ofList).enter
  | .null | .bool _ | .number _ | .text _ | .array _ => .const

end Reader.Steady

mutual

theorem steady_ofDocument : (d : Document) → SteadyFrom d.depth fun level => ofDocument level d
  | .null | .bool _ | .number _ | .text _ => .const
  | .array ds => ((steady_ofItems ds).map Json.array).enter
  | .object ms => ((steady_ofMembers ms).map fun es => Json.object (Table.ofList es)).enter

theorem steady_ofItems : (ds : List Document) →
    SteadyFrom (Document.depthItems ds) fun level => ofItems level ds
  | [] => .const
  | d :: ds =>
      ((steady_ofDocument d).deeper (Nat.le_max_left ..)).bind fun _ =>
        ((steady_ofItems ds).deeper (Nat.le_max_right ..)).bind fun _ => .const

theorem steady_ofMembers : (ms : List (List Piece × Document)) →
    SteadyFrom (Document.depthMembers ms) fun level => ofMembers level ms
  | [] => .const
  | (_, d) :: ms =>
      SteadyFrom.const.bind fun _ =>
        ((steady_ofDocument d).deeper (Nat.le_max_left ..)).bind fun _ =>
          ((steady_ofMembers ms).deeper (Nat.le_max_right ..)).bind fun _ => .const

end

theorem Reader.Steady.value : Reader.value.Steady :=
  steady_ofDocument

/-! ## Records -/

/-- The values of fields are no deeper than this. -/
def Shallow (depth : Nat) (given : List (String × Document)) : Prop :=
  ∀ entry ∈ given, entry.2.depth ≤ depth

theorem shallow_collect {names : List String} {closed : Bool} {ms : List (List Piece × Document)}
    {given : List (String × Document)} (collected : Fields.collect names closed ms = .ok given) :
    Shallow (Document.depthMembers ms) given := by
  induction ms generalizing given with
  | nil =>
      cases collected
      exact fun _ member => by cases member
  | cons m ms ih =>
      obtain ⟨name, d⟩ := m
      unfold Fields.collect at collected
      cases key : pieces name with
      | error fault => simp [key, bind, Except.bind] at collected
      | ok key' =>
          cases others : Fields.collect names closed ms with
          | error fault => simp [key, others, bind, Except.bind] at collected
          | ok rest =>
              have below : Shallow (Document.depthMembers ((name, d) :: ms)) rest :=
                fun entry member => Nat.le_trans (ih others entry member) (Nat.le_max_right ..)
              simp only [key, others, bind, Except.bind] at collected
              split at collected
              · split at collected
                · cases collected
                · cases collected
                  intro entry member
                  obtain rfl | member := List.mem_cons.mp member
                  · exact Nat.le_max_left ..
                  · exact below entry member
              · split at collected
                · cases collected
                · cases collected
                  exact below

theorem depth_le_depthItems {ds : List Document} {d : Document} (member : d ∈ ds) :
    d.depth ≤ Document.depthItems ds := by
  induction ds with
  | nil => cases member
  | cons e ds ih =>
      obtain rfl | member := List.mem_cons.mp member
      · exact Nat.le_max_left ..
      · exact Nat.le_trans (ih member) (Nat.le_max_right ..)

theorem shallow_zip (names : List String) (ds : List Document) :
    Shallow (Document.depthItems ds) (names.zip ds) :=
  fun _ member => depth_le_depthItems (List.of_mem_zip member).2

section

variable {α : Type} {r : Reader α} {depth : Nat} {given : List (String × Document)}

theorem Shallow.find? (shallow : Shallow depth given) {name : String} {level : Nat} {byName : Bool}
    {d : Document} (found : Fields.find? ⟨level, byName, given⟩ name = some d) :
    d.depth ≤ depth := by
  obtain ⟨entry, here, rfl⟩ := Option.map_eq_some_iff.mp found
  exact shallow entry (List.mem_of_find?_eq_some here)

variable (steady : r.Steady) (shallow : Shallow depth given) (byName : Bool) (name : String)

include steady shallow

/-- A field that is there, or what stands for one that is not. -/
theorem Reader.Steady.field (absent : Except Fault α) :
    SteadyFrom depth fun level =>
      match Fields.find? ⟨level, byName, given⟩ name with
      | some d => r level d
      | none => absent := by
  intro m n atM atN
  have same : Fields.find? ⟨n, byName, given⟩ name = Fields.find? ⟨m, byName, given⟩ name := rfl
  dsimp only
  rw [same]
  cases found : Fields.find? ⟨m, byName, given⟩ name with
  | none => rfl
  | some d => exact (steady d).deeper (shallow.find? found) m n atM atN

theorem Reader.Steady.required :
    SteadyFrom depth fun level => Fields.required ⟨level, byName, given⟩ name r :=
  steady.field shallow byName name _

theorem Reader.Steady.defaulted (value : α) :
    SteadyFrom depth fun level => Fields.defaulted ⟨level, byName, given⟩ name value r :=
  steady.field shallow byName name _

theorem Reader.Steady.optional :
    SteadyFrom depth fun level => Fields.optional ⟨level, byName, given⟩ name r :=
  steady.option.field shallow byName name
    (if byName then .ok none else .error (.missingField name))

end

/-- A record is steady if what is built from its fields is. -/
theorem Reader.Steady.record {α : Type} {names : List String} {closed : Bool}
    {build : Fields → Except Fault α}
    (steady : ∀ byName given depth, Shallow depth given →
      SteadyFrom depth fun level => build ⟨level, byName, given⟩) :
    (record names closed build).Steady
  | .object ms => by
      have fields : SteadyFrom (Document.depthMembers ms) fun inner =>
          Fields.collect names closed ms >>= fun given => build ⟨inner, true, given⟩ := by
        intro m n atM atN
        dsimp only
        cases collected : Fields.collect names closed ms with
        | error fault => rfl
        | ok given => exact steady true given _ (shallow_collect collected) m n atM atN
      exact fields.enter
  | .array ds => by
      have fields : SteadyFrom (Document.depthItems ds) fun inner =>
          if ds.length ≤ names.length then build ⟨inner, false, names.zip ds⟩
          else .error (.mismatch "fewer items") := by
        intro m n atM atN
        dsimp only
        split
        · exact steady false _ _ (shallow_zip names ds) m n atM atN
        · rfl
      exact fields.enter
  | .null | .bool _ | .number _ | .text _ => .const

end HttpService.Json

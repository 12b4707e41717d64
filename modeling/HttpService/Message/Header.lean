import HttpService.Text.Blank
import HttpService.Text.Utf8

/-!
# Headers

Named values in the order they were added. Names are kept in lower case and looked up in any case.
A value is text if all its characters are visible ASCII or tabs; other values are carried along but
read by nobody.
-/

namespace HttpService

abbrev Headers := List (String × String)

namespace Headers

def lowerName (name : String) : String :=
  String.ofList (name.toList.map Char.toLower)

/-- Adds a value beside those the name already has. -/
def append (h : Headers) (name value : String) : Headers :=
  h ++ [(lowerName name, value)]

def remove (h : Headers) (name : String) : Headers :=
  h.filter fun entry => entry.1 ≠ lowerName name

/-- Sets the only value of a name. -/
def insert (h : Headers) (name value : String) : Headers :=
  (h.remove name).append name value

def getAll (h : Headers) (name : String) : List String :=
  (h.filter fun entry => entry.1 = lowerName name).map Prod.snd

/-- The first value of a name. -/
def get? (h : Headers) (name : String) : Option String :=
  (h.getAll name).head?

def ofList (entries : List (String × String)) : Headers :=
  entries.foldl (fun h entry => h.append entry.1 entry.2) []

def isTextChar (c : Char) : Bool :=
  (32 ≤ c.toNat && c.toNat < 127) || c == '\t'

/-- Whether a value can be read as text. -/
def readable (value : String) : Bool :=
  value.toList.all isTextChar

/-- Whether a text may be a value: no control characters other than tabs. -/
def legalValue (value : String) : Bool :=
  value.toList.all fun c => (32 ≤ c.toNat && c.toNat != 127) || c == '\t'

/-- The first value of a name, if it can be read as text. -/
def text? (h : Headers) (name : String) : Option String :=
  match h.get? name with
  | some value => if readable value then some value else none
  | none => none

/-- In ascending order of names; values of one name keep their order. -/
def sorted (h : Headers) : List (String × String) :=
  h.mergeSort fun a b => a.1 ≤ b.1

theorem getAll_append_self (h : Headers) (name value : String) :
    (h.append name value).getAll name = h.getAll name ++ [value] := by
  simp [append, getAll, List.filter_append]

/-- After setting a name it has that one value. -/
theorem getAll_insert_self (h : Headers) (name value : String) :
    (h.insert name value).getAll name = [value] := by
  have : (h.remove name).getAll name = [] := by
    simp [remove, getAll, List.filter_filter]
  simp [insert, getAll_append_self, this]

/-- Other names keep their values. -/
theorem getAll_append_of_ne {h : Headers} {name other : String}
    (different : lowerName other ≠ lowerName name) (value : String) :
    (h.append name value).getAll other = h.getAll other := by
  simp [append, getAll, List.filter_append, different.symm]

theorem getAll_insert_of_ne {h : Headers} {name other : String}
    (different : lowerName other ≠ lowerName name) (value : String) :
    (h.insert name value).getAll other = h.getAll other := by
  have kept : (h.remove name).getAll other = h.getAll other := by
    unfold remove getAll
    rw [List.filter_filter]
    congr 1
    refine List.filter_congr fun entry _ => ?_
    by_cases same : entry.1 = lowerName other
    · simp [same, different]
    · simp [same]
  rw [insert, getAll_append_of_ne different, kept]

theorem get?_insert_self (h : Headers) (name value : String) :
    (h.insert name value).get? name = some value := by
  simp [get?, getAll_insert_self]

end Headers

end HttpService

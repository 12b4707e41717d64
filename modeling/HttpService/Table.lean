/-!
# Tables

Finite maps from names to values, held as a list in ascending order of the names. Two tables with
the same entries are equal, and reading one front to back gives its canonical order.
-/

namespace HttpService

abbrev Table (α : Type u) := List (String × α)

namespace Table

variable {α : Type u}

def find? : Table α → String → Option α
  | [], _ => none
  | (k, v) :: rest, key => if k = key then some v else find? rest key

def contains (t : Table α) (key : String) : Bool :=
  (t.find? key).isSome

/-- Sets the value of a name. -/
def insert : Table α → String → α → Table α
  | [], key, value => [(key, value)]
  | (k, v) :: rest, key, value =>
      if key < k then (key, value) :: (k, v) :: rest
      else if k = key then (key, value) :: rest
      else (k, v) :: insert rest key value

def erase (t : Table α) (key : String) : Table α :=
  t.filter fun entry => entry.1 ≠ key

/-- The table of a list of entries; a later entry of a name replaces an earlier one. -/
def ofList (entries : List (String × α)) : Table α :=
  entries.foldl (fun t entry => t.insert entry.1 entry.2) []

def keys (t : Table α) : List String :=
  t.map Prod.fst

def values (t : Table α) : List α :=
  t.map Prod.snd

/-- Looking up a name after setting it gives the value set; other names keep theirs. -/
theorem find?_insert (t : Table α) (key other : String) (value : α) :
    (t.insert key value).find? other = if key = other then some value else t.find? other := by
  induction t with
  | nil => by_cases h : key = other <;> simp [insert, find?, h]
  | cons entry rest ih =>
      obtain ⟨k, v⟩ := entry
      unfold insert
      split
      · by_cases h : key = other <;> simp [find?, h]
      · split
        · next hk =>
            subst hk
            by_cases h : k = other <;> simp [find?, h]
        · next hk =>
            by_cases h : k = other
            · have hne : key ≠ other := fun e => hk (h.trans e.symm)
              simp [find?, h, hne]
            · rw [find?, if_neg h, ih, find?, if_neg h]

end Table

end HttpService

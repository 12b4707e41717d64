/-!
# Splitting text

Splitting at a character keeps every piece, so that joining the pieces gives the text back.
-/

namespace HttpService.Text

/-- The pieces between the occurrences of a separator; there is always at least one. -/
def splitChars (sep : Char) : List Char → List (List Char)
  | [] => [[]]
  | c :: rest =>
      if c = sep then [] :: splitChars sep rest
      else
        match splitChars sep rest with
        | [] => [[c]]
        | piece :: pieces => (c :: piece) :: pieces

def split (sep : Char) (s : String) : List String :=
  (splitChars sep s.toList).map String.ofList

/-- The part before the first separator and, if there is one, the part after it. -/
def cutChars (sep : Char) : List Char → List Char × Option (List Char)
  | [] => ([], none)
  | c :: rest =>
      if c = sep then ([], some rest)
      else
        let (before, after) := cutChars sep rest
        (c :: before, after)

def cut (sep : Char) (s : String) : String × Option String :=
  let (before, after) := cutChars sep s.toList
  (String.ofList before, after.map String.ofList)

/-- The text after a given start, if it starts so. -/
def stripStart? (start s : String) : Option String :=
  if start.toList.isPrefixOf s.toList then
    some (String.ofList (s.toList.drop start.toList.length))
  else none

def startsWith (s start : String) : Bool :=
  start.toList.isPrefixOf s.toList

theorem splitChars_ne_nil (sep : Char) (cs : List Char) : splitChars sep cs ≠ [] := by
  induction cs with
  | nil => simp [splitChars]
  | cons c rest ih =>
      unfold splitChars
      split
      · simp
      · split <;> simp

theorem intercalate_splitChars (sep : Char) (cs : List Char) :
    [sep].intercalate (splitChars sep cs) = cs := by
  induction cs with
  | nil => rfl
  | cons c rest ih =>
      have ne := splitChars_ne_nil sep rest
      unfold splitChars
      split
      · next h =>
          subst h
          cases hs : splitChars c rest with
          | nil => exact absurd hs ne
          | cons piece pieces => simpa [List.intercalate, hs] using ih
      · cases hs : splitChars sep rest with
        | nil => exact absurd hs ne
        | cons piece pieces =>
            cases pieces with
            | nil => simpa [List.intercalate, hs] using ih
            | cons second more =>
                simpa [List.intercalate, hs] using ih

end HttpService.Text

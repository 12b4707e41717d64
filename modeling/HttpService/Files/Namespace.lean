import HttpService.Failure.Basic
import HttpService.Time.Instant

/-!
# Namespaces

The entries of a file tree, by path. The parent of a path is the text before its last slash.
-/

namespace HttpService

structure FileInfo where
  path : String
  size : Nat
  isDirectory : Bool
  replicas : Nat
  modified : Instant
  deriving DecidableEq, Repr

namespace FileInfo

def toJson (f : FileInfo) : Json :=
  .object
    [("path", .text f.path), ("size", Json.ofNat f.size), ("is_dir", .bool f.isDirectory),
     ("replicas", Json.ofNat f.replicas), ("modified_at", .text f.modified.toString)]

def reader : Json.Reader FileInfo :=
  Json.Reader.record ["path", "size", "is_dir", "replicas", "modified_at"] false fun f => do
    let path ← f.required "path" Json.Reader.string
    let size ← f.required "size" (Json.Reader.natUpTo (Nat.pow 2 64 - 1))
    let isDirectory ← f.required "is_dir" Json.Reader.bool
    let replicas ← f.required "replicas" (Json.Reader.natUpTo (Nat.pow 2 32 - 1))
    let modified ← f.required "modified_at"
      (Json.Reader.string.filterMap "time" Instant.parse?)
    .ok ⟨path, size, isDirectory, replicas, modified⟩

end FileInfo

abbrev Namespace := Table FileInfo

namespace Namespace

def ofList (entries : List FileInfo) : Namespace :=
  Table.ofList (entries.map fun f => (f.path, f))

/-- The path above a path; the root is above the paths directly below it. -/
def parent (path : String) : String :=
  let before := (path.toList.reverse.dropWhile (· != '/')).drop 1
  if before.isEmpty then "/" else String.ofList before.reverse

def missing (path : String) : Failure :=
  .notFound (path ++ " does not exist")

def stat (n : Namespace) (path : String) : Except Failure FileInfo :=
  match Table.find? n path with
  | some f => .ok f
  | none => .error (missing path)

/-- The entries directly below a directory, in ascending order of their paths. -/
def list (n : Namespace) (path : String) : Except Failure (List FileInfo) :=
  match Table.find? n path with
  | none => .error (missing path)
  | some f =>
      if f.isDirectory then
        .ok ((Table.values n).filter fun g => g.path != path && parent g.path == path)
      else .error (.invalidArgument (path ++ " is not a directory"))

def directory (path : String) : FileInfo :=
  ⟨path, 0, true, 3, ⟨0⟩⟩

/-- Makes a directory, whether or not there is one above it. -/
def makeDirectory (n : Namespace) (path : String) : Except Failure FileInfo × Namespace :=
  if Table.contains n path then (.error (.alreadyExists (path ++ " already exists")), n)
  else (.ok (directory path), Table.insert n path (directory path))

/-- Removes one entry and nothing below it. -/
def remove (n : Namespace) (path : String) : Except Failure Unit × Namespace :=
  if Table.contains n path then (.ok (), Table.erase n path) else (.error (missing path), n)

end Namespace

end HttpService

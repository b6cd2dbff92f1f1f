import Manifest.FileTree

/-!
# Sources in a directory

Every file below a directory whose name ends in `.pp` is a unit. It is named by its path from there,
and its marker is the time at which it was last written.

## Main definitions

* `DirectorySources` — a directory in a tree of files.
* `DirectorySources.files` — the manifests below it in the order of their paths.
* `DirectorySources.provider` — what is answered for them.
-/

namespace Manifest

/-- The units below a directory. -/
structure DirectorySources where
  tree : FileTree
  /-- The path of the directory. -/
  root : String

namespace DirectorySources

/-- Whether a name is that of a manifest: it ends in `.pp` and something comes before that. -/
def isManifestName (name : String) : Bool :=
  match name.toList.reverse with
  | 'p' :: 'p' :: '.' :: _ :: _ => true
  | _ => false

/-- The manifests below the directory at a place, by the names from the root down to them. `below`
are the names down to the directory, and `links` is how many more links may be followed. A link that
leads nowhere counts as a file. The walk goes down at most `depth` times. -/
def collect (t : FileTree) : Nat → Nat → Place → List String → List (List String)
  | 0, _, _, _ => []
  | depth + 1, links, place, below =>
    (t.children place).flatMap fun name =>
      match t.follow links place [name] with
      | .ok ⟨inner, .directory, left⟩ => collect t depth left inner (below ++ [name])
      | _ => if isManifestName name then [below ++ [name]] else []

/-- A bound for the depth of all walks in a tree: between two links a walk goes to ever longer
places. -/
def maxDepth (t : FileTree) : Nat := (FileTree.maxLinks + 1) * (t.entries.length + 1)

/-- Whether a path does not come after another one: paths are ordered name by name. -/
def comesFirst : List String → List String → Bool
  | [], _ => true
  | _ :: _, [] => false
  | a :: as, b :: bs => a < b || (a == b && comesFirst as bs)

/-- The manifests below the directory in the order of their paths. -/
def files (d : DirectorySources) : Except SourceError (List (List String)) :=
  match d.tree.resolve d.root with
  | .ok ⟨place, .directory, links⟩ =>
    .ok ((collect d.tree (maxDepth d.tree) links place []).mergeSort comesFirst)
  | _ => .error (.missingDirectory d.root)

/-- The name of the unit in a file. -/
def unitName (file : List String) : String := String.intercalate "/" file

/-- The path of a file. -/
def path (d : DirectorySources) (file : List String) : String :=
  if d.root.toList.getLast? = some '/' then d.root ++ unitName file
  else d.root ++ "/" ++ unitName file

/-- The answer about a file, where a failure names its path. -/
def answer {α : Type} (d : DirectorySources) (file : List String) (result : Except FileError α) :
    Except SourceError α :=
  result.mapError (.unreadable (d.path file))

/-- The marker of a file. -/
def marker (d : DirectorySources) (file : List String) : Except SourceError Timestamp :=
  d.answer file (d.tree.modified (d.path file))

/-- The unit in a file. -/
def unit (d : DirectorySources) (file : List String) : Except SourceError Source := do
  let text ← d.answer file (d.tree.readText (d.path file))
  return ⟨unitName file, text, ← d.marker file⟩

/-- All units with their texts. -/
def load (d : DirectorySources) : Except SourceError (List Source) := do
  (← d.files).mapM d.unit

/-- The markers of all units. -/
def markers (d : DirectorySources) : Except SourceError (Table Timestamp) := do
  let found ← (← d.files).mapM fun file => do return (unitName file, ← d.marker file)
  return .ofList found

/-- What is answered for the directory. -/
def provider (d : DirectorySources) : Provider := ⟨d.load, d.markers⟩

end DirectorySources

end Manifest

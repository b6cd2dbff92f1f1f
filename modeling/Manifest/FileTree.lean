import Manifest.Source
import Manifest.Text.Split
import Manifest.Text.Utf8

/-!
# Trees of files

A tree holds files, directories and symbolic links by their places. A path is walked from the top of
the tree. Links on the way are followed, but no more than forty of them.

## Main definitions

* `Place` — where an entry stands: the names from the top down to it.
* `FileTree` — the entries by their places.
* `FileTree.resolve` — the entry that a path leads to.
* `FileTree.write`, `FileTree.delete` — changing the tree.
* `FileTree.readText`, `FileTree.modified` — what there is to know about a path.
-/

namespace Manifest

/-- Where an entry stands: the names from the top of the tree down to it. -/
abbrev Place := List String

/-- What stands at a place. -/
inductive FileEntry
  /-- A file with its bytes and the time at which it was last written. -/
  | file (bytes : List UInt8) (modified : Timestamp)
  | directory
  /-- A symbolic link, with the path that it holds. -/
  | link (target : String)
  deriving DecidableEq, Repr

/-- Files, directories and links by their places. -/
structure FileTree where
  /-- The entries below the top, at most one for each place. -/
  entries : List (Place × FileEntry)

namespace FileTree

/-- The tree without entries. -/
def empty : FileTree := ⟨[]⟩

/-- The entry at a place; the top is a directory. -/
def entry? (t : FileTree) (place : Place) : Option FileEntry :=
  if place = [] then some .directory else (t.entries.find? (·.1 == place)).map Prod.snd

/-- The names of the entries in the directory at a place. -/
def children (t : FileTree) (place : Place) : List String :=
  t.entries.filterMap fun e => if e.1.dropLast = place then e.1.getLast? else none

/-! ### Walking -/

/-- The names in a path. -/
def names (path : String) : List String := Text.split '/' path

/-- Where a walk stops. -/
inductive Stop
  /-- All names are walked; what stands there is no link. -/
  | arrived (place : Place) (entry : FileEntry)
  /-- A link stands in a directory, with names behind it that are not walked yet. -/
  | atLink (directory : Place) (target : String) (rest : List String)

/-- Walks names from a directory on until the end or the first link. -/
def walk (t : FileTree) : Place → List String → Except FileError Stop
  | here, [] => .ok (.arrived here .directory)
  | here, name :: rest =>
    if name = "" ∨ name = "." then walk t here rest
    else if name = ".." then walk t here.dropLast rest
    else
      let place := here ++ [name]
      match t.entry? place with
      | none => .error .notFound
      | some .directory => walk t place rest
      | some (.link target) => .ok (.atLink here target rest)
      | some (.file bytes modified) =>
        if rest = [] then .ok (.arrived place (.file bytes modified)) else .error .notDirectory

/-- How many links may be followed on one walk. -/
def maxLinks : Nat := 40

/-- A file or directory that a walk has come to. -/
structure Arrival where
  place : Place
  entry : FileEntry
  /-- How many more links may be followed. -/
  links : Nat

/-- Walks names from a directory on and follows up to `links` links. Nothing is known about places
outside the tree, where paths from the root of the system lead. -/
def follow (t : FileTree) (links : Nat) (here : Place) (path : List String) :
    Except FileError Arrival :=
  match t.walk here path with
  | .error e => .error e
  | .ok (.arrived place entry) => .ok ⟨place, entry, links⟩
  | .ok (.atLink directory target rest) =>
    match links with
    | 0 => .error .tooManyLinks
    | links + 1 =>
      if target.toList.head? = some '/' then .error .notFound
      else follow t links directory (names target ++ rest)

/-- What a path leads to. -/
def resolve (t : FileTree) (path : String) : Except FileError Arrival :=
  if path = "" ∨ path.toList.head? = some '/' then .error .notFound
  else t.follow maxLinks [] (names path)

/-- Whether a path leads to a directory. -/
def isDirectory (t : FileTree) (path : String) : Bool :=
  match t.resolve path with
  | .ok arrival => arrival.entry = .directory
  | .error _ => false

/-- The text in the file that a path leads to. -/
def readText (t : FileTree) (path : String) : Except FileError String :=
  match t.resolve path with
  | .error e => .error e
  | .ok ⟨_, .file bytes _, _⟩ =>
    match Text.decode? bytes with
    | some text => .ok text
    | none => .error .notText
  | .ok _ => .error .isDirectory

/-- When the file that a path leads to was last written. -/
def modified (t : FileTree) (path : String) : Except FileError Timestamp :=
  match t.resolve path with
  | .error e => .error e
  | .ok ⟨_, .file _ modified, _⟩ => .ok modified
  | .ok _ => .ok (.ofSeconds 0)

/-! ### Changes -/

/-- Puts an entry at a place, instead of the one there. -/
def put (t : FileTree) (place : Place) (e : FileEntry) : FileTree :=
  ⟨t.entries.filter (·.1 ≠ place) ++ [(place, e)]⟩

/-- The place of a name in a directory, after links if it leads anywhere. -/
def placeOf (t : FileTree) (here : Place) (name : String) : Place :=
  match t.follow maxLinks here [name] with
  | .ok arrival => arrival.place
  | .error _ => here ++ [name]

/-- Makes the directories on a path that are missing and answers the place of the last one. -/
def makeDirectories (t : FileTree) (here : Place) : List String → FileTree × Place
  | [] => (t, here)
  | name :: rest =>
    let place := t.placeOf here name
    let t := if (t.entry? place).isSome then t else t.put place .directory
    makeDirectories t place rest

/-- Writes an entry at a path. The directories on the path are made; a file that is written through
a link takes the place of the one that the link leads to; a directory that is there stays. -/
def write (t : FileTree) (path : String) (e : FileEntry) : FileTree :=
  let steps := names path
  match e with
  | .directory => (t.makeDirectories [] steps).1
  | .link _ =>
    let (t, here) := t.makeDirectories [] steps.dropLast
    t.put (here ++ steps.getLast?.toList) e
  | .file .. =>
    let (t, here) := t.makeDirectories [] steps.dropLast
    t.put (t.placeOf here (steps.getLast?.getD "")) e

/-- Deletes what stands at a path, with all that is below. Links on the path are followed, but not
the last name. -/
def delete (t : FileTree) (path : String) : FileTree :=
  let steps := names path
  let here := steps.dropLast.foldl t.placeOf []
  let place := here ++ steps.getLast?.toList
  ⟨t.entries.filter fun e => !(place.isPrefixOf e.1)⟩

end FileTree

end Manifest

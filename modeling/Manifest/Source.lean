import Manifest.Table
import Manifest.Timestamp

/-!
# Sources of manifests

A provider hands out the texts of all units, and their markers alone. Comparing markers shows
whether a unit was written since it was read.

## Main definitions

* `Source` — a unit with its text and marker.
* `FileError`, `SourceError` — why units cannot be read.
* `Provider` — what a place of sources answers at one moment.
-/

namespace Manifest

/-- A unit of manifests. -/
structure Source where
  /-- The name of the unit, which stands in places. -/
  name : String
  text : String
  /-- When the unit was last written. -/
  marker : Timestamp
  deriving DecidableEq, Repr

/-- Why a file or directory cannot be used. -/
inductive FileError
  | notFound
  | notDirectory
  | isDirectory
  | tooManyLinks
  | notText
  deriving DecidableEq, Repr

/-- The wording of an error, with its number where it has one. -/
def FileError.message : FileError → String
  | notFound => "No such file or directory (os error 2)"
  | notDirectory => "Not a directory (os error 20)"
  | isDirectory => "Is a directory (os error 21)"
  | tooManyLinks => "Too many levels of symbolic links (os error 40)"
  | notText => "stream did not contain valid UTF-8"

/-- Why the units cannot be read. -/
inductive SourceError
  | unreadable (path : String) (cause : FileError)
  | missingDirectory (path : String)
  deriving DecidableEq, Repr

/-- The wording of an error. -/
def SourceError.message : SourceError → String
  | unreadable path cause => "failed to read " ++ path ++ ": " ++ cause.message
  | missingDirectory path => "manifest directory not found: " ++ path

/-- The wordings of what lies behind an error. -/
def SourceError.causes : SourceError → List String
  | unreadable _ cause => [cause.message]
  | missingDirectory _ => []

/-- What a place of sources answers at one moment. -/
structure Provider where
  /-- Every unit with its text. -/
  load : Except SourceError (List Source)
  /-- The marker of every unit. -/
  markers : Except SourceError (Table Timestamp)

end Manifest

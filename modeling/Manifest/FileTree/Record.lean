import Manifest.FileTree
import Manifest.Json

/-!
# Entries as JSON

An entry is written as an object with its `path` and either a `text`, bytes in `hex`, `dir` or a
`link`. The time in `mtime` consists of seconds and nanoseconds and is one second if it is missing.

## Main definitions

* `FileEntry.ofJson?` — the path and entry that an object stands for.
* `FileTree.ofJson?` — the tree of a list of entries.
-/

namespace Manifest

/-- The member of an object with a key; a missing one counts as null. -/
def Json.member (key : String) : Json → Json
  | object members => ((members.find? (·.1 == key)).map Prod.snd).getD null
  | _ => null

namespace FileEntry

/-- The value of a hexadecimal digit. -/
def hexDigit? (c : Char) : Option Nat :=
  if c.isDigit then some (c.toNat - '0'.toNat)
  else if 'a' ≤ c ∧ c ≤ 'f' then some (c.toNat - 'a'.toNat + 10)
  else if 'A' ≤ c ∧ c ≤ 'F' then some (c.toNat - 'A'.toNat + 10)
  else none

/-- The bytes that pairs of hexadecimal digits stand for. -/
def hexBytes? : List Char → Option (List UInt8)
  | [] => some []
  | [_] => none
  | high :: low :: rest => do
    some (UInt8.ofNat (16 * (← hexDigit? high) + (← hexDigit? low)) :: (← hexBytes? rest))

/-- The time that a file has. -/
def timeOfJson : Json → Timestamp
  | .array [.integer seconds, .integer nanos] => ⟨seconds.toNat, nanos.toNat⟩
  | _ => .ofSeconds 1

/-- The path and the entry that an object stands for. -/
def ofJson? (v : Json) : Option (String × FileEntry) := do
  let path ← (v.member "path").asString?
  let time := timeOfJson (v.member "mtime")
  match v.member "text", v.member "hex", v.member "link" with
  | .string text, _, _ => some (path, .file (Text.encode text) time)
  | _, .string digits, _ => (hexBytes? digits.toList).map fun bytes => (path, .file bytes time)
  | _, _, .string target => some (path, .link target)
  | _, _, _ => some (path, .directory)

end FileEntry

namespace FileTree

/-- The tree of entries that are written one after the other. -/
def ofEntries (entries : List (String × FileEntry)) : FileTree :=
  entries.foldl (fun t e => t.write e.1 e.2) empty

/-- The tree that a list of entries stands for. -/
def ofJson? (v : Json) : Option FileTree :=
  match v with
  | .array items => (items.mapM FileEntry.ofJson?).map ofEntries
  | _ => none

end FileTree

end Manifest

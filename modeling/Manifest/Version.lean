import Manifest.Json

/-!
# Versions of catalogs

## Main definitions

* `Version` — the second in which a catalog was compiled, or what the version command printed.
* `Version.advance` — the version of a catalog that follows another one.
-/

namespace Manifest

/-- The version of a catalog. -/
inductive Version
  /-- Seconds since the epoch. -/
  | timestamp (seconds : UInt64)
  /-- What the version command printed. -/
  | command (output : String)
  deriving DecidableEq, Repr

namespace Version

instance : Inhabited Version := ⟨timestamp 0⟩

/-- The form of a version in texts. -/
def text : Version → String
  | timestamp seconds => toString seconds.toNat
  | command output => output

/-- The seconds of a timestamp. -/
def asTimestamp? : Version → Option UInt64
  | timestamp seconds => some seconds
  | command _ => none

/-- The version of a catalog after one with the `previous` version: a timestamp that is not later
becomes the next second, anything else stays. -/
def advance (version : Version) (previous : Option Version) : Version :=
  match version, previous with
  | timestamp now, some (timestamp last) => if now ≤ last then timestamp (last + 1) else version
  | _, _ => version

/-- A timestamp is a number, a command version a text. -/
def toJson : Version → Json
  | timestamp seconds => .integer seconds.toNat
  | command output => .string output

/-- Reads a version. -/
def ofJson? : Json → Option Version
  | .integer n => if 0 ≤ n ∧ n < Json.span64 then some (timestamp (UInt64.ofNat n.toNat)) else none
  | .string s => some (command s)
  | _ => none

end Version

end Manifest

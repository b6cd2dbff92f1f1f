/-!
# Places in a manifest

## Main definitions

* `Location` — a source unit with a line and a column, both counted from one.
-/

namespace Manifest

/-- A place in a manifest.  Lines and columns are counted without bound here; kept in 32 bits they
are right below `2^32`. -/
structure Location where
  /-- The name of the source unit. -/
  file : String
  line : Nat
  column : Nat
  deriving DecidableEq, Repr, Inhabited

namespace Location

/-- The form of a place in messages. -/
def text (l : Location) : String :=
  l.file ++ ":" ++ toString l.line ++ ":" ++ toString l.column

/-- Where things stand that no manifest declares. -/
def builtin : Location := ⟨"<builtin>", 0, 0⟩

end Location

end Manifest

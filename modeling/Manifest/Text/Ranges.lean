/-!
# Sets of characters given by ranges

A property of characters is a short list of closed ranges of code points.

## Main definitions

* `Ranges` — a list of closed ranges.
* `Ranges.contains` — membership of a character.
-/

namespace Manifest.Text

/-- A set of characters: closed ranges of code points, first and last. -/
abbrev Ranges := List (Nat × Nat)

/-- Whether a character lies in one of the ranges. -/
def Ranges.contains (ranges : Ranges) (c : Char) : Bool :=
  ranges.any fun r => r.1 ≤ c.toNat && c.toNat ≤ r.2

end Manifest.Text

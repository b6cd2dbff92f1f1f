import Manifest.Text.LetterTable
import Manifest.Text.WordTable

/-!
# Word characters and digits

## Main definitions

* `isWordChar` — characters that may continue a name.
* `isDecimalDigit` — characters that make up a number token.
* `isLetterOrNumber` — letters and numbers of every kind, fractions and superscripts included.
* `isNameStart`, `isUpperStart`, `isLowerStart` — characters that may begin a segment of a name.
-/

namespace Manifest.Text

/-- Word characters: letters, marks, decimal digits, connectors and joiners. -/
def isWordChar (c : Char) : Bool :=
  if c.toNat < 128 then c.isAlphanum || c == '_' else wordRanges.contains c

/-- Decimal digits of any script. -/
def isDecimalDigit (c : Char) : Bool :=
  if c.toNat < 128 then c.isDigit else digitRanges.contains c

/-- Letters and numbers of every script and kind. -/
def isLetterOrNumber (c : Char) : Bool :=
  if c.toNat < 128 then c.isAlphanum else letterRanges.contains c

/-- An ASCII capital, which begins a type name. -/
def isUpperStart (c : Char) : Bool := c.isUpper

/-- A small ASCII letter or an underscore, which begins a segment of a plain name. -/
def isLowerStart (c : Char) : Bool := c.isLower || c == '_'

/-- An ASCII letter or an underscore, which begins a segment of a variable name. -/
def isNameStart (c : Char) : Bool := isUpperStart c || isLowerStart c

end Manifest.Text

import Manifest.Text.Ranges

/-!
# White space

## Main definitions

* `isBlank` — the white space characters of Unicode.
* `trim` — a text without the white space at its two ends.
-/

namespace Manifest.Text

/-- The ranges of the property `White_Space`. -/
def blankRanges : Ranges :=
  [(0x9, 0xD), (0x20, 0x20), (0x85, 0x85), (0xA0, 0xA0), (0x1680, 0x1680), (0x2000, 0x200A),
   (0x2028, 0x2029), (0x202F, 0x202F), (0x205F, 0x205F), (0x3000, 0x3000)]

/-- White space, which separates tokens and is cut off by `trim`. -/
def isBlank (c : Char) : Bool := blankRanges.contains c

/-- The characters without the blanks before the first and after the last other one. -/
def trimChars (cs : List Char) : List Char :=
  ((cs.dropWhile isBlank).reverse.dropWhile isBlank).reverse

/-- A text without the white space at its two ends. -/
def trim (s : String) : String := String.ofList (trimChars s.toList)

end Manifest.Text

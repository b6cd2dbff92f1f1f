/-!
# Splitting texts

## Main definitions

* `split` — the parts of a text between the separators.
* `cut?` — the parts of a text before and after the first separator.
-/

namespace Manifest.Text

/-- The parts of characters between separators; there is always one more than there are
separators. -/
def splitChars (separator : Char) : List Char → List (List Char)
  | [] => [[]]
  | c :: rest =>
    if c = separator then [] :: splitChars separator rest
    else
      match splitChars separator rest with
      | [] => [[c]]
      | part :: parts => (c :: part) :: parts

/-- The parts of a text between separators. -/
def split (separator : Char) (s : String) : List String :=
  (splitChars separator s.toList).map String.ofList

/-- What stands before and after the first separator. -/
def cutChars? (separator : Char) : List Char → Option (List Char × List Char)
  | [] => none
  | c :: rest =>
    if c = separator then some ([], rest)
    else (cutChars? separator rest).map fun p => (c :: p.1, p.2)

/-- The parts of a text before and after the first separator, if there is one. -/
def cut? (separator : Char) (s : String) : Option (String × String) :=
  (cutChars? separator s.toList).map fun p => (String.ofList p.1, String.ofList p.2)

end Manifest.Text

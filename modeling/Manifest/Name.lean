import Manifest.Text.Case

/-!
# Qualified names

The name of a class or define consists of segments joined by `::`. A namespace is itself such a
name, and the empty text is the global namespace.

## Main definitions

* `Name.join` — a name inside a namespace.
* `Name.parent` — the namespace that encloses a name.
* `Name.candidates` — the full names that a name may stand for, innermost first.
* `Name.capitalize` — the form of a name in a reference, every segment capitalised.
-/

namespace Manifest.Name

/-- What stands between two segments of a name. -/
def separator : String := "::"

/-- A name inside a namespace; in the global namespace it stands for itself. -/
def join (space name : String) : String :=
  if space = "" then name else space ++ separator ++ name

/-- Whether two colons stand next to each other. -/
def hasSeparator : List Char → Bool
  | [] => false
  | c :: rest => (c == ':' && rest.head? == some ':') || hasSeparator rest

/-- Whether a name carries a separator. -/
def isQualified (name : String) : Bool := hasSeparator name.toList

/-- Splits reversed characters at their first separator: what comes before it and what comes
after it, both still reversed. -/
def splitReversed : List Char → Option (List Char × List Char)
  | [] => none
  | ':' :: ':' :: rest => some ([], rest)
  | c :: rest => (splitReversed rest).map fun p => (c :: p.1, p.2)

/-- Splits a name at its last separator into the enclosing namespace and the last segment. -/
def splitLast? (name : String) : Option (String × String) :=
  (splitReversed name.toList.reverse).map fun p =>
    (String.ofList p.2.reverse, String.ofList p.1.reverse)

/-- The namespace that encloses a name; the global one for a name of one segment. -/
def parent (name : String) : String :=
  match splitLast? name with
  | some (space, _) => space
  | none => ""

/-- What remains of reversed characters behind each separator, as long as something remains. -/
def enclosingReversed : List Char → List (List Char)
  | [] => []
  | ':' :: ':' :: rest => if rest.isEmpty then [] else rest :: enclosingReversed rest
  | _ :: rest => enclosingReversed rest

/-- A namespace and those around it, innermost first, without the global one. -/
def namespaces (space : String) : List String :=
  if space = "" then []
  else space :: (enclosingReversed space.toList.reverse).map fun cs => String.ofList cs.reverse

/-- The full names that an unqualified name may stand for in a namespace: innermost first, the
bare name last. -/
def candidates (space name : String) : List String :=
  (namespaces space).map (join · name) ++ [name]

/-- The name behind a leading separator, if there is one. -/
def absolute? (name : String) : Option String :=
  match name.toList with
  | ':' :: ':' :: rest => some (String.ofList rest)
  | _ => none

/-- The characters behind all leading separators. -/
def dropAnchors : List Char → List Char
  | ':' :: ':' :: rest => dropAnchors rest
  | cs => cs

/-- The segments between the separators. -/
def segments : List Char → List (List Char)
  | [] => [[]]
  | ':' :: ':' :: rest => [] :: segments rest
  | c :: rest =>
    match segments rest with
    | [] => [[c]]
    | s :: more => (c :: s) :: more

/-- Segments joined by the separator. -/
def joinSegments : List (List Char) → List Char
  | [] => []
  | [s] => s
  | s :: more => s ++ ':' :: ':' :: joinSegments more

/-- The form of a name in a reference: without anchor, every segment in lower case but for its
first character. -/
def capitalize (name : String) : String :=
  String.ofList (joinSegments ((segments (dropAnchors name.toList)).map Text.capitalizeChars))

end Manifest.Name

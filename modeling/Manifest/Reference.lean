import Manifest.Name
import Manifest.Text.Blank

/-!
# References to resources

A reference names a resource by its type and title and is written `Type[title]`. Type names are
capitalised; the title of a class is a class name and capitalised as well.

## Main definitions

* `Reference.of` — the reference for a type and title as somebody wrote them.
* `Reference.text` — its written form.
* `Reference.ofText?` — reading a written form.
-/

namespace Manifest

/-- The type and title of a resource. -/
structure Reference where
  typeName : String
  title : String
  deriving DecidableEq, Repr, Inhabited

namespace Reference

/-- The type of classes. -/
def classType : String := "Class"

/-- The reference for a type and title as written. -/
def of (typeName title : String) : Reference :=
  let type := Name.capitalize typeName
  ⟨type, if type = classType then Name.capitalize title else title⟩

/-- The reference to a class by its name. -/
def ofClass (name : String) : Reference := of classType name

/-- Whether a class is referred to. -/
def isClass (r : Reference) : Bool := r.typeName == classType

/-- The written form `Type[title]`. -/
def text (r : Reference) : String := r.typeName ++ "[" ++ r.title ++ "]"

/-- A quote of either kind. -/
def isQuote (c : Char) : Bool := c == '\'' || c == '"'

/-- The characters without a quote at either end; both must be there, but may differ. -/
def unquote (cs : List Char) : List Char :=
  match cs with
  | [] => []
  | q :: rest =>
    match rest.getLast? with
    | some r => if isQuote q && isQuote r then rest.dropLast else cs
    | none => cs

/-- Reads `Type[title]`. The type ends at the first bracket and must not be empty; blanks around
the title and quotes around what is left are not part of it. -/
def ofText? (text : String) : Option Reference :=
  let cs := text.toList
  let type := cs.takeWhile (· ≠ '[')
  match cs.dropWhile (· ≠ '[') with
  | [] => none
  | _ :: inner =>
    if type.isEmpty || inner.getLast? ≠ some ']' then none
    else
      some (of (String.ofList type) (String.ofList (unquote (Text.trimChars inner.dropLast))))

/-- The message about a text that is no reference. -/
def unreadableMessage (text : String) : String := "invalid resource reference: " ++ text

/-- The order by type and then by title, both by code points. -/
def compare (a b : Reference) : Ordering :=
  (Ord.compare a.typeName b.typeName).then (Ord.compare a.title b.title)

end Reference

end Manifest

import Manifest.Json
import Manifest.Node
import Manifest.Location
import Manifest.Timestamp
import Manifest.Value

/-!
# Records as JSON

A record is written as an object whose members are its fields in their order. It is read from such
an object, where other members are passed over, or from an array of the fields in their order.

## Main definitions

* `Json.fields?` — the values of the fields of a record.
* `Value.ofJson?`, `Value.toJson` and the like — what each type is in JSON.
-/

namespace Manifest

namespace Json

/-- How many members have this key. -/
def occurrences (key : String) (members : List (String × Json)) : Nat :=
  members.countP (·.1 == key)

/-- The values of the fields with these names, where a field may be missing. A field must not occur
twice, and an array must not have more items than there are fields. What the fields hold may be
nested one level less than the record. -/
def fields? (names : List String) (record : Json) : Option (List (Option Json)) :=
  let found : Option (List (Option Json)) :=
    match record with
    | .object members =>
      if names.all fun n => occurrences n members ≤ 1 then
        some (names.map fun n => (members.find? (·.1 == n)).map Prod.snd)
      else none
    | .array items =>
      if items.length ≤ names.length then
        some ((List.range names.length).map fun i => items[i]?)
      else none
    | _ => none
  found.filter fun vs => vs.all fun v => (v.map (fits (maxDepth - 1))).getD true

/-- The value of a field that may be missing. -/
def orDefault {α : Type} (default : α) (read : Json → Option α) : Option Json → Option α
  | none => some default
  | some v => read v

end Json

/-! ### References and values -/

namespace Reference

/-- A reference as an object. -/
def toJson (r : Reference) : Json :=
  .object [("type", .string r.typeName), ("title", .string r.title)]

/-- Reads a reference as it is written, without change to the type or title. -/
def ofJson? (v : Json) : Option Reference :=
  match v.fields? ["type", "title"] with
  | some [some type, some title] => do some ⟨← type.asString?, ← title.asString?⟩
  | _ => none

end Reference

namespace Value

/-- The integers of 64 bits. -/
def isInteger64 (n : Int) : Bool := -Json.span63 ≤ n && n < Json.span63

mutual

/-- A value as JSON. -/
def toJson : Value → Json
  | absent => .null
  | bool b => .bool b
  | integer n => .integer n
  | string s => .string s
  | array items => .array (toJsonAll items)
  | reference r => r.toJson

/-- The items of an array as JSON. -/
def toJsonAll : List Value → List Json
  | [] => []
  | v :: rest => toJson v :: toJsonAll rest

end

mutual

/-- Reads a value, without regard to the depth of nesting. -/
def decode? : Json → Option Value
  | .null => some absent
  | .bool b => some (bool b)
  | .integer n => if isInteger64 n then some (integer n) else none
  | .string s => some (string s)
  | .array items => (decodeAll? items).map array
  | .object members => (Reference.ofJson? (.object members)).map reference
  | .decimal _ | .unreadable => none

/-- Reads every item. -/
def decodeAll? : List Json → Option (List Value)
  | [] => some []
  | v :: rest => (decode? v).bind fun x => (decodeAll? rest).map (x :: ·)

end

/-- Reads a value. -/
def ofJson? (v : Json) : Option Value := if v.fits Json.maxDepth then decode? v else none

end Value

/-! ### Locations, timestamps and nodes -/

namespace Location

/-- A place as an object. -/
def toJson (l : Location) : Json :=
  .object [("file", .string l.file), ("line", .integer l.line), ("column", .integer l.column)]

/-- Reads a place; line and column have 32 bits. -/
def ofJson? (v : Json) : Option Location :=
  match v.fields? ["file", "line", "column"] with
  | some [some file, some line, some column] => do
    some ⟨← file.asString?, ← line.asNatBelow? Json.span32, ← column.asNatBelow? Json.span32⟩
  | _ => none

end Location

namespace Timestamp

/-- A timestamp as an object. -/
def toJson (t : Timestamp) : Json :=
  .object [("seconds", .integer t.seconds), ("nanos", .integer t.nanos)]

/-- Reads a timestamp; the seconds have 64 bits and the nanoseconds 32. -/
def ofJson? (v : Json) : Option Timestamp :=
  match v.fields? ["seconds", "nanos"] with
  | some [some seconds, some nanos] => do
    some ⟨← seconds.asNatBelow? Json.span64, ← nanos.asNatBelow? Json.span32⟩
  | _ => none

end Timestamp

namespace Node

/-- Facts as an object in their order. -/
def factsToJson (facts : Table String) : Json :=
  .object (facts.entries.map fun e => (e.1, .string e.2))

/-- Reads facts; every value must be a text. -/
def factsOfJson? : Json → Option (Table String)
  | .object members =>
    (members.mapM fun (m : String × Json) => m.2.asString?.map fun s => (m.1, s)).map Table.ofList
  | _ => none

/-- A node as an object. -/
def toJson (n : Node) : Json :=
  .object [("name", .string n.name), ("facts", factsToJson n.facts),
    ("environment", (n.environment.map Json.string).getD .null)]

/-- Reads a node; facts and environment may be missing. -/
def ofJson? (v : Json) : Option Node :=
  match v.fields? ["name", "facts", "environment"] with
  | some [some name, facts, environment] => do
    some ⟨← name.asString?, ← Json.orDefault Table.empty factsOfJson? facts,
      ← Json.orDefault none (Json.asOptional? Json.asString?) environment⟩
  | _ => none

end Node

end Manifest

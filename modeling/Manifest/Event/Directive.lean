import Manifest.Event
import Manifest.Event.Pattern
import Manifest.Text.Blank
import Manifest.Text.Split

/-!
# Directives of a filter

A directive has the form `target[span{field=value}]=level`. Every part may be missing, apart from
what would leave nothing.

A directive with a span or with a value asks for what happens within a span. The program reports
all of its events outside of spans, so that such a directive shows none of them.

## Main definitions

* `Threshold` — up to which level events are shown.
* `Directive` — what is shown of some events.
* `Directive.read?` — the directive that a text stands for.
* `Directive.isFor` — the events that a directive is about.
-/

namespace Manifest

namespace Level

/-- The levels, from the most important one. -/
def all : List Level := [error, warn, info, debug, trace]

end Level

/-- The least important level that is shown; none if nothing is. -/
abbrev Threshold := Option Level

namespace Threshold

/-- The number that digits stand for, after an optional sign. -/
def number? (text : String) : Option Nat :=
  let digits := match text.toList with
    | '+' :: rest => rest
    | cs => cs
  if digits ≠ [] ∧ digits.all Char.isDigit then
    some (digits.foldl (fun n c => 10 * n + (c.toNat - '0'.toNat)) 0)
  else none

/-- Reads a threshold: the rank of a level, its name in any case, or `off`. -/
def read? (text : String) : Option Threshold :=
  match number? text with
  | some 0 => some none
  | some n => (Level.all.find? (·.rank == n)).map some
  | none =>
    let name := String.ofList (text.toList.map Char.toUpper)
    if name = "OFF" then some none else (Level.all.find? (·.text == name)).map some

/-- Whether events of a level are shown. -/
def shows (t : Threshold) (level : Level) : Bool :=
  match t with
  | some least => level.rank ≤ least.rank
  | none => false

end Threshold

/-- A field that is asked for. -/
structure FieldTest where
  name : String
  /-- A pattern for the value. -/
  value : Option String
  deriving DecidableEq, Repr

/-- What is shown of some events. -/
structure Directive where
  /-- What the targets of the events begin with. -/
  target : Option String
  /-- The span that the events are in. -/
  span : Option String
  /-- A field of the events, or of their span if there is a value. -/
  field : Option FieldTest
  threshold : Threshold
  deriving DecidableEq, Repr

/-! ### Reading -/

/-- A text that is being read. The signs of a directive are looked for without the blanks at the
ends of the text, but its parts are cut at the same distances from the text with them. Blanks
before a directive thus spoil its parts. -/
structure DirectiveText where
  /-- What is left without the blanks at the ends. -/
  rest : List Char
  /-- What the parts are cut from. -/
  source : List Char

namespace DirectiveText

/-- The text before anything is read. -/
def start (text : String) : DirectiveText := ⟨Text.trimChars text.toList, text.toList⟩

/-- Goes on by a number of characters. -/
def drop (t : DirectiveText) (n : Nat) : DirectiveText := ⟨t.rest.drop n, t.source.drop n⟩

/-- Cuts off the part before the first of some signs. -/
def cut (t : DirectiveText) (signs : List Char) : String × DirectiveText :=
  let n := (t.rest.takeWhile (· ∉ signs)).length
  (String.ofList (t.source.take n), t.drop n)

end DirectiveText

/-- Reads a field with an optional value. The value is a number or a pattern, and ends before a
second equals sign. -/
def FieldTest.read? (text : String) : Option FieldTest :=
  if text = "" then none
  else
    match Text.split '=' text with
    | name :: value :: _ =>
      if (Threshold.number? value).isSome || Pattern.isWellFormed value then
        some ⟨name, some value⟩
      else none
    | _ => some ⟨text, none⟩

namespace Directive

/-- The characters that a directive may begin with if it does not begin with a span. -/
def isStart (c : Char) : Bool := Text.isLetterOrNumber c || c ∈ ['-', ':', '_']

/-- Reads the level at the end of a directive; everything is shown without one. -/
def readThreshold? (t : DirectiveText) : Option Threshold :=
  match t.rest with
  | [] => some (some .trace)
  | '=' :: _ =>
    match (t.drop 1).source with
    | [] => some (some .trace)
    | level => Threshold.read? (String.ofList level)
  | _ => none

/-- Reads a span, a field or both after an opening bracket, and the rest of the directive. -/
def readSpan? (target : Option String) (t : DirectiveText) : Option Directive :=
  let (span, t) := t.cut [']', '\x7b']
  match t.rest with
  | ']' :: _ => (readThreshold? (t.drop 1)).map fun level => ⟨target, some span, none, level⟩
  | '\x7b' :: _ =>
    let span := if span = "" then none else some span
    let (field, t) := (t.drop 1).cut ['\x7d']
    match FieldTest.read? field, t.rest with
    | some field, '\x7d' :: ']' :: _ =>
      (readThreshold? (t.drop 2)).map fun level => ⟨target, span, some field, level⟩
    | _, _ => none
  | _ => none

/-- Reads a directive. Without any sign it is a level or else a target. -/
def read? (text : String) : Option Directive :=
  let t := DirectiveText.start text
  match t.rest with
  | [] => none
  | '[' :: _ => readSpan? none (t.drop 1)
  | c :: _ =>
    if !isStart c then none
    else
      let (target, t) := t.cut ['=', '[']
      match t.rest with
      | '[' :: _ => readSpan? (some target) (t.drop 1)
      | '=' :: _ => (readThreshold? t).map fun level => ⟨some target, none, none, level⟩
      | _ =>
        match Threshold.read? text with
        | some level => some ⟨none, none, none, level⟩
        | none => some ⟨some text, none, none, some .trace⟩

/-! ### Events -/

/-- Whether a directive is about events at all, and not about what happens within a span. -/
def isForEvents (d : Directive) : Bool :=
  d.span.isNone && (d.field.bind FieldTest.value).isNone

/-- Whether a directive is about an event. -/
def isFor (d : Directive) (e : Event) : Bool :=
  d.isForEvents && (d.target.all fun target => target.toList.isPrefixOf e.target.toList) &&
    d.field.all fun field => field.name == "message" || e.details.any (·.1 == field.name)

/-- Whether a directive says no less about the events it is for than another one: its target is
longer, or else it asks for a field, or else for a field with a later name. -/
def isAsSpecificAs (d other : Directive) : Bool :=
  let rank (d : Directive) : Nat :=
    2 * (d.target.map (·.utf8ByteSize + 1)).getD 0 + (if d.field.isSome then 1 else 0)
  let name (d : Directive) : String := (d.field.map FieldTest.name).getD ""
  rank other < rank d || (rank other == rank d && !(decide (name d < name other)))

end Directive

end Manifest

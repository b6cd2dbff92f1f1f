import Manifest.Event.Directive

/-!
# Filtering events

A filter is written as directives between commas. Of the directives that are about an event, the
most specific one decides whether it is shown.

## Main definitions

* `EventFilter` — a list of directives.
* `EventFilter.read?` — the filter that a text stands for.
* `EventFilter.shows` — whether an event is shown.
-/

namespace Manifest

/-- Decides which events are shown. -/
structure EventFilter where
  directives : List Directive
  deriving DecidableEq, Repr

namespace EventFilter

/-- Reads a filter. Nothing between commas says nothing, and a filter that says nothing shows
errors. -/
def read? (text : String) : Option EventFilter :=
  (((Text.split ',' text).filter (· ≠ "")).mapM Directive.read?).map fun directives =>
    ⟨if directives = [] then [⟨none, none, none, some .error⟩] else directives⟩

/-- The filter that is used when none is given. -/
def default : EventFilter :=
  ⟨["trellis_cli", "trellis_compiler", "trellis_types"].map fun target =>
    ⟨some target, none, none, some .info⟩⟩

/-- The filter that a text stands for if there is a text and it stands for one, and else the default
one. -/
def ofText (text : Option String) : EventFilter := (text.bind read?).getD default

/-- The directive that decides about an event: the most specific one, and the last of those. -/
def directiveFor? (f : EventFilter) (e : Event) : Option Directive :=
  (f.directives.filter (·.isFor e)).foldl (fun best d =>
    match best with
    | some b => if d.isAsSpecificAs b then some d else best
    | none => some d) none

/-- Whether an event is shown. -/
def shows (f : EventFilter) (e : Event) : Bool :=
  match f.directiveFor? e with
  | some d => d.threshold.shows e.level
  | none => false

end EventFilter

end Manifest

import Manifest.CommandLine
import Manifest.Event
import Manifest.Json.Writer

/-!
# Events as lines

## Main definitions

* `Event.line` — the line that is written for an event.
-/

namespace Manifest.Event

/-- The value of a detail without quotes. -/
def detailText : Json → String
  | .string s => s
  | v => v.compact

/-- An event as an object with its level, fields and target. -/
def toJson (e : Event) : Json :=
  .object [("level", .string e.level.text), ("fields", e.fields), ("target", .string e.target)]

/-- An event in words: level, target, message and details. -/
def plainLine (e : Event) : String :=
  String.intercalate " " ([e.level.text, e.target ++ ":", e.message] ++
    e.details.map fun d => d.1 ++ "=" ++ detailText d.2)

/-- The line that is written for an event. -/
def line (e : Event) : LogFormat → String
  | .text => e.plainLine
  | .json => e.toJson.compact

end Manifest.Event

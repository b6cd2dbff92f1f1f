import Manifest.Source

/-!
# Sources in memory

Each write marks its unit with the time of the clock. A unit that is written again gets a later
marker than before, even if the clock stands still or goes back.

## Main definitions

* `MemorySources` — the units in the order in which they were first written.
* `MemorySources.set`, `MemorySources.remove` — changing them.
* `MemorySources.provider` — what is answered for them.
-/

namespace Manifest

/-- Units that are held in memory, by their names. -/
structure MemorySources where
  units : Table Source

namespace MemorySources

/-- No units. -/
def empty : MemorySources := ⟨.empty⟩

/-- The marker of a unit that is written at a time and had the `previous` marker. -/
def nextMarker (now : Timestamp) (previous : Option Timestamp) : Timestamp :=
  match previous with
  | some marker => if now ≤ marker then marker.successor else now
  | none => now

/-- Writes a unit at a time. -/
def set (m : MemorySources) (now : Timestamp) (name text : String) : MemorySources :=
  let marker := nextMarker now ((m.units.get? name).map Source.marker)
  ⟨m.units.insert name ⟨name, text, marker⟩⟩

/-- Removes a unit. -/
def remove (m : MemorySources) (name : String) : MemorySources := ⟨m.units.erase name⟩

/-- Units and markers in memory can always be read. -/
def provider (m : MemorySources) : Provider :=
  ⟨.ok m.units.values, .ok (m.units.map Source.marker)⟩

end MemorySources

end Manifest

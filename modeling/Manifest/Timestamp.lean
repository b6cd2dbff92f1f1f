/-!
# Points in time

A timestamp marks when a source was last written; a clock with whole seconds is read for new ones.

## Main definitions

* `Timestamp` — seconds since the epoch and nanoseconds, ordered by time.
* `Timestamp.successor` — the least later one.
* `Clock` — a clock that is set by hand; it counts modulo `2^64` seconds.
-/

namespace Manifest

/-- A point in time: seconds since the epoch and nanoseconds within the second.  The seconds are
counted without bound here; kept in 64 bits they last for `2^64` seconds. -/
structure Timestamp where
  seconds : Nat
  nanos : Nat
  deriving DecidableEq, Repr, Inhabited

namespace Timestamp

/-- The number of nanoseconds in a second. -/
def nanosPerSecond : Nat := 1000000000

instance : LT Timestamp :=
  ⟨fun a b => a.seconds < b.seconds ∨ (a.seconds = b.seconds ∧ a.nanos < b.nanos)⟩

instance : LE Timestamp :=
  ⟨fun a b => a.seconds < b.seconds ∨ (a.seconds = b.seconds ∧ a.nanos ≤ b.nanos)⟩

instance (a b : Timestamp) : Decidable (a < b) :=
  inferInstanceAs (Decidable (a.seconds < b.seconds ∨ (a.seconds = b.seconds ∧ a.nanos < b.nanos)))

instance (a b : Timestamp) : Decidable (a ≤ b) :=
  inferInstanceAs (Decidable (a.seconds < b.seconds ∨ (a.seconds = b.seconds ∧ a.nanos ≤ b.nanos)))

/-- The order in time. -/
def compare (a b : Timestamp) : Ordering :=
  if a < b then .lt else if a = b then .eq else .gt

/-- The beginning of a second. -/
def ofSeconds (seconds : Nat) : Timestamp := ⟨seconds, 0⟩

/-- The time at a signed distance from the epoch; a time before the epoch counts as the epoch. -/
def ofEpoch (seconds : Int) (nanos : Nat) : Timestamp :=
  let total := (seconds * nanosPerSecond + nanos).toNat
  ⟨total / nanosPerSecond, total % nanosPerSecond⟩

/-- The least timestamp later than this one.  In 64 bits the last nanosecond of second `2^64 - 1`
has none; here it has one. -/
def successor (t : Timestamp) : Timestamp :=
  if t.nanos + 1 ≥ nanosPerSecond then ofSeconds (t.seconds + 1) else ⟨t.seconds, t.nanos + 1⟩

/-- Whole milliseconds since the epoch. -/
def millis (t : Timestamp) : Nat := t.seconds * 1000 + t.nanos / 1000000

/-- The seconds, a point, and the nanoseconds in at least nine digits. -/
def text (t : Timestamp) : String :=
  let digits := Nat.toDigits 10 t.nanos
  toString t.seconds ++ "." ++ String.ofList (List.replicate (9 - digits.length) '0' ++ digits)

end Timestamp

/-- A clock with a resolution of one second, driven by hand. -/
structure Clock where
  seconds : UInt64
  deriving DecidableEq, Repr, Inhabited

namespace Clock

/-- What the clock shows. -/
def now (c : Clock) : Timestamp := .ofSeconds c.seconds.toNat

/-- Moves the clock on; it starts again at zero after `2^64` seconds. -/
def advance (c : Clock) (seconds : UInt64) : Clock := ⟨c.seconds + seconds⟩

end Clock

end Manifest

/-!
# Deadlines

A deadline is an instant after which every wait gives up. It is fixed when a
workflow starts and handed on unchanged; what may be spent on a part of the
workflow is computed from it and from the present instant. Instants and spans
are whole milliseconds. The clock does not show every instant (`Instant.last`).
-/

namespace CloudOrchestration

/-- Milliseconds since the start of the clock. -/
abbrev Instant := Nat

/-- The last instant that the clock can show: it counts seconds in 64 bits, one of
them for the sign. -/
def Instant.last : Instant := UInt64.size / 2 * 1000 - 1

/-- An instant after which every wait gives up. -/
structure Deadline where
  instant : Instant
  deriving DecidableEq, Repr

namespace Deadline

/-- The deadline a span after an instant. -/
def after (now : Instant) (span : Nat) : Deadline := ⟨now + span⟩

/-- The time left; none once the deadline has passed. -/
def remaining (d : Deadline) (now : Instant) : Nat := d.instant - now

/-- A deadline has passed at its own instant. -/
def isExpired (d : Deadline) (now : Instant) : Bool := d.instant ≤ now

/-- The time left beyond a headroom, or `none` if the headroom does not fit
or the deadline has passed. -/
def budgetAfter (d : Deadline) (now : Instant) (headroom : Nat) : Option Nat :=
  if d.isExpired now then none
  else if headroom ≤ d.remaining now then some (d.remaining now - headroom)
  else none

/-- The end of a wait for an interval, cut short at the deadline. -/
def wake (d : Deadline) (now : Instant) (interval : Nat) : Instant :=
  min (now + interval) d.instant

/-- The end of such a wait, if it has one. The end of the interval is computed
before it is compared with the deadline, and the clock must be able to show it,
though the wait is cut short. -/
def wake? (d : Deadline) (now : Instant) (interval : Nat) : Option Instant :=
  if now + interval ≤ Instant.last then some (d.wake now interval) else none

/-- How many waits for an interval reach the deadline, each of them starting
where the one before ended. Without an interval it takes a millisecond from one
wait to the next. -/
def waitsLeft (d : Deadline) (now : Instant) (interval : Nat) : Nat :=
  (d.remaining now + (max 1 interval - 1)) / max 1 interval

def text (d : Deadline) (now : Instant) : String :=
  toString (d.remaining now) ++ "ms left"

end Deadline

end CloudOrchestration

import DocGateway.Metrics.Histogram
import DocGateway.Metrics.Series
import DocGateway.Number.Sum
/-!
# Metrics of the gateway

Counters, one gauge and one histogram tell what the gateway has done. A counter with a label has one
series for each value that the label has had.
-/

namespace DocGateway

/-- A counter with one label: a count for each value, in the order in which the values came up. -/
structure Tally where
  counts : List (String × Nat)
deriving DecidableEq, Repr, Inhabited

namespace Tally

/-- Nothing counted. -/
def empty : Tally := ⟨[]⟩

/-- The count under a label. -/
def count (t : Tally) (label : String) : Nat :=
  ((t.counts.find? fun c => seriesKey [c.1] == seriesKey [label]).map Prod.snd).getD 0

/-- All counts together. -/
def total (t : Tally) : Nat := sum (t.counts.map (·.2))

/-- Adds one to the count of a series, which may be new. -/
def incrementIn (label : String) : List (String × Nat) → List (String × Nat)
  | [] => [(label, 1)]
  | (other, n) :: rest =>
    if seriesKey [other] == seriesKey [label] then (other, n + 1) :: rest
    else (other, n) :: incrementIn label rest

/-- Adds one under a label. -/
def increment (t : Tally) (label : String) : Tally := ⟨incrementIn label t.counts⟩

end Tally

/-- What tells the durations of one stage from those of others: its place, its name, and how it
ended. -/
structure StageLabels where
  position : String
  stage : String
  status : String
deriving DecidableEq, Repr, Inhabited

/-- The key of the series with these labels. -/
def StageLabels.key (l : StageLabels) : UInt64 := seriesKey [l.position, l.stage, l.status]

structure Metrics where
  accepted : Nat
  openConnections : Int
  messages : Tally
  commands : Tally
  errors : Tally
  stages : List (StageLabels × Histogram)
  cursorsOpened : Nat
  cursorsExpired : Nat
deriving DecidableEq, Repr, Inhabited

namespace Metrics

/-- The metrics of a gateway that has done nothing. -/
def empty : Metrics := ⟨0, 0, .empty, .empty, .empty, [], 0, 0⟩

/-- Counts an accepted connection. -/
def accept (m : Metrics) : Metrics :=
  { m with accepted := m.accepted + 1, openConnections := m.openConnections + 1 }

/-- Counts a connection that ended. -/
def disconnect (m : Metrics) : Metrics := { m with openConnections := m.openConnections - 1 }

/-- Counts a message under its opcode. -/
def message (m : Metrics) (opcode : String) : Metrics :=
  { m with messages := m.messages.increment opcode }

/-- Counts a command under its name. -/
def command (m : Metrics) (name : String) : Metrics :=
  { m with commands := m.commands.increment name }

/-- Counts an error under the name of its code. -/
def error (m : Metrics) (codeName : String) : Metrics :=
  { m with errors := m.errors.increment codeName }

/-- Counts a cursor that was newly cached. -/
def cursorOpened (m : Metrics) : Metrics := { m with cursorsOpened := m.cursorsOpened + 1 }

/-- Counts a cursor that expired. -/
def cursorExpired (m : Metrics) : Metrics := { m with cursorsExpired := m.cursorsExpired + 1 }

/-- Adds an observation to the durations of a series, which may be new. -/
def observeIn (labels : StageLabels) (seconds : Binary64) :
    List (StageLabels × Histogram) → List (StageLabels × Histogram)
  | [] => [(labels, Histogram.empty.observe seconds)]
  | (other, h) :: rest =>
    if other.key == labels.key then (other, h.observe seconds) :: rest
    else (other, h) :: observeIn labels seconds rest

/-- Counts the time that a stage took. -/
def stage (m : Metrics) (labels : StageLabels) (seconds : Binary64) : Metrics :=
  { m with stages := observeIn labels seconds m.stages }

end Metrics

end DocGateway

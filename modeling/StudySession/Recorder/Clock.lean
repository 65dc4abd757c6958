import StudySession.Number.Double

/-!
# Recording time

How long a recording has run, its pauses apart, on a clock of milliseconds.
-/

namespace StudySession

/-- The times of a recording. -/
structure RecordingClock where
  startedAt : Option Nat := none
  pausedAt : Option Nat := none
  pausedMs : Nat := 0
  stoppedAt : Option Nat := none
  deriving DecidableEq, Repr

namespace RecordingClock

def start (now : Nat) : RecordingClock := { startedAt := some now }

def pause (c : RecordingClock) (now : Nat) : RecordingClock :=
  { c with pausedAt := c.pausedAt <|> some now }

def resume (c : RecordingClock) (now : Nat) : RecordingClock :=
  match c.pausedAt with
  | none => c
  | some began => { c with pausedAt := none, pausedMs := c.pausedMs + (now - began) }

/-- Stops, ending a pause. -/
def stop (c : RecordingClock) (now : Nat) : RecordingClock :=
  { c.resume now with stoppedAt := some now }

/-- The milliseconds recorded; none before the first start. -/
def milliseconds? (c : RecordingClock) (now : Nat) : Option Nat :=
  c.startedAt.map fun started =>
    ((c.stoppedAt <|> c.pausedAt).getD now) - started - c.pausedMs

def seconds (c : RecordingClock) (now : Nat) : Double :=
  (Double.nearest? false ((c.milliseconds? now).getD 0) 1000).getD (.zero false)

end RecordingClock

end StudySession

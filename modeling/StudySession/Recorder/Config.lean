import StudySession.Json.Record

/-!
# Recorder settings
-/

namespace StudySession

/-- The settings of recorders. -/
structure RecorderConfig where
  timesliceMs : Nat := 1000
  uploadTimeoutMs : Nat := 30000
  deriving DecidableEq, Repr

namespace RecorderConfig

/-- The names of the settings in declaration order. -/
def fieldNames : List String := ["timeslice_ms", "upload_timeout_ms"]

def ofJson? (j : Json) : Option RecorderConfig := do
  let fields ← j.record? fieldNames
  let d : RecorderConfig := {}
  let timesliceMs ← Json.fieldOr fields "timeslice_ms" d.timesliceMs Json.nat64?
  let uploadTimeoutMs ← Json.fieldOr fields "upload_timeout_ms" d.uploadTimeoutMs Json.nat64?
  pure { timesliceMs, uploadTimeoutMs }

def toJson (c : RecorderConfig) : Json :=
  .obj [("timeslice_ms", .ofNat c.timesliceMs), ("upload_timeout_ms", .ofNat c.uploadTimeoutMs)]

/-- The first thing wrong with the settings, in words. -/
def problem? (c : RecorderConfig) : Option String :=
  if c.timesliceMs = 0 then some "timeslice_ms must be greater than zero" else none

end RecorderConfig

end StudySession

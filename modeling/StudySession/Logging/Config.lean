import StudySession.Json.Record

/-!
# Logging settings
-/

namespace StudySession

/-- The settings of the log. -/
structure LoggingConfig where
  enabled : Bool := true
  level : String := "info"
  format : String := "text"
  output : String := "stderr"
  /-- The file it goes to, if it goes to a file. -/
  file : Option String := none
  color : Bool := true
  modules : Dict String := []
  deriving DecidableEq, Repr

namespace LoggingConfig

/-- The names of the settings in declaration order. -/
def fieldNames : List String := ["enabled", "level", "format", "output", "file", "color", "modules"]

def ofJson? (j : Json) : Option LoggingConfig := do
  let fields ← j.record? fieldNames
  let d : LoggingConfig := {}
  let enabled ← Json.fieldOr fields "enabled" d.enabled Json.bool?
  let level ← Json.fieldOr fields "level" d.level Json.str?
  let format ← Json.fieldOr fields "format" d.format Json.str?
  let output ← Json.fieldOr fields "output" d.output Json.str?
  let file ← Json.fieldOr fields "file" d.file (Json.nullable Json.str?)
  let color ← Json.fieldOr fields "color" d.color Json.bool?
  let modules ← Json.fieldOr fields "modules" d.modules (Json.dictOf? Json.str?)
  pure { enabled, level, format, output, file, color, modules }

def toJson (c : LoggingConfig) : Json :=
  .ofFields
    [("enabled", .bool c.enabled), ("level", .str c.level), ("format", .str c.format),
      ("output", .str c.output), ("file", .ofOption .str c.file), ("color", .bool c.color),
      ("modules", .obj (c.modules.mapValues .str))]

/-- The first thing wrong with the settings, in words. -/
def problem? (c : LoggingConfig) : Option String :=
  if c.format ≠ "text" ∧ c.format ≠ "json" then some ("unknown format '" ++ c.format ++ "'")
  else if c.output = "stdout" ∨ c.output = "stderr" then none
  else if c.output = "file" then
    if c.file.isSome then none else some "output 'file' requires a log file path"
  else some ("unknown output '" ++ c.output ++ "'")

end LoggingConfig

end StudySession

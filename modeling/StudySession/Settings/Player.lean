import StudySession.Logging.Config
import StudySession.Recorder.Config
import StudySession.Settings.Value
import StudySession.Study.Placeholder
import StudySession.Upload.Config

/-!
# Settings of the player

`PlayerConfig` holds all settings. They are read from a document, in which every value is of its own
type, or from settings, in which types are looser. `PlayerConfig.problems` tells what is wrong with
settings that can be read.
-/

namespace StudySession

/-- The settings of resolving studies. -/
structure ResolverConfig where
  /-- What to do with placeholders that name no parameter. -/
  placeholderPolicy : PlaceholderPolicy := .lenient
  /-- The seed of the random generator, if it is to be the same each time. -/
  seed : Option Nat := none
  deriving DecidableEq, Repr

/-- All settings. -/
structure PlayerConfig where
  parser : ResolverConfig := {}
  upload : UploadConfig := {}
  recorder : RecorderConfig := {}
  logging : LoggingConfig := {}
  deriving DecidableEq, Repr

/-! ## Documents -/

def ResolverConfig.ofJson? (j : Json) : Option ResolverConfig := do
  let fields ← j.record? ["placeholder_policy", "seed"]
  let d : ResolverConfig := {}
  let placeholderPolicy ←
    Json.fieldOr fields "placeholder_policy" d.placeholderPolicy PlaceholderPolicy.ofJson?
  let seed ← Json.fieldOr fields "seed" d.seed (Json.nullable Json.nat64?)
  pure { placeholderPolicy, seed }

def ResolverConfig.toJson (c : ResolverConfig) : Json :=
  .ofFields
    [("placeholder_policy", .str c.placeholderPolicy.text), ("seed", .ofOption .ofNat c.seed)]

namespace PlayerConfig

def ofJson? (j : Json) : Option PlayerConfig := do
  let fields ← j.record? ["parser", "upload", "recorder", "logging"]
  let d : PlayerConfig := {}
  let parser ← Json.fieldOr fields "parser" d.parser ResolverConfig.ofJson?
  let upload ← Json.fieldOr fields "upload" d.upload UploadConfig.ofJson?
  let recorder ← Json.fieldOr fields "recorder" d.recorder RecorderConfig.ofJson?
  let logging ← Json.fieldOr fields "logging" d.logging LoggingConfig.ofJson?
  pure { parser, upload, recorder, logging }

def toJson (c : PlayerConfig) : Json :=
  .ofFields
    [("parser", c.parser.toJson), ("upload", c.upload.toJson), ("recorder", c.recorder.toJson),
      ("logging", c.logging.toJson)]

/-- What is wrong with settings, in words. -/
def problems (c : PlayerConfig) : List String :=
  (c.upload.problem?.map ("Upload: " ++ ·)).toList ++
    (c.recorder.problem?.map ("Recorder: " ++ ·)).toList ++
    (c.logging.problem?.map ("Logging: " ++ ·)).toList

end PlayerConfig

/-! ## Settings -/

/-- Reads a policy: its written form in any case, alone or as the one name of a table. -/
def PlaceholderPolicy.ofSetting? : Setting → Option PlaceholderPolicy
  | .text s => ofText? s.toLower
  | .table [(name, _)] => ofText? name.toLower
  | _ => none

def ResolverConfig.ofSetting? (s : Setting) : Option ResolverConfig := do
  let fields ← s.record? ["placeholder_policy", "seed"]
  let d : ResolverConfig := {}
  let placeholderPolicy ←
    Setting.fieldOr fields "placeholder_policy" d.placeholderPolicy PlaceholderPolicy.ofSetting?
  let seed ← Setting.fieldOr fields "seed" d.seed (Setting.optional Setting.nat64?)
  pure { placeholderPolicy, seed }

def UploadConfig.ofSetting? (s : Setting) : Option UploadConfig := do
  let fields ← s.record? UploadConfig.fieldNames
  let d : UploadConfig := {}
  let endpoint ← Setting.fieldOr fields "endpoint" d.endpoint (Setting.optional Setting.text?)
  let bucket ← Setting.fieldOr fields "bucket" d.bucket Setting.text?
  let partSizeBytes ← Setting.fieldOr fields "part_size_bytes" d.partSizeBytes Setting.nat64?
  let maxAttempts ← Setting.fieldOr fields "max_attempts" d.maxAttempts Setting.nat32?
  let retryDelayMs ← Setting.fieldOr fields "retry_delay_ms" d.retryDelayMs Setting.nat64?
  let requestTimeoutSecs ←
    Setting.fieldOr fields "request_timeout_secs" d.requestTimeoutSecs Setting.nat64?
  pure { endpoint, bucket, partSizeBytes, maxAttempts, retryDelayMs, requestTimeoutSecs }

def RecorderConfig.ofSetting? (s : Setting) : Option RecorderConfig := do
  let fields ← s.record? RecorderConfig.fieldNames
  let d : RecorderConfig := {}
  let timesliceMs ← Setting.fieldOr fields "timeslice_ms" d.timesliceMs Setting.nat64?
  let uploadTimeoutMs ← Setting.fieldOr fields "upload_timeout_ms" d.uploadTimeoutMs Setting.nat64?
  pure { timesliceMs, uploadTimeoutMs }

def LoggingConfig.ofSetting? (s : Setting) : Option LoggingConfig := do
  let fields ← s.record? LoggingConfig.fieldNames
  let d : LoggingConfig := {}
  let enabled ← Setting.fieldOr fields "enabled" d.enabled Setting.flag?
  let level ← Setting.fieldOr fields "level" d.level Setting.text?
  let format ← Setting.fieldOr fields "format" d.format Setting.text?
  let output ← Setting.fieldOr fields "output" d.output Setting.text?
  let file ← Setting.fieldOr fields "file" d.file (Setting.optional Setting.text?)
  let color ← Setting.fieldOr fields "color" d.color Setting.flag?
  let modules ← Setting.fieldOr fields "modules" d.modules (Setting.dictOf? Setting.text?)
  pure { enabled, level, format, output, file, color, modules }

def PlayerConfig.ofSetting? (s : Setting) : Option PlayerConfig := do
  let fields ← s.record? ["parser", "upload", "recorder", "logging"]
  let d : PlayerConfig := {}
  let parser ← Setting.fieldOr fields "parser" d.parser ResolverConfig.ofSetting?
  let upload ← Setting.fieldOr fields "upload" d.upload UploadConfig.ofSetting?
  let recorder ← Setting.fieldOr fields "recorder" d.recorder RecorderConfig.ofSetting?
  let logging ← Setting.fieldOr fields "logging" d.logging LoggingConfig.ofSetting?
  pure { parser, upload, recorder, logging }

end StudySession

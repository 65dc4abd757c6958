import StudySession.Json.Record
import StudySession.Upload.Retry

/-!
# Upload settings
-/

namespace StudySession

/-- The settings of uploads. -/
structure UploadConfig where
  endpoint : Option String := none
  bucket : String := "study-recordings"
  /-- A part is sent once this many bytes are there. -/
  partSizeBytes : Nat := 5 * 1024 * 1024
  /-- The attempts for each call, the first included. -/
  maxAttempts : Nat := 3
  retryDelayMs : Nat := 250
  requestTimeoutSecs : Nat := 60
  deriving DecidableEq, Repr

namespace UploadConfig

/-- The names of the settings in declaration order. -/
def fieldNames : List String :=
  ["endpoint", "bucket", "part_size_bytes", "max_attempts", "retry_delay_ms",
    "request_timeout_secs"]

def ofJson? (j : Json) : Option UploadConfig := do
  let fields ← j.record? fieldNames
  let d : UploadConfig := {}
  let endpoint ← Json.fieldOr fields "endpoint" d.endpoint (Json.nullable Json.str?)
  let bucket ← Json.fieldOr fields "bucket" d.bucket Json.str?
  let partSizeBytes ← Json.fieldOr fields "part_size_bytes" d.partSizeBytes Json.nat64?
  let maxAttempts ← Json.fieldOr fields "max_attempts" d.maxAttempts Json.nat32?
  let retryDelayMs ← Json.fieldOr fields "retry_delay_ms" d.retryDelayMs Json.nat64?
  let requestTimeoutSecs ←
    Json.fieldOr fields "request_timeout_secs" d.requestTimeoutSecs Json.nat64?
  pure { endpoint, bucket, partSizeBytes, maxAttempts, retryDelayMs, requestTimeoutSecs }

def toJson (c : UploadConfig) : Json :=
  .ofFields
    [("endpoint", .ofOption .str c.endpoint), ("bucket", .str c.bucket),
      ("part_size_bytes", .ofNat c.partSizeBytes), ("max_attempts", .ofNat c.maxAttempts),
      ("retry_delay_ms", .ofNat c.retryDelayMs),
      ("request_timeout_secs", .ofNat c.requestTimeoutSecs)]

/-- The first thing wrong with the settings, in words. -/
def problem? (c : UploadConfig) : Option String :=
  if c.partSizeBytes = 0 then some "part_size_bytes must be greater than zero"
  else if c.maxAttempts = 0 then some "max_attempts must be at least 1"
  else if c.bucket.isEmpty then some "bucket cannot be empty"
  else
    c.endpoint.bind fun endpoint =>
      if endpoint.startsWith "http://" || endpoint.startsWith "https://" then none
      else some ("endpoint '" ++ endpoint ++ "' is not an http(s) URL")

def retryPolicy (c : UploadConfig) : RetryPolicy :=
  ⟨max c.maxAttempts 1, .ofMilliseconds c.retryDelayMs⟩

end UploadConfig

/-- The object that holds a recording. -/
def videoObjectKey (name : String) : String := name ++ ".webm"

def videoContentType : String := "video/webm"

end StudySession

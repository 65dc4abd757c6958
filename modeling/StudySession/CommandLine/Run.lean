import StudySession.CommandLine.Arguments
import StudySession.Gateway.Exchange
import StudySession.Json.Parser
import StudySession.Settings.Load
import StudySession.Study.Report
import StudySession.Upload.Stream

/-!
# Running a command

`CommandLine.run` does what a command line asks for. It sees the world as a `World`: the files, the
environment, a connection to gateways and a random generator for studies without a seed.
-/

namespace StudySession

/-- What a command sees of the world. -/
structure World where
  files : FileTree
  environment : Environment
  /-- Sends a request, which may bring no response. -/
  connection : HttpRequest → Option HttpResponse
  /-- The generator of studies without a seed. -/
  generator : Generator

/-- Why a command fails. -/
inductive CommandError where
  | settings (fault : SettingsFault)
  | zeroChunkBytes
  /-- A file holds no document, or none of the form wanted. -/
  | notJson
  | study (error : StudyError)
  | upload (error : UploadError)
  | file (error : FileError)
  deriving DecidableEq, Repr

namespace CommandError

def message : CommandError → String
  | settings fault => "Configuration error: " ++ fault.message
  | zeroChunkBytes => "Configuration error: --chunk-bytes must be greater than zero"
  | notJson => "Configuration error: Invalid JSON"
  | study error => "Invalid experiment: " ++ error.message
  | upload error =>
    if error.isFatal then "Upload failed permanently: " ++ error.message
    else "Upload error: " ++ error.message
  | file error => "I/O error: " ++ error.message

end CommandError

/-- What a command prints. -/
inductive Printed where
  | resolution (r : Resolution)
  | uploaded (dryRun : Bool) (upload : CompletedUpload)

def Printed.text : Printed → String
  | resolution r => r.report
  | uploaded dryRun upload =>
    (if dryRun then "[dry run] " else "") ++ upload.key ++ ": " ++ toString upload.parts.length ++
      " parts, " ++ toString upload.totalBytes ++ " bytes"

/-- The store that a gateway is. -/
def Gateway.store (g : Gateway) (connection : HttpRequest → Option HttpResponse) :
    ImmediateStore Unit where
  perform _ call := ((g.perform connection call).mapError GatewayFault.storeError, ())

/-- The store that is kept in memory. -/
def MemoryStore.store : ImmediateStore MemoryStore where
  perform := MemoryStore.perform

namespace CommandLine

/-- The settings a command line names, before they are validated. -/
def settings (c : CommandLine) (w : World) : Except SettingsFault PlayerConfig :=
  match c.config with
  | some path => Settings.loadFile w.files path
  | none => Settings.load w.files w.environment c.workspace

def inWorkspace (c : CommandLine) (path : String) : String := Path.join c.workspace path

/-- The paths that a command may look at. -/
def paths (c : CommandLine) (env : Environment) : List String :=
  let settingsFiles :=
    match c.config with
    | some path => [path]
    | none => (Settings.userFile? env).toList ++ Settings.workspaceFiles env c.workspace
  let taskFiles :=
    match c.task with
    | .parse experiment pastSessions _ _ _ => experiment :: pastSessions.toList
    | .upload file _ _ _ => [file]
  settingsFiles.flatMap (fun path => [path, path ++ ".toml", path ++ ".json"]) ++
    taskFiles.map c.inWorkspace

/-- The settings of the log: those that are loaded, or the defaults if none can be, and the options
over them. A file without a place to go names the file as the place. -/
def logging (c : CommandLine) (w : World) : LoggingConfig :=
  let loaded :=
    match c.settings w with
    | .ok config => config.logging
    | .error _ => {}
  let level := if c.verbose then "debug" else loaded.level
  let output := if c.logFile.isSome then "file" else loaded.output
  { loaded with
    enabled := loaded.enabled && !c.quiet
    level := c.logLevel.getD level
    format := c.logFormat.getD loaded.format
    output := c.logOutput.getD output
    file := c.logFile.or loaded.file }

def validSettings (c : CommandLine) (w : World) : Except SettingsFault PlayerConfig := do
  (← c.settings w).validated

def readDocument (c : CommandLine) (w : World) (path : String) : Except CommandError Json := do
  let text ← (w.files.readText (c.inWorkspace path)).mapError CommandError.file
  (Json.parse? text).elim (.error .notJson) .ok

/-- The past sessions in a file; there are none without one. -/
def readPastSessions (c : CommandLine) (w : World) :
    Option String → Except CommandError (List PastSession)
  | none => .ok []
  | some path => do
    let j ← c.readDocument w path
    (Json.listOf? PastSession.ofJson? j).elim (.error .notJson) .ok

def resolveStudy (c : CommandLine) (w : World) (config : ResolverConfig) (experiment : String)
    (pastSessions : Option String) (ageInDays seed : Option Nat) (strict : Bool) :
    Except CommandError Resolution := do
  let document ← c.readDocument w experiment
  let pastSessions ← c.readPastSessions w pastSessions
  match Protocol.ofJson? document with
  | none => .error (.study .invalidStructure)
  | some protocol =>
    let resolver : Resolver := { registry := .builtins, pastSessions, ageInDays }
    let policy := if strict then .strict else config.placeholderPolicy
    let generator := ((seed.or config.seed).map Generator.ofSeed).getD w.generator
    ((Study.mk protocol resolver policy).resolve generator).1.mapError CommandError.study

def uploadFile (c : CommandLine) (w : World) (config : UploadConfig) (file name : String)
    (chunkBytes : Nat) (dryRun : Bool) : Except CommandError CompletedUpload := do
  if chunkBytes = 0 then .error .zeroChunkBytes
  else
    let gateway ←
      if dryRun then .ok none
      else
        match Gateway.ofConfig config with
        | .ok g => .ok (some g)
        | .error fault => .error (.upload (.ofStore fault.storeError))
    let reads ← (w.files.chunks (c.inWorkspace file) chunkBytes).mapError CommandError.file
    let upload := Upload.new config name
    let result :=
      match gateway with
      | some g => (upload.stream (g.store w.connection) () reads).1
      | none => (upload.stream MemoryStore.store .empty reads).1
    result.mapError fun e =>
      match e with
      | .unreadable e => .file e
      | .upload e => .upload e

/-- Does what a command line asks for with valid settings. -/
def perform (c : CommandLine) (w : World) (config : PlayerConfig) : Except CommandError Printed :=
  match c.task with
  | .parse experiment pastSessions ageDays seed strict =>
    (c.resolveStudy w config.parser experiment pastSessions ageDays seed strict).map .resolution
  | .upload file name chunkBytes dryRun =>
    (c.uploadFile w config.upload file name chunkBytes dryRun).map (.uploaded dryRun)

def run (c : CommandLine) (w : World) : Except CommandError Printed := do
  let config ← (c.validSettings w).mapError CommandError.settings
  c.perform w config

end CommandLine

end StudySession

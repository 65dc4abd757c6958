import StudySession.Dict
import StudySession.Files.Tree
import StudySession.Logging.Config
import StudySession.Logging.Directive

/-!
# Setting up the log

`LogSetup.choose` settles what the log shows, in which format and where, from the settings and the
environment: a valid `STUDYPLAYER_LOG` stands in for the levels of the settings,
`STUDYPLAYER_LOG_MODULES` adds to them, `STUDYPLAYER_LOG_FORMAT` counts if it is valid, and
`STUDYPLAYER_LOG_OUTPUT` counts in any case. `LogSetup.prepare` then makes the file that the log
goes to.
-/

namespace StudySession

abbrev Environment := Dict String

/-- The formats of log lines. -/
inductive LogFormat where
  | text
  | json
  deriving DecidableEq, Repr

def LogFormat.ofText? : String → Option LogFormat
  | "text" => some text
  | "json" => some json
  | _ => none

/-- Where a log goes. -/
inductive LogOutput where
  | stdout
  | stderr
  | file
  deriving DecidableEq, Repr

def LogOutput.ofText? : String → Option LogOutput
  | "stdout" => some stdout
  | "stderr" => some stderr
  | "file" => some file
  | _ => none

/-- Why a log cannot be set up. -/
inductive LogFault where
  | badDirective (name level : String)
  | badFormat (text : String)
  | badOutput (text : String)
  /-- It is to go to a file, and none is named. -/
  | noFile
  | noDirectory (error : FileError)
  | notOpened (path : String) (error : FileError)
  deriving DecidableEq, Repr

def LogFault.message : LogFault → String
  | badDirective name level => "Invalid log directive: " ++ name ++ "=" ++ level
  | badFormat text => "Invalid log format: " ++ text ++ " (must be 'json' or 'text')"
  | badOutput text => "Invalid log output: " ++ text ++ " (must be 'stdout', 'stderr' or 'file')"
  | noFile => "Log output 'file' requires a log file path"
  | noDirectory error => "Failed to create log directory: " ++ error.message
  | notOpened path error => "Failed to open log file " ++ path ++ ": " ++ error.message

/-- How a log is set up. -/
structure LogSetup where
  format : LogFormat
  output : LogOutput
  deriving DecidableEq, Repr

namespace LogSetup

def checkLevels : List (String × String) → Except LogFault Unit
  | [] => .ok ()
  | (name, level) :: rest =>
    if Directive.isValid (name ++ "=" ++ level) then checkLevels rest
    else .error (.badDirective name level)

def checkFilter (env : Environment) (config : LoggingConfig) : Except LogFault Unit :=
  if (env.get? "STUDYPLAYER_LOG").any Directive.isFilter || config.level == "off" then .ok ()
  else
    checkLevels (config.modules ++
      Directive.moduleLevels ((env.get? "STUDYPLAYER_LOG_MODULES").getD ""))

def chooseFormat (env : Environment) (config : LoggingConfig) : Except LogFault LogFormat :=
  match (env.get? "STUDYPLAYER_LOG_FORMAT").bind LogFormat.ofText? with
  | some format => .ok format
  | none => (LogFormat.ofText? config.format).elim (.error (.badFormat config.format)) .ok

def chooseOutput (env : Environment) (config : LoggingConfig) : Except LogFault LogOutput :=
  let text := (env.get? "STUDYPLAYER_LOG_OUTPUT").getD config.output
  (LogOutput.ofText? text).elim (.error (.badOutput text)) .ok

/-- Settles how the log is set up. -/
def choose (env : Environment) (config : LoggingConfig) : Except LogFault LogSetup := do
  checkFilter env config
  let format ← chooseFormat env config
  let output ← chooseOutput env config
  .ok ⟨format, output⟩

def makeFile (files : FileTree) (path : String) : Except LogFault Unit × FileTree :=
  let root := if Path.isAbsolute path then "/" else ""
  let parent := root ++ "/".intercalate (Path.components path).dropLast
  match files.makeDirectories parent with
  | .error e => (.error (.noDirectory e), files)
  | .ok files =>
    match files.openToAppend path with
    | .error e => (.error (.notOpened path e), files)
    | .ok files => (.ok (), files)

/-- Sets a log up, if the settings want one, and makes the file that it goes to. -/
def prepare (env : Environment) (config : LoggingConfig) (files : FileTree) :
    Except LogFault (Option LogSetup) × FileTree :=
  if config.enabled then
    match choose env config with
    | .error fault => (.error fault, files)
    | .ok setup =>
      match setup.output, config.file with
      | .file, none => (.error .noFile, files)
      | .file, some path =>
        let (outcome, files) := makeFile files path
        (outcome.map fun _ => some setup, files)
      | _, _ => (.ok (some setup), files)
  else (.ok none, files)

end LogSetup

end StudySession

import StudySession.CommandLine.Options

/-!
# The command line of the player

The player has two commands: `parse` resolves a study, and `upload` sends a file to a store.
`CommandLine.ofArguments` reads the arguments of the program.
-/

namespace StudySession

/-- What the player is asked to do. -/
inductive Task where
  /-- Resolves the study in a file. -/
  | parse (experiment : String) (pastSessions : Option String) (ageDays seed : Option Nat)
      (strict : Bool)
  /-- Uploads a file under a name. -/
  | upload (file name : String) (chunkBytes : Nat) (dryRun : Bool)
  deriving DecidableEq, Repr

def Task.name : Task → String
  | parse _ _ _ _ _ => "parse"
  | upload _ _ _ _ => "upload"

/-- A command line. -/
structure CommandLine where
  workspace : String
  /-- The settings file that takes the place of all others. -/
  config : Option String
  verbose : Bool
  quiet : Bool
  logLevel : Option String
  logFormat : Option String
  logOutput : Option String
  logFile : Option String
  task : Task
  deriving DecidableEq, Repr

namespace CommandLine

def commonOptions : OptionSet where
  specs :=
    [{ name := "workspace", shape := .path }, { name := "config", shape := .path },
      { name := "verbose", shape := .switch }, { name := "quiet", shape := .switch },
      { name := "log-level", shape := .text }, { name := "log-format", shape := .text },
      { name := "log-output", shape := .text }, { name := "log-file", shape := .path }]
  subcommands := ["parse", "upload", "help"]

def parseOptions : OptionSet where
  specs :=
    [{ name := "experiment", shape := .path, required := true },
      { name := "past-sessions", shape := .path },
      { name := "age-days", shape := .number (Nat.pow 2 32) },
      { name := "seed", shape := .number (Nat.pow 2 64) }, { name := "strict", shape := .switch }]
  subcommands := []

def uploadOptions : OptionSet where
  specs :=
    [{ name := "file", shape := .path, required := true },
      { name := "name", shape := .text, required := true },
      { name := "chunk-bytes", shape := .number (Nat.pow 2 64) },
      { name := "dry-run", shape := .switch }]
  subcommands := []

def usage : String :=
  "Resolve experiment structures and upload session recordings\n\n" ++
    "Usage: studyplayer [OPTIONS] <COMMAND>\n\n" ++
    "  parse   Resolve an experiment structure into its concrete frame list\n" ++
    "  upload  Upload a recorded file through the chunked multipart pipeline\n" ++
    "  help    Print this message"

/-- Reads the arguments of a command, all of them. -/
def complete (set : OptionSet) (arguments : List String) : Except UsageFault Options := do
  let (o, _) ← Options.none.gather set arguments
  let o ← o.resolve
  if o.isComplete set then .ok o else .error .missingRequiredArgument

/-- Reads the commands that help is asked for; help is a command that has commands itself. -/
def help : List String → UsageFault
  | [] => .displayHelp
  | "help" :: rest => help rest
  | [name] => if commonOptions.subcommands.contains name then .displayHelp else .invalidSubcommand
  | _ => .invalidSubcommand

def readTask (name : String) (arguments : List String) : Except UsageFault Task :=
  match name with
  | "help" => .error (help arguments)
  | "parse" => do
    let o ← complete parseOptions arguments
    .ok (.parse ((o.text? "experiment").getD "") (o.text? "past-sessions") (o.number? "age-days")
      (o.number? "seed") (o.values.has "strict"))
  | _ => do
    let o ← complete uploadOptions arguments
    .ok (.upload ((o.text? "file").getD "") ((o.text? "name").getD "")
      ((o.number? "chunk-bytes").getD 1048576) (o.values.has "dry-run"))

def ofArguments (arguments : List String) : Except UsageFault CommandLine := do
  let (o, subcommand?) ← Options.none.gather commonOptions arguments
  match subcommand? with
  | none =>
    let o ← o.resolve
    .error (if o.values.isEmpty then .displayHelpOnMissingArgumentOrSubcommand
      else .missingSubcommand)
  | some (name, rest) =>
    let task ← readTask name rest
    let o ← o.resolve
    if o.values.has "quiet" && o.values.has "verbose" then .error .argumentConflict
    else
      .ok
        { workspace := (o.text? "workspace").getD "."
          config := o.text? "config"
          verbose := o.values.has "verbose"
          quiet := o.values.has "quiet"
          logLevel := o.text? "log-level"
          logFormat := o.text? "log-format"
          logOutput := o.text? "log-output"
          logFile := o.text? "log-file"
          task }

end CommandLine

end StudySession

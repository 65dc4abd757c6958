import StudySession.CommandLine.Run

/-!
# The program

Reads the arguments, the variables and the files that a command line may look at, runs the command
on them, and prints what it answers. Core has no network, so no gateway can be reached from here.
-/

namespace StudySession

/-- The variables that the player looks at, as far as they are set. -/
def readEnvironment : IO Environment := do
  let names :=
    ["HOME", "XDG_CONFIG_HOME", "STUDYPLAYER_ENV", "STUDYPLAYER_LOG", "STUDYPLAYER_LOG_FORMAT",
      "STUDYPLAYER_LOG_OUTPUT", "STUDYPLAYER_LOG_MODULES"] ++ Settings.variableNames
  let mut env : Environment := []
  for name in names do
    if let some value ← IO.getEnv name then env := env.insert name value
  return env

/-- Reads what stands at the paths. What can be opened and not read is a directory. -/
def readFiles (paths : List String) : IO FileTree := do
  let current := Path.components (← IO.currentDir).toString
  let mut files : FileTree := ⟨[(current, .directory)], current⟩
  for path in paths do
    try
      files := files.write path (← IO.FS.readBinFile path)
    catch
      | .noFileOrDirectory _ _ _ => pure ()
      | _ =>
        if let .ok made := files.makeDirectories path then files := made
  return files

/-- Makes the file of the log, if there is to be one. -/
def openLog (env : Environment) (config : LoggingConfig) (files : FileTree) : IO Bool := do
  match LogSetup.prepare env config files with
  | (.error fault, _) =>
    IO.eprintln ("Failed to initialize logging: Configuration error: " ++ fault.message)
    return false
  | (.ok (some ⟨_, .file⟩), _) =>
    let path := config.file.getD ""
    try
      let root := if Path.isAbsolute path then "/" else "./"
      IO.FS.createDirAll (root ++ "/".intercalate (Path.components path).dropLast)
      let _ ← IO.FS.Handle.mk path .append
      return true
    catch e =>
      IO.eprintln ("Failed to initialize logging: " ++ toString e)
      return false
  | (.ok _, _) => return true

def runCommandLine (c : CommandLine) : IO UInt32 := do
  let environment ← readEnvironment
  let files ← readFiles (c.paths environment)
  let seed := (← IO.getRandomBytes 8).foldl (fun n b => n * 256 + b.toNat) 0
  let world : World := ⟨files, environment, fun _ => none, .ofSeed seed⟩
  if ← openLog environment (c.logging world) files then
    match c.run world with
    | .ok printed =>
      IO.println printed.text
      return 0
    | .error e =>
      IO.eprintln e.message
      return 1
  else return 1

end StudySession

def main (arguments : List String) : IO UInt32 := do
  match StudySession.CommandLine.ofArguments arguments with
  | .ok c => StudySession.runCommandLine c
  | .error fault =>
    if fault.isHelp then
      IO.println StudySession.CommandLine.usage
      return 0
    else
      IO.eprintln ("error: " ++ fault.message ++ "\n\n" ++ StudySession.CommandLine.usage)
      return 2

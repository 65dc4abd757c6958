import StudySession.Files.Tree
import StudySession.Logging.Setup
import StudySession.Settings.Layers
import StudySession.Settings.Player
import StudySession.Settings.Toml

/-!
# Loading settings

Settings come from one file, or from layers of which the later ones win: what is built in, the file
of the user, the two files of a workspace, and the variables that begin with `STUDYPLAYER__`. A
layer that is not there is left out, and a file that is there has to be readable.
-/

namespace StudySession

/-- Why settings cannot be loaded. -/
inductive SettingsFault where
  /-- There is no settings file of a known kind at the path. -/
  | noFile (path : String)
  /-- A settings file cannot be read. -/
  | badFile (path : String)
  /-- A setting is not of its type. -/
  | badSetting
  /-- The settings can be read, and these are the problems with them. -/
  | invalid (problems : List String)
  deriving DecidableEq, Repr

def SettingsFault.message : SettingsFault → String
  | noFile path => "configuration file \"" ++ path ++ "\" not found"
  | badFile path => "configuration file \"" ++ path ++ "\" cannot be read"
  | badSetting => "a setting is not of its type"
  | invalid problems => "Configuration validation failed:\n" ++ "\n".intercalate problems

mutual

/-- A document as a setting; an integer beyond the range of settings is a number. -/
def Setting.ofJson : Json → Setting
  | .null => .nothing
  | .bool b => .flag b
  | .int i => if Setting.isInteger i then .integer i else .number (.finite (Double.ofInt i))
  | .float x => .number (.finite x)
  | .str s => .text s
  | .arr items => .list (ofJsonItems items)
  | .obj fields => .table (ofJsonFields fields)

def Setting.ofJsonItems : List Json → List Setting
  | [] => []
  | j :: rest => Setting.ofJson j :: ofJsonItems rest

def Setting.ofJsonFields : List (String × Json) → List (String × Setting)
  | [] => []
  | (name, j) :: rest => (name, Setting.ofJson j) :: ofJsonFields rest

end

/-- The kinds of settings files. -/
inductive SettingsFormat where
  | toml
  | json
  deriving DecidableEq, Repr

namespace SettingsFormat

def ofExtension? : String → Option SettingsFormat
  | "toml" => some toml
  | "json" => some json
  | _ => none

/-- Reads the text of a settings file, whose outermost value is a table. -/
def read? (format : SettingsFormat) (text : String) : Option (Dict Setting) :=
  match format with
  | toml => Toml.parse? text
  | json => (Json.parse? text).bind fun j => j.obj?.map Setting.ofJsonFields

end SettingsFormat

namespace Settings

/-- The settings file that a path stands for, with its kind: the file at the path, or else the one
with an extension added to it. -/
def file? (files : FileTree) (path : String) : Option (String × SettingsFormat) :=
  if files.hasFile path then
    (SettingsFormat.ofExtension? ((Path.extension? path).getD "")).map (path, ·)
  else if files.hasFile (path ++ ".toml") then some (path ++ ".toml", .toml)
  else if files.hasFile (path ++ ".json") then some (path ++ ".json", .json)
  else none

/-- The text of a settings file without the mark that some editors put before it. -/
def fileText? (files : FileTree) (path : String) : Option String :=
  match files.readText path with
  | .ok text => some (if text.startsWith "\uFEFF" then (text.drop 1).toString else text)
  | .error _ => none

/-- The settings in the file that a path stands for. -/
def readFile (files : FileTree) (path : String) : Except SettingsFault (Dict Setting) :=
  match file? files path with
  | none => .error (.noFile path)
  | some (path, format) =>
    match (fileText? files path).bind format.read? with
    | some layer => .ok layer
    | none => .error (.badFile path)

/-- The settings in a file that need not be there. -/
def readIfThere (files : FileTree) (path : String) : Except SettingsFault (Dict Setting) :=
  if files.has path then
    match file? files path with
    | none => .ok []
    | some _ => readFile files path
  else .ok []

def builtIn : Dict Setting :=
  Dict.ofList
    [("parser.placeholder_policy", .text "lenient"), ("upload.bucket", .text "study-recordings"),
      ("logging.level", .text "info"), ("logging.format", .text "text")]

/-- The settings file of the user, where a home directory is known. -/
def userFile? (env : Environment) : Option String :=
  let home :=
    match (env.get? "XDG_CONFIG_HOME").filter fun d => !d.isEmpty with
    | some directory => some directory
    | none => (env.get? "HOME").map (Path.join · ".config")
  home.map fun d => Path.join (Path.join d "studyplayer") "config.toml"

/-- The settings files of a workspace: its own one, and that of the environment it runs in. -/
def workspaceFiles (env : Environment) (workspace : String) : List String :=
  let directory := Path.join workspace "config"
  let name := (env.get? "STUDYPLAYER_ENV").getD "development"
  [Path.join directory "config.toml", Path.join directory (name ++ ".toml")]

/-- The beginning of the variables that are settings, in lower case. -/
def variablePrefix : String := "studyplayer__"

/-- A name with a dot in the place of every two underscores. -/
def dotted : List Char → List Char
  | '_' :: '_' :: rest => '.' :: dotted rest
  | c :: rest => c :: dotted rest
  | [] => []

/-- The settings that variables state: `STUDYPLAYER__UPLOAD__BUCKET` is `upload.bucket`. -/
def ofVariables (env : Environment) : Dict Setting :=
  Dict.ofList (env.filterMap fun (name, value) =>
    let name := name.toLower
    if name.startsWith variablePrefix then
      let path := String.ofList (dotted (name.toList.drop variablePrefix.length))
      some (path, Setting.ofVariable value)
    else none)

/-- The variables that stand for the settings with a name of their own. -/
def variableNames : List String :=
  let namesOf (name : String) (fields : List String) : List String :=
    fields.map fun field => ("STUDYPLAYER__" ++ name ++ "__" ++ field).toUpper
  namesOf "parser" ["placeholder_policy", "seed"] ++ namesOf "upload" UploadConfig.fieldNames ++
    namesOf "recorder" RecorderConfig.fieldNames ++ namesOf "logging" LoggingConfig.fieldNames

/-- The layers of a workspace, the lowest first. -/
def layers (files : FileTree) (env : Environment) (workspace : String) :
    Except SettingsFault (List (Dict Setting)) := do
  let read ← ((userFile? env).toList ++ workspaceFiles env workspace).mapM (readIfThere files)
  .ok (builtIn :: read ++ [ofVariables env])

/-- Layers over each other. -/
def combine (layers : List (Dict Setting)) : Setting := layers.foldl Setting.overlay (.table [])

def typed (s : Setting) : Except SettingsFault PlayerConfig :=
  (PlayerConfig.ofSetting? s).elim (.error .badSetting) .ok

def load (files : FileTree) (env : Environment) (workspace : String) :
    Except SettingsFault PlayerConfig := do
  typed (combine (← layers files env workspace))

def loadFile (files : FileTree) (path : String) : Except SettingsFault PlayerConfig := do
  typed (combine [← readFile files path])

end Settings

/-- The settings, if there is no problem with them. -/
def PlayerConfig.validated (c : PlayerConfig) : Except SettingsFault PlayerConfig :=
  if c.problems.isEmpty then .ok c else .error (.invalid c.problems)

end StudySession

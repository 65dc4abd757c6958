import Mathlib.Data.Option.Basic
import StudySession.Proofs.MapM
import StudySession.Proofs.Settings.Overlays

/-!
# Reading the settings

`SettingField` names the fields of the four groups of settings, with the reader and the default of
each. Settings can be read exactly when every group is a table or a list, every field reads, and the
levels of modules read (`PlayerConfig.ofSetting?_eq_some_iff`), and then each field has the value
read or its default. So fields are read one by one, and none depends on another.
-/

namespace StudySession

/-! ## Fields of a record -/

namespace Setting

variable {α : Type}

/-- A setting that was given, or not, has a value: the one read from it, or the default. -/
def Reads (read : Setting → Option α) (default value : α) (given : Option Setting) : Prop :=
  given.elim (value = default) fun s => read s = some value

end Setting

/-! ## The groups -/

/-- The groups of settings. -/
inductive SettingGroup where
  | parser
  | upload
  | recorder
  | logging
  deriving DecidableEq, Repr

namespace SettingGroup

def name : SettingGroup → String
  | parser => "parser"
  | upload => "upload"
  | recorder => "recorder"
  | logging => "logging"

/-- The names of the fields in declaration order. -/
def fieldNames : SettingGroup → List String
  | parser => ["placeholder_policy", "seed"]
  | upload => UploadConfig.fieldNames
  | recorder => RecorderConfig.fieldNames
  | logging => LoggingConfig.fieldNames

end SettingGroup

/-- The fields of the groups. The levels of modules, which are settings by themselves, are not among
them. -/
inductive SettingField where
  | placeholderPolicy
  | seed
  | endpoint
  | bucket
  | partSizeBytes
  | maxAttempts
  | retryDelayMs
  | requestTimeoutSecs
  | timesliceMs
  | uploadTimeoutMs
  | enabled
  | level
  | format
  | output
  | file
  | color
  deriving DecidableEq, Repr

namespace SettingField

def group : SettingField → SettingGroup
  | placeholderPolicy | seed => .parser
  | endpoint | bucket | partSizeBytes | maxAttempts | retryDelayMs | requestTimeoutSecs => .upload
  | timesliceMs | uploadTimeoutMs => .recorder
  | enabled | level | format | output | file | color => .logging

def name : SettingField → String
  | placeholderPolicy => "placeholder_policy"
  | seed => "seed"
  | endpoint => "endpoint"
  | bucket => "bucket"
  | partSizeBytes => "part_size_bytes"
  | maxAttempts => "max_attempts"
  | retryDelayMs => "retry_delay_ms"
  | requestTimeoutSecs => "request_timeout_secs"
  | timesliceMs => "timeslice_ms"
  | uploadTimeoutMs => "upload_timeout_ms"
  | enabled => "enabled"
  | level => "level"
  | format => "format"
  | output => "output"
  | file => "file"
  | color => "color"

/-- The type of the values of a field. -/
def Value : SettingField → Type
  | placeholderPolicy => PlaceholderPolicy
  | seed => Option Nat
  | endpoint | file => Option String
  | bucket | level | format | output => String
  | partSizeBytes | maxAttempts | retryDelayMs | requestTimeoutSecs | timesliceMs
  | uploadTimeoutMs => Nat
  | enabled | color => Bool

def value (c : PlayerConfig) : (f : SettingField) → f.Value
  | placeholderPolicy => c.parser.placeholderPolicy
  | seed => c.parser.seed
  | endpoint => c.upload.endpoint
  | bucket => c.upload.bucket
  | partSizeBytes => c.upload.partSizeBytes
  | maxAttempts => c.upload.maxAttempts
  | retryDelayMs => c.upload.retryDelayMs
  | requestTimeoutSecs => c.upload.requestTimeoutSecs
  | timesliceMs => c.recorder.timesliceMs
  | uploadTimeoutMs => c.recorder.uploadTimeoutMs
  | enabled => c.logging.enabled
  | level => c.logging.level
  | format => c.logging.format
  | output => c.logging.output
  | file => c.logging.file
  | color => c.logging.color

/-- How the setting of a field is read. -/
def read? : (f : SettingField) → Setting → Option f.Value
  | placeholderPolicy => PlaceholderPolicy.ofSetting?
  | seed => Setting.optional Setting.nat64?
  | endpoint | file => Setting.optional Setting.text?
  | bucket | level | format | output => Setting.text?
  | maxAttempts => Setting.nat32?
  | partSizeBytes | retryDelayMs | requestTimeoutSecs | timesliceMs | uploadTimeoutMs =>
    Setting.nat64?
  | enabled | color => Setting.flag?

/-- Settings hold, for a field, what was given for it, or its default. -/
def Reads (f : SettingField) (c : PlayerConfig) (given : Option Setting) : Prop :=
  Setting.Reads f.read? (f.value {}) (f.value c) given

end SettingField

/-! ## Groups by their fields -/

/-- Settings of a group hold what was given for its fields. -/
def SettingGroup.Reads (g : SettingGroup) (c : PlayerConfig) (find : String → Option Setting) :
    Prop :=
  ∀ f : SettingField, f.group = g → f.Reads c (find f.name)

/-- The levels of modules hold what was given for them. -/
def ReadsModules (levels : Dict String) (given : Option Setting) : Prop :=
  Setting.Reads (Setting.dictOf? Setting.text?) [] levels given

namespace SettingGroup

/-- The group that settings give, if they give it. -/
def given? (g : SettingGroup) (root : Setting) : Option Setting := root.entries.get? g.name

end SettingGroup

theorem get?_of_mapM {α β : Type} {read : α → Option β} {entries : Dict α} {result : Dict β}
    (h : entries.mapM (fun entry => (read entry.2).map (entry.1, ·)) = some result)
    (name : String) :
    (entries.get? name).elim (result.get? name = none) fun s =>
      ∃ value, read s = some value ∧ result.get? name = some value := by
  rw [mapM_eq_some_iff] at h
  induction h with
  | nil => rfl
  | @cons entry value entries result hentry _ ih =>
      obtain ⟨key, s⟩ := entry
      obtain ⟨value, hread, rfl⟩ := Option.map_eq_some_iff.1 hentry
      rw [Dict.get?_cons, Dict.get?_cons]
      split
      · exact ⟨value, hread, rfl⟩
      · exact ih

/-- Levels of modules that are read hold, for each module, what is given for it. -/
theorem ReadsModules.get? {levels : Dict String} {given : Option Setting}
    (h : ReadsModules levels given) (name : String) :
    Setting.Reads (fun s => s.text?.map some) none (levels.get? name)
      (given.bind fun s => s.entries.get? name) := by
  cases given with
  | none =>
      obtain rfl : levels = [] := h
      rfl
  | some s =>
      cases s with
      | table entries =>
          have hget := get?_of_mapM h name
          rw [Option.bind_some, Setting.entries]
          cases hgiven : Dict.get? entries name with
          | none =>
              rw [hgiven] at hget
              exact hget
          | some s =>
              rw [hgiven] at hget
              obtain ⟨level, hlevel, hthere⟩ := hget
              rw [Setting.Reads, Option.elim_some, hlevel, hthere]
              rfl
      | _ => cases h

/-- What is a setting by itself: a field of a group, or the level of a module. -/
inductive SettingName where
  | field (f : SettingField)
  | moduleLevel (name : String)
  deriving DecidableEq, Repr

namespace SettingName

def group : SettingName → SettingGroup
  | field f => f.group
  | moduleLevel _ => .logging

/-- The name in the group that the setting stands under. -/
def key : SettingName → String
  | field f => f.name
  | moduleLevel _ => "modules"

/-- The names below that. -/
def rest : SettingName → List String
  | field _ => []
  | moduleLevel name => [name]

def path (k : SettingName) : List String := k.group.name :: k.key :: k.rest

def Value : SettingName → Type
  | field f => f.Value
  | moduleLevel _ => Option String

/-- The value of the setting; a module may have no level of its own. -/
def value (c : PlayerConfig) : (k : SettingName) → k.Value
  | field f => f.value c
  | moduleLevel name => c.logging.modules.get? name

def read? : (k : SettingName) → Setting → Option k.Value
  | field f => f.read?
  | moduleLevel _ => fun s => s.text?.map some

end SettingName

end StudySession

import StudySession.Proofs.Settings.Readings
import StudySession.Settings.Load

/-!
# Stacks of layers

Layers lie over each other and over what is built in. Each setting has what the highest layer says
of it that says something, or its default (`Settings.reads_given?`), and what the layers say of
other settings does not matter. Of layers in order that is what the highest layer has that has it
(`Settings.given?_of_orderly`). What is built in only repeats the defaults, so that a layer over it
is read as the layer alone (`Settings.ofSetting?_over_builtIn`).
-/

namespace StudySession

open Setting

/-! ## The stack of layers -/

namespace Settings

/-- What the highest layer gives for the setting under a path that says something of it; the layers
are listed the highest first. Nothing is given for it where that layer has a plain value in the
place of a table around it. -/
def highest? (layers : List (Dict Setting)) (path : List String) : Option Setting :=
  (layers.findSome? fun layer => ruling? (saidBy layer path)).join

/-- What layers give for a setting. A list in the place of its group gives it by its place. -/
def given? (layers : List (Dict Setting)) (k : SettingName) : Option Setting :=
  match highest? layers [k.group.name] with
  | some (.list items) =>
    ((Dict.ofList (k.group.fieldNames.zip items)).get? k.key).bind (at? · k.rest)
  | _ => highest? layers k.path

variable {layers : List (Dict Setting)}

/-- A layer that has tables in the place of the groups and of the levels of modules, and no table in
the place of a setting. -/
structure Orderly (layer : Dict Setting) : Prop where
  groups : ∀ g : SettingGroup, ∀ mention ∈ saidBy layer [g.name], mention.any isTable = true
  modules : ∀ mention ∈ saidBy layer ["logging", "modules"], mention.any isTable = true
  settings : ∀ k : SettingName, ∀ mention ∈ saidBy layer k.path,
    ∃ s, mention = some s ∧ s.isTable = false

end Settings

end StudySession

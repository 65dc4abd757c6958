import StudySession.Settings.Value
import StudySession.Text.Blank

/-!
# Layers of settings

Settings come in layers, and a later layer goes over the earlier ones entry by entry: `Setting.put`
merges tables into tables and puts every other value in the place of the old one. The name of an
entry at the top of a layer may be a path, `upload.bucket`.
-/

namespace StudySession

namespace Setting

mutual

/-- Puts a value under a name of a table; a table is merged into the one that is there. What is
no table is replaced by one. -/
def put (root : Setting) (name : String) : Setting → Setting
  | .table incoming =>
    .table (root.entries.insert name (putAll ((root.entries.get? name).getD (.table [])) incoming))
  | value => .table (root.entries.insert name value)

/-- Puts entries into a table one after the other. -/
def putAll (root : Setting) : List (String × Setting) → Setting
  | [] => root
  | (name, value) :: rest => putAll (put root name value) rest

end

def putAt (root : Setting) (value : Setting) : List String → Setting
  | [] => root
  | [name] => root.put name value
  | name :: rest =>
    .table (root.entries.insert name
      (putAt ((root.entries.get? name).getD .nothing) value rest))

def isPathChar (c : Char) : Bool := c.isAlpha || c.isDigit || c == ' ' || c == '_' || c == '-'

/-- The names of a path. A text that is no path is one name. -/
def pathNames (s : String) : List String :=
  let names := textsBetween '.' s
  if names.all fun name => !name.isEmpty && name.toList.all isPathChar then names else [s]

/-- Puts a layer over settings. -/
def overlay (root : Setting) (layer : Dict Setting) : Setting :=
  layer.foldl (fun root entry => root.putAt entry.2 (pathNames entry.1)) root

def at? (root : Setting) : List String → Option Setting
  | [] => some root
  | name :: rest => (root.entries.get? name).bind (at? · rest)

end Setting

end StudySession

import StudySession.Text.Blank

/-!
# Paths of files

A path is a text whose components stand between slashes. `Path.join` puts one path under another,
and `Path.components` gives the components that a file system follows: empty ones and `.` stay
where they are and are left out.
-/

namespace StudySession

namespace Path

def isAbsolute (path : String) : Bool := path.startsWith "/"

/-- A path under another one; an absolute one stands for itself. -/
def join (base path : String) : String :=
  if isAbsolute path then path
  else if base.isEmpty || base.endsWith "/" then base ++ path
  else base ++ "/" ++ path

def components (path : String) : List String :=
  (textsBetween '/' path).filter fun c => !c.isEmpty && c != "."

/-- Whether a path ends in a way that only directories may have. -/
def namesDirectory (path : String) : Bool :=
  path.endsWith "/" || path.endsWith "/." || path.endsWith "/.." || path == "." || path == ".."

/-- The text after the last dot of a file's name. A name that begins with its only dot has none. -/
def extension? (path : String) : Option String :=
  match (components path).getLast? with
  | some ".." => none
  | some name =>
    match textsBetween '.' name with
    | [_] => none
    | ["", _] => none
    | pieces => pieces.getLast?
  | none => none

end Path

end StudySession

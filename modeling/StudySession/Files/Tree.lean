import StudySession.Files.Path

/-!
# File trees

A `FileTree` is what a program sees of a file system: files and directories under their components
from the root on, and the directory that relative paths start from. Operations fail for the reasons
of a file system, and `FileError.message` gives them in its words.
-/

namespace StudySession

/-- Why an operation on files fails. -/
inductive FileError where
  | notFound
  | occupied
  | notDirectory
  | isDirectory
  | notText
  deriving DecidableEq, Repr

def FileError.message : FileError → String
  | notFound => "No such file or directory (os error 2)"
  | occupied => "File exists (os error 17)"
  | notDirectory => "Not a directory (os error 20)"
  | isDirectory => "Is a directory (os error 21)"
  | notText => "stream did not contain valid UTF-8"

/-- A file or a directory. -/
inductive FileNode where
  | file (body : ByteArray)
  | directory

/-- Files and directories. -/
structure FileTree where
  /-- What there is, by its components from the root on; the root is not listed. -/
  entries : List (List String × FileNode)
  current : List String

namespace FileTree

def node? (t : FileTree) (place : List String) : Option FileNode :=
  if place.isEmpty then some .directory else t.entries.lookup place

def put (t : FileTree) (place : List String) (node : FileNode) : FileTree :=
  { t with entries := (place, node) :: t.entries.filter (·.1 != place) }

/-- Follows components from a directory. All but the last of them have to be directories; the last
one need not be there. -/
def follow (t : FileTree) (place : List String) : List String → Except FileError (List String)
  | [] => .ok place
  | c :: rest =>
    match t.node? place with
    | some .directory => t.follow (if c = ".." then place.dropLast else place ++ [c]) rest
    | some (.file _) => .error .notDirectory
    | none => .error .notFound

def locate (t : FileTree) (path : String) : Except FileError (List String) :=
  if path.isEmpty then .error .notFound
  else t.follow (if Path.isAbsolute path then [] else t.current) (Path.components path)

def find (t : FileTree) (path : String) : Except FileError FileNode := do
  let place ← t.locate path
  match t.node? place with
  | some .directory => .ok .directory
  | some (.file body) => if Path.namesDirectory path then .error .notDirectory else .ok (.file body)
  | none => .error .notFound

def has (t : FileTree) (path : String) : Bool :=
  match t.find path with
  | .ok _ => true
  | .error _ => false

def hasFile (t : FileTree) (path : String) : Bool :=
  match t.find path with
  | .ok (.file _) => true
  | _ => false

def read (t : FileTree) (path : String) : Except FileError ByteArray := do
  match ← t.find path with
  | .file body => .ok body
  | .directory => .error .isDirectory

def readText (t : FileTree) (path : String) : Except FileError String := do
  match String.fromUTF8? (← t.read path) with
  | some text => .ok text
  | none => .error .notText

/-- Makes the directories on the way to a place, and at it. -/
def makeAlong (t : FileTree) (place : List String) : List String → Except FileError FileTree
  | [] => .ok t
  | c :: rest =>
    let next := if c = ".." then place.dropLast else place ++ [c]
    match t.node? next with
    | some .directory => t.makeAlong next rest
    | some (.file _) => .error (if rest.isEmpty then .occupied else .notDirectory)
    | none => (t.put next .directory).makeAlong next rest

/-- Makes a directory and those it is in. -/
def makeDirectories (t : FileTree) (path : String) : Except FileError FileTree :=
  t.makeAlong (if Path.isAbsolute path then [] else t.current) (Path.components path)

/-- Opens a file to append to it; one that is not there is made. -/
def openToAppend (t : FileTree) (path : String) : Except FileError FileTree := do
  let place ← t.locate path
  match t.node? place with
  | some .directory => .error .isDirectory
  | some (.file _) => if Path.namesDirectory path then .error .notDirectory else .ok t
  | none =>
    if Path.namesDirectory path then .error .isDirectory else .ok (t.put place (.file .empty))

/-- Writes a file, with the directories it is in. -/
def write (t : FileTree) (path : String) (body : ByteArray) : FileTree :=
  let place := (Path.components path).foldl
    (fun place c => if c = ".." then place.dropLast else place ++ [c])
    (if Path.isAbsolute path then [] else t.current)
  let directories := (List.range place.length).map place.take
  let made := directories.foldl (fun (t : FileTree) p =>
    if (t.node? p).isSome then t else t.put p .directory) t
  made.put place (.file body)

end FileTree

end StudySession

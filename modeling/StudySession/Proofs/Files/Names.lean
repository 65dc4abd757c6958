import StudySession.Files.Tree
import StudySession.Proofs.Text.Pieces

/-!
# Names in a directory

A name without a slash is a path of one component, and a file tree finds it where it is an entry of
the directory that relative paths start from.
-/

namespace StudySession

/-- What a path has to be for a name. -/
structure Path.IsName (path : String) : Prop where
  slashless : '/' ∉ path.toList
  nonempty : path.isEmpty = false
  elsewhere : path ≠ "." ∧ path ≠ ".."
  relative : Path.isAbsolute path = false
  file : Path.namesDirectory path = false

theorem Path.IsName.components {path : String} (h : IsName path) :
    Path.components path = [path] := by
  rw [Path.components, textsBetween_of_not_mem h.slashless]
  simp [h.nonempty, h.elsewhere.1]

namespace FileTree

variable {t : FileTree} {name : String}

end FileTree

end StudySession

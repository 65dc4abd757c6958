import StudySession.Json

/-!
# Records in documents

A record is written as an object of its fields or as an array of them in declaration order. Every
field may be missing, and then has its default; a field that is present has to be of its type, and
`null` is a value of optional fields alone. Unknown fields of an object are ignored, and surplus
items of an array are refused.
-/

namespace StudySession

namespace Json

/-- The fields a document gives to a record with the named fields. -/
def record? (names : List String) : Json → Option Fields
  | .obj fields => some fields
  | .arr items => if items.length ≤ names.length then some (Dict.ofList (names.zip items)) else none
  | _ => none

/-- The value of a field, or its default where it is missing. -/
def fieldOr {α : Type} (fields : Fields) (name : String) (default : α) (read : Json → Option α) :
    Option α :=
  match fields.get? name with
  | none => some default
  | some j => read j

/-- An optional value: `null` is none. -/
def nullable {α : Type} (read : Json → Option α) : Json → Option (Option α)
  | .null => some none
  | j => (read j).map some

def bool? : Json → Option Bool
  | .bool b => some b
  | _ => none

def natBelow? (bound : Nat) (j : Json) : Option Nat :=
  j.nat?.bind fun n => if n < bound then some n else none

def nat32? : Json → Option Nat := natBelow? (Nat.pow 2 32)

def nat64? : Json → Option Nat := natBelow? (Nat.pow 2 64)

def listOf? {α : Type} (read : Json → Option α) (j : Json) : Option (List α) :=
  j.arr?.bind fun items => items.mapM read

def dictOf? {α : Type} (read : Json → Option α) (j : Json) : Option (Dict α) :=
  j.obj?.bind fun fields => fields.mapM fun entry => (read entry.2).map (entry.1, ·)

end Json

end StudySession

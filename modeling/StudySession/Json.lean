import StudySession.Dict
import StudySession.Number.Double

/-!
# Documents

`Json` is the value type of experiment structures, recorded conditions and event payloads. An
integer and a float are different values even where they denote the same number. The fields of an
object are a `Dict`, so they have one order, the order in which every traversal draws randomness.

`Json.eqv` is equality of values, under which the two float zeros coincide; `Json.depth` is the
nesting depth, by which every traversal of a document ends.
-/

namespace StudySession

/-- A document. -/
inductive Json where
  | null
  | bool (b : Bool)
  /-- An integer of the range `-2^63 .. 2^64-1`. -/
  | int (i : Int)
  | float (x : Double)
  | str (s : String)
  | arr (items : List Json)
  /-- The fields are a `Dict`. -/
  | obj (fields : List (String × Json))
  deriving Repr, Inhabited

abbrev Fields := Dict Json

namespace Json

mutual

/-- Equality of values: integers and floats differ, and the two float zeros are equal. -/
def eqv : Json → Json → Bool
  | .null, .null => true
  | .bool a, .bool b => a == b
  | .int a, .int b => a == b
  | .float x, .float y => x.eqv y
  | .str s, .str t => s == t
  | .arr xs, .arr ys => eqvItems xs ys
  | .obj xs, .obj ys => eqvFields xs ys
  | _, _ => false

def eqvItems : List Json → List Json → Bool
  | [], [] => true
  | x :: xs, y :: ys => eqv x y && eqvItems xs ys
  | _, _ => false

def eqvFields : List (String × Json) → List (String × Json) → Bool
  | [], [] => true
  | (k, x) :: xs, (l, y) :: ys => k == l && eqv x y && eqvFields xs ys
  | _, _ => false

end

mutual

/-- The nesting depth: a scalar has depth `0`, and an array or object is one deeper than its
deepest member. -/
def depth : Json → Nat
  | .arr items => depthItems items + 1
  | .obj fields => depthFields fields + 1
  | _ => 0

def depthItems : List Json → Nat
  | [] => 0
  | x :: xs => max x.depth (depthItems xs)

def depthFields : List (String × Json) → Nat
  | [] => 0
  | (_, x) :: xs => max x.depth (depthFields xs)

end

mutual

/-- The document with every object's fields put in order, the last of one key winning. -/
def normalize : Json → Json
  | .arr items => .arr (normalizeItems items)
  | .obj fields => .obj (Dict.ofList (normalizeFields fields))
  | j => j

def normalizeItems : List Json → List Json
  | [] => []
  | x :: xs => x.normalize :: normalizeItems xs

def normalizeFields : List (String × Json) → List (String × Json)
  | [] => []
  | (k, x) :: xs => (k, x.normalize) :: normalizeFields xs

end

def ofFields (fields : List (String × Json)) : Json := .obj (Dict.ofList fields)

def ofNat (n : Nat) : Json := .int n

def ofOption {α : Type} (f : α → Json) : Option α → Json
  | none => .null
  | some a => f a

def str? : Json → Option String
  | .str s => some s
  | _ => none

def arr? : Json → Option (List Json)
  | .arr items => some items
  | _ => none

def obj? : Json → Option Fields
  | .obj fields => some fields
  | _ => none

/-- A non-negative integer; a float never is one. -/
def nat? : Json → Option Nat
  | .int i => if 0 ≤ i then some i.toNat else none
  | _ => none

def double? : Json → Option Double
  | .int i => some (Double.ofInt i)
  | .float x => some x
  | _ => none

def field? (j : Json) (key : String) : Option Json := j.obj?.bind (·.get? key)

end Json

end StudySession

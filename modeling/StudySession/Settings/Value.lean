import StudySession.Dict
import StudySession.Number.Reading

/-!
# Values of settings

A `Setting` is what a settings file or a variable gives: the value of one setting, or a table of
settings by name. Where a setting of some type is wanted, values of other types count as well:
numbers and truth values as texts, texts as the numbers or truth values they spell, and truth values
as numbers.
-/

namespace StudySession

/-- A value or a table of settings. -/
inductive Setting where
  | nothing
  | flag (b : Bool)
  /-- An integer of the range `-2^63 .. 2^63-1`. -/
  | integer (i : Int)
  | number (x : Numeral)
  | text (s : String)
  | list (items : List Setting)
  /-- The entries are a `Dict`. -/
  | table (entries : List (String × Setting))
  deriving Repr, Inhabited

namespace Setting

/-- The entries of a table; other values have none. -/
def entries : Setting → Dict Setting
  | table entries => entries
  | _ => []

/-- Whether a number is in the range that integers have. -/
def isInteger (i : Int) : Bool := decide (-9223372036854775808 ≤ i ∧ i < 9223372036854775808)

/-- The value of a setting that a variable states: a truth value, an integer or a number if it
looks like one, and a text else. -/
def ofVariable (s : String) : Setting :=
  match s.toLower with
  | "true" => flag true
  | "false" => flag false
  | _ =>
    match (integer? s).filter isInteger with
    | some i => integer i
    | none => (Numeral.ofText? s).elim (text s) number

def wordFlag? (s : String) : Option Bool :=
  match s.toLower with
  | "true" => some true
  | "on" => some true
  | "yes" => some true
  | "false" => some false
  | "off" => some false
  | "no" => some false
  | _ => none

def flag? : Setting → Option Bool
  | flag b => some b
  | integer i => some (i != 0)
  | number x => some x.isNonzero
  | text "1" => some true
  | text "0" => some false
  | text s => wordFlag? s
  | _ => none

def text? : Setting → Option String
  | text s => some s
  | flag b => some (if b then "true" else "false")
  | integer i => some (toString i)
  | number x => some x.positional
  | _ => none

/-- The setting as an integer from `0` to `2^64-1`. -/
def nat64? : Setting → Option Nat
  | integer i => if 0 ≤ i then some i.toNat else none
  | text s =>
    match wordFlag? s with
    | some b => some b.toNat
    | none => naturalBelow? (Nat.pow 2 64) s
  | flag b => some b.toNat
  | number x => some x.toNat64
  | _ => none

/-- The setting as an integer of 32 bits, of which the lower ones count. -/
def nat32? (s : Setting) : Option Nat := s.nat64?.map (· % Nat.pow 2 32)

def optional {α : Type} (read : Setting → Option α) : Setting → Option (Option α)
  | nothing => some none
  | s => (read s).map some

def dictOf? {α : Type} (read : Setting → Option α) : Setting → Option (Dict α)
  | table entries => entries.mapM fun entry => (read entry.2).map (entry.1, ·)
  | _ => none

/-- The settings a value gives to a record: a table by name, or a list in declaration order. -/
def record? (names : List String) : Setting → Option (Dict Setting)
  | table entries => some entries
  | list items => some (Dict.ofList (names.zip items))
  | _ => none

/-- The value of a setting, or its default where it is not given. -/
def fieldOr {α : Type} (fields : Dict Setting) (name : String) (default : α)
    (read : Setting → Option α) : Option α :=
  match fields.get? name with
  | none => some default
  | some s => read s

end Setting

end StudySession

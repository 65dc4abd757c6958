import StudySession.Text.Alphanumeric
import StudySession.Json

/-!
# Placeholders

A tagged placeholder is a text `NAME#SUFFIX`: a parameter's name and how to take a value from the
array bound to it. A name is made of letters, digits, `_`, `-` and `.`.
-/

namespace StudySession

/-- What to do with a tagged placeholder whose parameter is not defined. -/
inductive PlaceholderPolicy where
  /-- Leave the text in place. -/
  | lenient
  | strict
  deriving DecidableEq, Repr, Inhabited

namespace PlaceholderPolicy

def text : PlaceholderPolicy → String
  | lenient => "lenient"
  | strict => "strict"

def ofText? : String → Option PlaceholderPolicy
  | "lenient" => some lenient
  | "strict" => some strict
  | _ => none

/-- Reads a policy: its written form, or an object that holds `null` under it. -/
def ofJson? : Json → Option PlaceholderPolicy
  | .str s => ofText? s
  | .obj [(s, .null)] => ofText? s
  | _ => none

end PlaceholderPolicy

/-- How a tagged placeholder takes a value from an array. -/
inductive Selector where
  | index (n : Nat)
  | rand
  /-- The array in a random order, the same for a whole pass. -/
  | perm
  /-- An item not yet taken in the pass. -/
  | uniq
  deriving DecidableEq, Repr

/-- A tagged placeholder. -/
structure Placeholder where
  name : String
  selector : Selector
  deriving DecidableEq, Repr

namespace Placeholder

def isNameChar (c : Char) : Bool := isAlphanumeric c || c == '_' || c == '-' || c == '.'

/-- The number that decimal digits write. -/
def decimal (digits : List Char) : Nat := digits.foldl (fun n c => n * 10 + (c.toNat - '0'.toNat)) 0

/-- The selector of a suffix: a word, or a number below `2^64` in decimal digits. -/
def selector? (suffix : List Char) : Option Selector :=
  if suffix = "RAND".toList then some .rand
  else if suffix = "PERM".toList then some .perm
  else if suffix = "UNIQ".toList then some .uniq
  else if !suffix.isEmpty && suffix.all Char.isDigit then
    if decimal suffix < Nat.pow 2 64 then some (.index (decimal suffix)) else none
  else none

/-- A text as a tagged placeholder: a name before the last `#` and a selector after it. -/
def ofText? (text : String) : Option Placeholder :=
  let chars := text.toList
  let suffix := (chars.reverse.takeWhile (· != '#')).reverse
  let before := chars.take (chars.length - suffix.length)
  match before.getLast? with
  | none => none
  | some _ =>
    let name := before.dropLast
    if !name.isEmpty && name.all isNameChar then
      (selector? suffix).map fun selector => ⟨String.ofList name, selector⟩
    else none

end Placeholder

end StudySession

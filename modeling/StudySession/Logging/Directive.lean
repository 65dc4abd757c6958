import StudySession.Text.Alphanumeric
import StudySession.Text.Blank

/-!
# Log filters

A filter is a list of directives between commas, and a directive is a level, the name of a module,
or `module=level`. A module's name may be followed by a span in square brackets, with conditions on
its fields in braces.
-/

namespace StudySession

/-- The levels of the log, from none at all to everything. -/
inductive LogLevel where
  | off
  | error
  | warn
  | info
  | debug
  | trace
  deriving DecidableEq, Repr

namespace LogLevel

/-- Reads a level: its name in any case or its number, a sign and leading zeros allowed; an empty
text is `error`. -/
def ofText? (s : String) : Option LogLevel :=
  match s.toLower with
  | "" => some error
  | "off" => some off
  | "error" => some error
  | "warn" => some warn
  | "info" => some info
  | "debug" => some debug
  | "trace" => some trace
  | lower =>
    let digits := if lower.startsWith "+" then (lower.drop 1).toString else lower
    if digits.toList.all Char.isDigit then
      match digits.toNat? with
      | some 0 => some off
      | some 1 => some error
      | some 2 => some warn
      | some 3 => some info
      | some 4 => some debug
      | some 5 => some trace
      | _ => none
    else none

end LogLevel

namespace Directive

/-- How far a directive is read. -/
inductive Progress where
  | start
  /-- In a level or in the name of a module. -/
  | name
  /-- In a span's name; whether it is still empty. -/
  | span (isEmpty : Bool)
  /-- In a condition on a field; whether it is still empty. -/
  | field (isEmpty : Bool)
  | fields
  | target
  /-- In the level; its characters in reverse. -/
  | level (gathered : List Char)

def isFirst (c : Char) : Bool := c == '-' || c == ':' || c == '_' || isAlphanumeric c

/-- Reads one more character, if it may come next. -/
def Progress.next? : Progress → Char → Option Progress
  | start, c => if c = '[' then some (span true) else if isFirst c then some name else none
  | name, c =>
    if c = '=' then some (level []) else if c = '[' then some (span true)
    else if c = ',' then none else some name
  | span _, c =>
    if c = ']' then some target else if c = '{' then some (field true) else some (span false)
  | field isEmpty, c =>
    if c = '}' then if isEmpty then none else some fields
    else if c = ',' then if isEmpty then none else some (field true)
    else some (field false)
  | fields, c => if c = ']' then some target else none
  | target, c => if c = '=' then some (level []) else none
  | level gathered, c => if c = ',' then none else some (level (c :: gathered))

/-- Whether a directive may end here. -/
def Progress.isEnd : Progress → Bool
  | name => true
  | target => true
  | level gathered => (LogLevel.ofText? (String.ofList gathered.reverse)).isSome
  | _ => false

/-- Whether a text is a directive. Blanks may stand around one that states no level. -/
def isValid (s : String) : Bool :=
  let trimmed := trimBlanks s
  match trimmed.toList.foldlM Progress.next? Progress.start with
  | some (.level gathered) => (Progress.level gathered).isEnd && trimmed == s
  | some progress => progress.isEnd
  | none => false

/-- Whether a text is a filter; empty pieces do not count. -/
def isFilter (s : String) : Bool :=
  (piecesBetween (· == ',') s.toList).all fun piece =>
    piece.isEmpty || isValid (String.ofList piece)

/-- The modules and levels of a text `a=debug,b=warn`; malformed entries are left out. -/
def moduleLevels (s : String) : List (String × String) :=
  (piecesBetween (· == ',') s.toList).filterMap fun piece =>
    let before := piece.takeWhile (· != '=')
    match piece.drop before.length with
    | _ :: after =>
      let name := trimBlanks (String.ofList before)
      let level := trimBlanks (String.ofList after)
      if name.isEmpty || level.isEmpty then none else some (name, level)
    | [] => none

end Directive

end StudySession

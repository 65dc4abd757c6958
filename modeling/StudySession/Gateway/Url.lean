import StudySession.Gateway.Host

/-!
# Web addresses

`Url.parse?` reads an address of the schemes `http` and `https`, and `Url.target` gives the path and
query that a request for it names. Reading never fails on a path or a query: what may not stand in
them is percent-encoded, `\` counts as `/`, the segments `.` and `..` are resolved, and what follows
`#` is dropped.
-/

namespace StudySession

/-- An absolute web address. -/
structure Url where
  secure : Bool
  host : String
  port? : Option Nat
  path : List String
  query? : Option String
  deriving DecidableEq, Repr

namespace Url

/-- The characters that stand for themselves in a path. -/
def isPathPlain (c : Char) : Bool :=
  decide (32 < c.toNat) && decide (c.toNat < 127) &&
    !(c == '"' || c == '<' || c == '>' || c == '\x60' || c == '#' || c == '?' || c == '\x7b' ||
      c == '\x7d')

/-- The characters that stand for themselves in a query. -/
def isQueryPlain (c : Char) : Bool :=
  decide (32 < c.toNat) && decide (c.toNat < 127) &&
    !(c == '"' || c == '#' || c == '<' || c == '>' || c == '\x27')

/-- The slashes that part an address. -/
def isSlash (c : Char) : Bool := c == '/' || c == '\\'

/-- Whether a segment is a number of dots, each of which may be encoded. -/
def isDots (count : Nat) (segment : String) : Bool :=
  Percent.codes segment.toList == List.replicate count '.'.toNat

/-- Resolves the segments `.` and `..` of a path; `done` holds the segments before, in reverse. -/
def resolve (done : List String) : List String → List String
  | [] => done.reverse
  | segment :: rest =>
    let isLast := rest.isEmpty
    if isDots 2 segment then resolve (if isLast then "" :: done.tail else done.tail) rest
    else if isDots 1 segment then resolve (if isLast then "" :: done else done) rest
    else resolve (segment :: done) rest

/-- The segments of a path, as they are sent. -/
def segments (s : List Char) : List String :=
  (piecesBetween isSlash s).map fun piece => String.ofList (Percent.encode isPathPlain piece)

/-- Reads a path; a slash at its front is no part of the first segment. -/
def readPath : List Char → List String
  | c :: rest => resolve [] (segments (if isSlash c then rest else c :: rest))
  | [] => resolve [] (segments [])

/-- The characters of a scheme. -/
def isSchemeChar (c : Char) : Bool :=
  Percent.isAlphanumeric c || c == '+' || c == '-' || c == '.'

/-- A scheme in front of a colon, in lower case, and what follows the colon. -/
def scheme? (s : List Char) : Option (String × List Char) :=
  let word := s.takeWhile isSchemeChar
  match s.drop word.length with
  | ':' :: rest =>
    if s.head?.any Char.isAlpha then some ((String.ofList word).toLower, rest) else none
  | _ => none

/-- A port after its colon; an empty one is not named. -/
def readPort? (s : List Char) : Option (Option Nat) :=
  if s.isEmpty then some none
  else
    match (String.ofList s).toNat? with
    | some n => if s.all Char.isDigit ∧ n < 65536 then some (some n) else none
    | none => none

/-- The host and the port of an authority; a name and a password before `@` are no part of them. -/
def authority? (s : List Char) : Option (String × Option Nat) :=
  let s := (s.reverse.takeWhile (· != '@')).reverse
  let host :=
    if s.head? = some '[' then s.takeWhile (· != ']') ++ (s.dropWhile (· != ']')).take 1
    else s.takeWhile (· != ':')
  if Host.isValid host then
    match s.drop host.length with
    | [] => some (String.ofList host, none)
    | ':' :: rest => (readPort? rest).map fun p => (String.ofList host, p)
    | _ => none
  else none

/-- The characters that do not count around an address. -/
def isOuter (c : Char) : Bool := decide (c.toNat ≤ 32)

/-- The characters that count nowhere in an address. -/
def isBreak (c : Char) : Bool := c == '\t' || c == '\n' || c == '\r'

/-- The characters of an address that count. -/
def strip (text : String) : List Char :=
  (trimEnds isOuter text.toList).filter fun c => !isBreak c

/-- The path in what follows an authority. -/
def pathPart (s : List Char) : List Char := s.takeWhile (· != '?')

/-- The query in what follows an authority. -/
def queryPart? (s : List Char) : Option String :=
  match s.drop (pathPart s).length with
  | _ :: query => some (String.ofList (Percent.encode isQueryPlain query))
  | [] => none

/-- Reads what follows the colon of a scheme. -/
def afterScheme? (secure : Bool) (s : List Char) : Option Url := do
  let rest := (s.dropWhile isSlash).takeWhile (· != '#')
  let place := rest.takeWhile fun c => !(isSlash c || c == '?')
  let (host, port?) ← authority? place
  let after := rest.drop place.length
  some ⟨secure, host, port?, readPath (pathPart after), queryPart? after⟩

/-- Reads an address. Controls and blanks around it and line breaks and tabs inside it do not
count. -/
def parse? (text : String) : Option Url := do
  let (scheme, rest) ← scheme? (strip text)
  if scheme = "http" ∨ scheme = "https" then afterScheme? (scheme = "https") rest else none

/-- The address with the pairs of a form at the end of its query. -/
def withForm (url : Url) (pairs : List (String × String)) : Url :=
  let query := url.query?.getD ""
  let start := if query.isEmpty then "" else query ++ "&"
  { url with query? := some (start ++ Percent.form pairs) }

/-- The path and query that a request names. -/
def target (url : Url) : String :=
  "/" ++ "/".intercalate url.path ++ url.query?.elim "" ("?" ++ ·)

end Url

end StudySession

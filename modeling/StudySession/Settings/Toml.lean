import StudySession.Json.Parser
import StudySession.Settings.Value
import StudySession.Text.Blank

/-!
# Settings in TOML

`Toml.parse?` reads a TOML document: tables under headers, dotted names, strings of all four kinds,
integers, floats, truth values, arrays and inline tables. Dates are not read. A name may be given
only once, and `Toml.Node` keeps what is needed to see that: how a table came to be decides what may
still be added to it.
-/

namespace StudySession

namespace Toml

/-! ## Tables -/

/-- How a table came to be. -/
inductive Origin where
  /-- A header names a table inside it. -/
  | implied
  /-- It has a header of its own. -/
  | headed
  /-- A dotted name names something inside it. -/
  | dotted
  deriving DecidableEq, Repr

/-- What stands under a name. -/
inductive Node where
  | value (s : Setting)
  | table (origin : Origin) (entries : List (String × Node))
  /-- The tables of one header in double brackets, the latest first. -/
  | rows (tables : List (List (String × Node)))

mutual

def Node.toSetting : Node → Setting
  | .value s => s
  | .table _ entries => .table (entrySettings entries)
  | .rows tables => .list (rowSettings tables).reverse

def entrySettings : List (String × Node) → List (String × Setting)
  | [] => []
  | (name, node) :: rest => (name, node.toSetting) :: entrySettings rest

def rowSettings : List (List (String × Node)) → List Setting
  | [] => []
  | entries :: rest => .table (entrySettings entries) :: rowSettings rest

end

/-- Changes the table under a path of names, making it where it is not there. A dotted name does not
reach into a table that has a header. -/
def change (isDotted : Bool) (f : Origin → Dict Node → Option (Dict Node)) (origin : Origin)
    (entries : Dict Node) : List String → Option (Dict Node)
  | [] => f origin entries
  | name :: rest =>
    match entries.get? name with
    | none =>
      let origin := if isDotted then .dotted else .implied
      (change isDotted f origin [] rest).map fun inner => entries.insert name (.table origin inner)
    | some (.value _) => none
    | some (.table inner nodes) =>
      if isDotted && inner == .headed then none
      else
        (change isDotted f inner nodes rest).map fun nodes =>
          entries.insert name (.table inner nodes)
    | some (.rows (latest :: earlier)) =>
      (change isDotted f .headed latest rest).map fun latest =>
        entries.insert name (.rows (latest :: earlier))
    | some (.rows []) => none

/-- Puts a value under a new name. -/
def addNew (name : String) (node : Node) (entries : Dict Node) : Option (Dict Node) :=
  if entries.has name then none else some (entries.insert name node)

/-- Puts a value under a dotted name of a table. -/
def addDotted (names : List String) (value : Setting) (origin : Origin) (entries : Dict Node) :
    Option (Dict Node) :=
  match names.getLast? with
  | none => none
  | some last =>
    let add (origin : Origin) (entries : Dict Node) : Option (Dict Node) :=
      if (origin == .dotted) == names.dropLast.isEmpty then none
      else addNew last (.value value) entries
    change true add origin entries names.dropLast

/-- Begins the table of a header. -/
def addHeader (names : List String) (entries : Dict Node) : Option (Dict Node) := do
  let last ← names.getLast?
  let begin (_ : Origin) (entries : Dict Node) : Option (Dict Node) :=
    match entries.get? last with
    | none => some (entries.insert last (.table .headed []))
    | some (.table .implied inner) => some (entries.insert last (.table .headed inner))
    | some _ => none
  change false begin .headed entries names.dropLast

/-- Begins another table of a header in double brackets. -/
def addRow (names : List String) (entries : Dict Node) : Option (Dict Node) := do
  let last ← names.getLast?
  let begin (_ : Origin) (entries : Dict Node) : Option (Dict Node) :=
    match entries.get? last with
    | none => some (entries.insert last (.rows [[]]))
    | some (.rows tables) => some (entries.insert last (.rows ([] :: tables)))
    | some _ => none
  change false begin .headed entries names.dropLast

/-! ## Blanks and comments -/

def isSpace (c : Char) : Bool := c == ' ' || c == '\t'

def skipSpaces (s : List Char) : List Char := s.dropWhile isSpace

/-- Whether a character may stand in a comment or in a text of one line. -/
def isPlain (c : Char) : Bool := (decide (32 ≤ c.toNat) && c.toNat != 127) || c == '\t'

/-- The rest after a line's end, which the end of the document is as well; none if something else
stands before it. -/
def lineEnd? (s : List Char) : Option (List Char) :=
  match skipSpaces s with
  | '#' :: rest =>
    match rest.dropWhile isPlain with
    | [] => some []
    | '\n' :: rest => some rest
    | '\r' :: '\n' :: rest => some rest
    | _ => none
  | [] => some []
  | '\n' :: rest => some rest
  | '\r' :: '\n' :: rest => some rest
  | _ => none

/-- The rest after blanks, comments and line breaks. -/
def skipLines (fuel : Nat) (s : List Char) : Option (List Char) :=
  match fuel with
  | 0 => none
  | fuel + 1 =>
    match skipSpaces s with
    | [] => some []
    | c :: rest =>
      if c = '#' ∨ c = '\n' ∨ c = '\r' then (lineEnd? (c :: rest)).bind (skipLines fuel)
      else some (c :: rest)

/-! ## Strings and names -/

def hexDigits? (count value : Nat) (s : List Char) : Option (Nat × List Char) :=
  match count, s with
  | 0, s => some (value, s)
  | count + 1, c :: rest => (Json.hexValue? c).bind fun d => hexDigits? count (value * 16 + d) rest
  | _ + 1, [] => none

/-- The character of an escape, after the backslash. -/
def escaped? : List Char → Option (Char × List Char)
  | 'b' :: rest => some (Char.ofNat 8, rest)
  | 't' :: rest => some ('\t', rest)
  | 'n' :: rest => some ('\n', rest)
  | 'f' :: rest => some (Char.ofNat 12, rest)
  | 'r' :: rest => some ('\r', rest)
  | '"' :: rest => some ('"', rest)
  | '\\' :: rest => some ('\\', rest)
  | c :: rest => do
    let count ← if c = 'u' then some 4 else if c = 'U' then some 8 else none
    let (n, rest) ← hexDigits? count 0 rest
    if n.isValidChar then some (Char.ofNat n, rest) else none
  | [] => none

/-- The rest of a string of one line after its opening quote; the characters so far in reverse. -/
def line? (fuel : Nat) (quote : Char) (gathered : List Char) (s : List Char) :
    Option (String × List Char) :=
  match fuel, s with
  | fuel + 1, c :: rest =>
    if c = quote then some (String.ofList gathered.reverse, rest)
    else if c = '\\' ∧ quote = '"' then
      match escaped? rest with
      | some (d, rest) => line? fuel quote (d :: gathered) rest
      | none => none
    else if isPlain c then line? fuel quote (c :: gathered) rest
    else none
  | _, _ => none

/-- The rest of a string of several lines after its opening quotes; it ends with three quotes,
before which up to two more belong to it. -/
def lines? (fuel : Nat) (quote : Char) (gathered : List Char) (s : List Char) :
    Option (String × List Char) :=
  match fuel, s with
  | fuel + 1, c :: rest =>
    if c = quote then
      let quotes := 1 + (rest.takeWhile (· == quote)).length
      if 6 ≤ quotes then
        some (String.ofList (quote :: quote :: gathered).reverse, rest.drop 4)
      else if 3 ≤ quotes then
        some (String.ofList (List.replicate (quotes - 3) quote ++ gathered).reverse,
          rest.drop (quotes - 1))
      else lines? fuel quote (c :: gathered) rest
    else if c = '\\' ∧ quote = '"' then
      let afterBlanks := skipSpaces rest
      if afterBlanks.head? = some '\n' ∨ afterBlanks.take 2 = ['\r', '\n'] then
        let isBlank (d : Char) : Bool := isSpace d || d == '\n' || d == '\r'
        lines? fuel quote gathered (afterBlanks.dropWhile isBlank)
      else
        match escaped? rest with
        | some (d, rest) => lines? fuel quote (d :: gathered) rest
        | none => none
    else if c = '\n' ∨ isPlain c then lines? fuel quote (c :: gathered) rest
    else if c = '\r' ∧ rest.head? = some '\n' then
      lines? fuel quote ('\n' :: gathered) (rest.drop 1)
    else none
  | _, _ => none

/-- A string from its quote on. A line break right after three opening quotes is no part of it. -/
def string? (s : List Char) : Option (String × List Char) :=
  match s with
  | q :: rest =>
    if q = '"' ∨ q = '\x27' then
      if rest.take 2 = [q, q] then
        match rest.drop 2 with
        | '\n' :: rest => lines? (s.length + 1) q [] rest
        | '\r' :: '\n' :: rest => lines? (s.length + 1) q [] rest
        | rest => lines? (s.length + 1) q [] rest
      else line? (s.length + 1) q [] rest
    else none
  | [] => none

def isBare (c : Char) : Bool := c.isAlpha || c.isDigit || c == '_' || c == '-'

def name? (s : List Char) : Option (String × List Char) :=
  match s with
  | q :: rest =>
    if q = '"' ∨ q = '\x27' then line? (s.length + 1) q [] rest
    else
      let bare := s.takeWhile isBare
      if bare.isEmpty then none else some (String.ofList bare, s.drop bare.length)
  | [] => none

/-- Names between dots, with blanks around them. -/
def names? (fuel : Nat) (s : List Char) : Option (List String × List Char) :=
  match fuel with
  | 0 => none
  | fuel + 1 => do
    let (name, rest) ← name? (skipSpaces s)
    match skipSpaces rest with
    | '.' :: rest =>
      let (names, rest) ← names? fuel rest
      some (name :: names, rest)
    | rest => some ([name], rest)

/-! ## Numbers -/

/-- Digits with single underscores between them, without the underscores. -/
def digits? (isDigit : Char → Bool) (s : List Char) : Option (List Char) :=
  let groups := piecesBetween (· == '_') s
  if groups.all fun g => !g.isEmpty && g.all isDigit then some groups.flatten else none

/-- An integer of the range that settings have. -/
def ofInteger? (i : Int) : Option Setting :=
  if Setting.isInteger i then some (.integer i) else none

def ofBase? (base : Nat) (s : List Char) : Option Setting := do
  let digits ← digits? (fun c => (Json.hexValue? c).any (· < base)) s
  ofInteger? ((digits.foldl (fun n c => n * base + (Json.hexValue? c).getD 0) 0 : Nat) : Int)

/-- Decimal digits without needless zeros before them. -/
def decimal? (s : List Char) : Option (List Char) :=
  (digits? Char.isDigit s).filter fun digits => digits.head? != some '0' || digits.length == 1

/-- A float: decimal digits, then a fraction, an exponent or both. -/
def float? (negative : Bool) (s : List Char) : Option Setting := do
  let isMark (c : Char) : Bool := c == 'e' || c == 'E'
  let mantissa := s.takeWhile fun c => !isMark c
  let whole := mantissa.takeWhile (· != '.')
  let wholeDigits ← decimal? whole
  let fraction ←
    match mantissa.drop whole.length with
    | [] => some []
    | _ :: rest => digits? Char.isDigit rest
  let exponent : Int ←
    match s.drop mantissa.length with
    | [] => some 0
    | _ :: rest =>
      let (below, rest) := Numeral.afterSign rest
      (digits? Char.isDigit rest).map fun digits =>
        if below then -(Numeral.digitsValue digits : Int) else Numeral.digitsValue digits
  let x ← Double.nearestDecimal? negative (Numeral.digitsValue (wholeDigits ++ fraction))
    (exponent - fraction.length)
  some (.number (.finite x))

def word? (s : List Char) : Option Setting :=
  let (negative, rest) := Numeral.afterSign s
  match String.ofList s with
  | "true" => some (.flag true)
  | "false" => some (.flag false)
  | _ =>
    match String.ofList rest with
    | "inf" => some (.number (.infinite negative))
    | "nan" => some (.number .notANumber)
    | _ =>
      match s with
      | '0' :: 'x' :: digits => ofBase? 16 digits
      | '0' :: 'o' :: digits => ofBase? 8 digits
      | '0' :: 'b' :: digits => ofBase? 2 digits
      | _ =>
        match decimal? rest with
        | some digits =>
          let n := Numeral.digitsValue digits
          ofInteger? (if negative then -(n : Int) else n)
        | none => float? negative rest

def isWordChar (c : Char) : Bool := isBare c || c == '+' || c == '.'

/-! ## Values -/

mutual

def value? (fuel : Nat) (s : List Char) : Option (Setting × List Char) :=
  match fuel with
  | 0 => none
  | fuel + 1 =>
    match s with
    | '[' :: rest => (items? fuel rest).map fun (items, rest) => (.list items, rest)
    | '{' :: rest =>
      match skipSpaces rest with
      | '}' :: rest => some (.table [], rest)
      | rest =>
        (members? fuel [] rest).map fun (entries, rest) => (.table (entrySettings entries), rest)
    | c :: rest =>
      if c = '"' ∨ c = '\x27' then (string? (c :: rest)).map fun (t, rest) => (.text t, rest)
      else
        let word := (c :: rest).takeWhile isWordChar
        (word? word).map fun setting => (setting, (c :: rest).drop word.length)
    | [] => none

/-- The items of an array up to its end; the last one may have a comma after it. -/
def items? (fuel : Nat) (s : List Char) : Option (List Setting × List Char) :=
  match fuel with
  | 0 => none
  | fuel + 1 => do
    match ← skipLines (s.length + 1) s with
    | ']' :: rest => some ([], rest)
    | s =>
      let (item, rest) ← value? fuel s
      match ← skipLines (rest.length + 1) rest with
      | ',' :: rest =>
        let (items, rest) ← items? fuel rest
        some (item :: items, rest)
      | ']' :: rest => some ([item], rest)
      | _ => none

/-- The members of an inline table up to its end. -/
def members? (fuel : Nat) (entries : Dict Node) (s : List Char) :
    Option (Dict Node × List Char) :=
  match fuel with
  | 0 => none
  | fuel + 1 => do
    let (names, rest) ← names? (s.length + 1) s
    match skipSpaces rest with
    | '=' :: rest =>
      let (value, rest) ← value? fuel (skipSpaces rest)
      let entries ← addDotted names value .headed entries
      match skipSpaces rest with
      | ',' :: rest => members? fuel entries rest
      | '}' :: rest => some (entries, rest)
      | _ => none
    | _ => none

end

/-! ## Documents -/

/-- The lines of a document from a place on; `header` names the table they are in. -/
def document? (fuel : Nat) (header : List String) (root : Dict Node) (s : List Char) :
    Option (Dict Node) :=
  match fuel with
  | 0 => none
  | fuel + 1 => do
    match ← skipLines (s.length + 1) s with
    | [] => some root
    | '[' :: '[' :: rest =>
      let (names, rest) ← names? (rest.length + 1) rest
      match rest with
      | ']' :: ']' :: rest =>
        let root ← addRow names root
        document? fuel names root (← lineEnd? rest)
      | _ => none
    | '[' :: rest =>
      let (names, rest) ← names? (rest.length + 1) rest
      match rest with
      | ']' :: rest =>
        let root ← addHeader names root
        document? fuel names root (← lineEnd? rest)
      | _ => none
    | s =>
      let (names, rest) ← names? (s.length + 1) s
      match rest with
      | '=' :: rest =>
        let (value, rest) ← value? (2 * rest.length + 2) (skipSpaces rest)
        let root ← change false (addDotted names value) .headed root header
        document? fuel header root (← lineEnd? rest)
      | _ => none

def parse? (text : String) : Option (Dict Setting) :=
  let s := text.toList
  (document? (s.length + 1) [] [] s).map entrySettings

end Toml

end StudySession

import StudySession.Json
import StudySession.Number.Decimal

/-!
# Reading documents

`Json.parse?` reads one document and nothing after it. A number without point and exponent is an
integer where it fits the range `-2^63 .. 2^64-1`; `-0` and everything else is a float, and a float
too large for a double is refused. Of an object's fields under one key the last one counts.
Documents nest at most 127 deep.
-/

namespace StudySession

namespace Json

def isBlank (c : Char) : Bool := c == ' ' || c == '\n' || c == '\t' || c == '\r'

def skipBlanks (s : List Char) : List Char := s.dropWhile isBlank

/-- The rest of a text after a word it starts with. -/
def afterWord? : List Char → List Char → Option (List Char)
  | [], s => some s
  | c :: word, d :: s => if c = d then afterWord? word s else none
  | _ :: _, [] => none

def digitValue (c : Char) : Nat := c.toNat - '0'.toNat

/-- The value of a hexadecimal digit of either case. -/
def hexValue? (c : Char) : Option Nat :=
  if '0' ≤ c ∧ c ≤ '9' then some (c.toNat - '0'.toNat)
  else if 'a' ≤ c ∧ c ≤ 'f' then some (c.toNat - 'a'.toNat + 10)
  else if 'A' ≤ c ∧ c ≤ 'F' then some (c.toNat - 'A'.toNat + 10)
  else none

def fourHex? : List Char → Option (Nat × List Char)
  | a :: b :: c :: d :: rest => do
    let a ← hexValue? a
    let b ← hexValue? b
    let c ← hexValue? c
    let d ← hexValue? d
    some (((a * 16 + b) * 16 + c) * 16 + d, rest)
  | _ => none

/-- The character of an escape, after the backslash. The two halves of a character beyond the
basic plane come as two escapes; a half alone is refused. -/
def escaped? : List Char → Option (Char × List Char)
  | '"' :: rest => some ('"', rest)
  | '\\' :: rest => some ('\\', rest)
  | '/' :: rest => some ('/', rest)
  | 'b' :: rest => some (Char.ofNat 8, rest)
  | 'f' :: rest => some (Char.ofNat 12, rest)
  | 'n' :: rest => some ('\n', rest)
  | 'r' :: rest => some ('\r', rest)
  | 't' :: rest => some ('\t', rest)
  | 'u' :: rest => do
    let (high, rest) ← fourHex? rest
    if 0xD800 ≤ high ∧ high < 0xDC00 then
      let rest ← afterWord? ['\\', 'u'] rest
      let (low, rest) ← fourHex? rest
      if 0xDC00 ≤ low ∧ low < 0xE000 then
        some (Char.ofNat (0x10000 + (high - 0xD800) * 0x400 + (low - 0xDC00)), rest)
      else none
    else if 0xDC00 ≤ high ∧ high < 0xE000 then none
    else some (Char.ofNat high, rest)
  | _ => none

/-- The rest of a string after its opening quote, its characters gathered in reverse. Control
characters have to be escaped. -/
def string? (fuel : Nat) (gathered : List Char) (s : List Char) : Option (String × List Char) :=
  match fuel, s with
  | fuel + 1, c :: rest =>
    if c = '"' then some (String.ofList gathered.reverse, rest)
    else if c = '\\' then
      match escaped? rest with
      | some (d, rest) => string? fuel (d :: gathered) rest
      | none => none
    else if c.toNat < 32 then none
    else string? fuel (c :: gathered) rest
  | _, _ => none

/-- Takes digits into a number as long as it stays below `2^64`; the digits left over. -/
def gatherDigits (n : Nat) : List Char → Nat × List Char
  | [] => (n, [])
  | c :: rest =>
    if n * 10 + digitValue c < Nat.pow 2 64 then gatherDigits (n * 10 + digitValue c) rest
    else (n, c :: rest)

/-- An exponent after its mark: a sign or none, and at least one digit. -/
def exponent? (s : List Char) : Option (Int × List Char) :=
  let (negative, s) :=
    match s with
    | '+' :: rest => (false, rest)
    | '-' :: rest => (true, rest)
    | s => (false, s)
  let digits := s.takeWhile Char.isDigit
  if digits.isEmpty then none
  else
    let n := digits.foldl (fun n c => n * 10 + digitValue c) 0
    some (if negative then -(n : Int) else n, s.drop digits.length)

/-- An integer that fits the range, or else the double nearest to it. -/
def ofDigits (negative : Bool) (n : Nat) : Json :=
  if negative then
    if 0 < n ∧ n ≤ Nat.pow 2 63 then .int (-(n : Int))
    else .float { Double.ofNat n with negative := true }
  else .int n

def unsigned? (negative : Bool) (s : List Char) : Option (Json × List Char) := do
  let whole := s.takeWhile Char.isDigit
  let rest := s.drop whole.length
  if whole.isEmpty || (whole.head? == some '0' && whole.length != 1) then none
  else
    let (n, surplus) := gatherDigits 0 whole
    let (n, places, isFloat, rest) ←
      match rest with
      | '.' :: tail =>
        let fraction := tail.takeWhile Char.isDigit
        if fraction.isEmpty then none
        else
          let (m, left) := gatherDigits n fraction
          let taken : Int := fraction.length - left.length
          some (m, (surplus.length : Int) - taken, true, tail.drop fraction.length)
      | rest => some (n, (surplus.length : Int), !surplus.isEmpty, rest)
    let (places, isFloat, rest) ←
      match rest with
      | c :: tail =>
        if c = 'e' ∨ c = 'E' then (exponent? tail).map fun (e, rest) => (places + e, true, rest)
        else some (places, isFloat, rest)
      | [] => some (places, isFloat, rest)
    if isFloat then
      let x ← Double.ofDecimal? negative n places
      some (.float x, rest)
    else some (ofDigits negative n, rest)

/-- A value that holds no others. -/
def scalar? (s : List Char) : Option (Json × List Char) :=
  match s with
  | '"' :: rest => (string? (rest.length + 1) [] rest).map fun (t, rest) => (.str t, rest)
  | '-' :: rest => unsigned? true rest
  | 'n' :: rest => (afterWord? ['u', 'l', 'l'] rest).map (Json.null, ·)
  | 't' :: rest => (afterWord? ['r', 'u', 'e'] rest).map (Json.bool true, ·)
  | 'f' :: rest => (afterWord? ['a', 'l', 's', 'e'] rest).map (Json.bool false, ·)
  | s => unsigned? false s

mutual

/-- A value after its blanks; `room` bounds the nesting and `fuel` the recursion, of which each
call takes a character. -/
def value? (fuel room : Nat) (s : List Char) : Option (Json × List Char) :=
  match fuel with
  | 0 => none
  | fuel + 1 =>
    match skipBlanks s with
    | '[' :: rest =>
      if room ≤ 1 then none
      else
        match skipBlanks rest with
        | ']' :: rest => some (.arr [], rest)
        | rest => (items? fuel (room - 1) rest).map fun (items, rest) => (.arr items, rest)
    | '{' :: rest =>
      if room ≤ 1 then none
      else
        match skipBlanks rest with
        | '}' :: rest => some (.obj [], rest)
        | rest =>
          (fields? fuel (room - 1) rest).map fun (fields, rest) => (ofFields fields, rest)
    | s => scalar? s

def items? (fuel room : Nat) (s : List Char) : Option (List Json × List Char) :=
  match fuel with
  | 0 => none
  | fuel + 1 => do
    let (item, rest) ← value? fuel room s
    match skipBlanks rest with
    | ',' :: rest =>
      let (items, rest) ← items? fuel room rest
      some (item :: items, rest)
    | ']' :: rest => some ([item], rest)
    | _ => none

def fields? (fuel room : Nat) (s : List Char) : Option (List (String × Json) × List Char) :=
  match fuel with
  | 0 => none
  | fuel + 1 =>
    match skipBlanks s with
    | '"' :: rest => do
      let (key, rest) ← string? (rest.length + 1) [] rest
      match skipBlanks rest with
      | ':' :: rest =>
        let (value, rest) ← value? fuel room rest
        match skipBlanks rest with
        | ',' :: rest =>
          let (fields, rest) ← fields? fuel room rest
          some ((key, value) :: fields, rest)
        | '}' :: rest => some ([(key, value)], rest)
        | _ => none
      | _ => none
    | _ => none

end

/-- Reads one document, with blanks around it and nothing else. -/
def parse? (text : String) : Option Json :=
  let s := text.toList
  match value? (2 * s.length + 2) 128 s with
  | some (j, rest) => if (skipBlanks rest).isEmpty then some j else none
  | none => none

/-- The fields of the one object in a text as they are written, those of one key all of them. -/
def parseFields? (text : String) : Option (List (String × Json)) :=
  let s := text.toList
  match skipBlanks s with
  | '{' :: rest =>
    match skipBlanks rest with
    | '}' :: rest => if (skipBlanks rest).isEmpty then some [] else none
    | rest =>
      match fields? (2 * s.length + 2) 127 rest with
      | some (fields, rest) => if (skipBlanks rest).isEmpty then some fields else none
      | none => none
  | _ => none

end Json

end StudySession

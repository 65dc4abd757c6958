/-!
# Instants of the calendar

A `Timestamp` is an instant of universal time. `Timestamp.text` writes it as date, `T`, time and
`Z`, with the fewest of no, three, six or nine decimals that are exact; `Timestamp.ofText?` reads a
date, a separator, a time and an offset from universal time, and tolerates blanks between their
parts.
-/

namespace StudySession

/-- An instant of universal time. -/
structure Timestamp where
  seconds : Int
  /-- Nanoseconds after that; a leap second has a thousand million more of them. -/
  nanoseconds : Nat
  deriving DecidableEq, Repr

namespace Timestamp

def isLeapYear (year : Int) : Bool := year % 4 == 0 && (year % 100 != 0 || year % 400 == 0)

def daysIn (year : Int) (month : Nat) : Nat :=
  if month = 2 then if isLeapYear year then 29 else 28
  else if month = 4 ∨ month = 6 ∨ month = 9 ∨ month = 11 then 30
  else 31

/-- The days from the start of 1970 to a date. The year is taken to start in March, so that the leap
day is its last. -/
def daysOfDate (year : Int) (month day : Nat) : Int :=
  let year := if month ≤ 2 then year - 1 else year
  let monthsOn : Int := if month ≤ 2 then month + 9 else month - 3
  365 * year + year / 4 - year / 100 + year / 400 + (153 * monthsOn + 2) / 5 + day - 1 - 719468

/-- The date that is a number of days after the start of 1970. -/
def dateOfDays (days : Int) : Int × Nat × Nat :=
  let days := days + 719468
  let era := days / 146097
  let dayOfEra := days % 146097
  let yearOfEra := (dayOfEra - dayOfEra / 1460 + dayOfEra / 36524 - dayOfEra / 146096) / 365
  let dayOfYear := dayOfEra - (365 * yearOfEra + yearOfEra / 4 - yearOfEra / 100)
  let monthsOn := (5 * dayOfYear + 2) / 153
  let day := dayOfYear - (153 * monthsOn + 2) / 5 + 1
  let month := if monthsOn < 10 then monthsOn + 3 else monthsOn - 9
  let year := yearOfEra + era * 400
  (if month ≤ 2 then year + 1 else year, month.toNat, day.toNat)

def padded (width n : Nat) : String :=
  let digits := Nat.toDigits 10 n
  String.ofList (List.replicate (width - digits.length) '0' ++ digits)

/-- A year: four digits, and a sign where it has more or is negative. -/
def yearText (year : Int) : String :=
  if 0 ≤ year ∧ year ≤ 9999 then padded 4 year.toNat
  else (if year < 0 then "-" else "+") ++ padded 4 year.natAbs

def fractionText (nanoseconds : Nat) : String :=
  if nanoseconds = 0 then ""
  else if nanoseconds % 1000000 = 0 then "." ++ padded 3 (nanoseconds / 1000000)
  else if nanoseconds % 1000 = 0 then "." ++ padded 6 (nanoseconds / 1000)
  else "." ++ padded 9 nanoseconds

def text (t : Timestamp) : String :=
  let (year, month, day) := dateOfDays (t.seconds / 86400)
  let time := (t.seconds % 86400).toNat
  let leap := t.nanoseconds / 1000000000
  yearText year ++ "-" ++ padded 2 month ++ "-" ++ padded 2 day ++ "T" ++
    padded 2 (time / 3600) ++ ":" ++ padded 2 (time / 60 % 60) ++ ":" ++
    padded 2 (time % 60 + leap) ++ fractionText (t.nanoseconds % 1000000000) ++ "Z"

def isSpace (c : Char) : Bool :=
  let n := c.toNat
  (9 ≤ n && n ≤ 13) || n == 32 || n == 0x85 || n == 0xA0 || n == 0x1680 ||
    (0x2000 ≤ n && n ≤ 0x200A) || n == 0x2028 || n == 0x2029 || n == 0x202F || n == 0x205F ||
    n == 0x3000

/-- The number that decimal digits write. -/
def ofDigits (digits : List Char) : Nat :=
  digits.foldl (fun n c => n * 10 + (c.toNat - '0'.toNat)) 0

/-- A number of at least one digit and at most `most`, after blanks. -/
def number? (most : Nat) (s : List Char) : Option (Nat × List Char) :=
  let s := s.dropWhile isSpace
  let digits := (s.take most).takeWhile Char.isDigit
  if digits.isEmpty then none else some (ofDigits digits, s.drop digits.length)

def mark? (c : Char) (s : List Char) : Option (List Char) :=
  match s.dropWhile isSpace with
  | d :: rest => if c = d then some rest else none
  | [] => none

/-- A year: up to four digits, or any number of them after a sign. -/
def year? (s : List Char) : Option (Int × List Char) :=
  match s.dropWhile isSpace with
  | '-' :: rest =>
    match rest with
    | c :: _ =>
      if c.isDigit then (number? rest.length rest).map fun (n, rest) => (-(n : Int), rest)
      else none
    | [] => none
  | '+' :: rest =>
    match rest with
    | c :: _ =>
      if c.isDigit then (number? rest.length rest).map fun (n, rest) => ((n : Int), rest)
      else none
    | [] => none
  | s => (number? 4 s).map fun (n, rest) => ((n : Int), rest)

/-- The decimals of a second, if there are any; those beyond the ninth do not count. -/
def fraction? : List Char → Option (Nat × List Char)
  | '.' :: s =>
    let digits := s.takeWhile Char.isDigit
    let counted := digits.take 9
    if digits.isEmpty then none
    else some (ofDigits counted * Nat.pow 10 (9 - counted.length), s.drop digits.length)
  | s => some (0, s)

/-- An offset from universal time, in seconds: `Z`, `UTC`, or a sign, hours and minutes. -/
def offset? (s : List Char) : Option (Int × List Char) :=
  let twoDigits? (s : List Char) : Option (Nat × List Char) :=
    match s with
    | a :: b :: rest => if a.isDigit && b.isDigit then some (ofDigits [a, b], rest) else none
    | _ => none
  let hoursMinutes? (negative : Bool) (s : List Char) : Option (Int × List Char) := do
    let (hours, s) ← twoDigits? s
    let (minutes, s) ← twoDigits? (s.dropWhile fun c => c == ':' || isSpace c)
    if 60 ≤ minutes then none
    else
      let seconds : Int := hours * 3600 + minutes * 60
      some (if negative then -seconds else seconds, s)
  match s with
  | 'Z' :: rest | 'z' :: rest => some (0, rest)
  | '+' :: rest => hoursMinutes? false rest
  | '-' :: rest | '\u2212' :: rest => hoursMinutes? true rest
  | a :: b :: c :: rest =>
    if [a.toUpper, b.toUpper, c.toUpper] = ['U', 'T', 'C'] then some (0, rest) else none
  | _ => none

/-- The years that instants may fall in. -/
def yearInRange (year : Int) : Bool := decide (-262143 ≤ year ∧ year ≤ 262142)

def ofText? (s : String) : Option Timestamp := do
  let s := s.toList
  let (year, s) ← year? s
  let s ← mark? '-' s
  let (month, s) ← number? 2 s
  let s ← mark? '-' s
  let (day, s) ← number? 2 s
  let s ←
    match s with
    | 'T' :: rest | 't' :: rest | ' ' :: rest => some rest
    | _ => none
  let (hour, s) ← number? 2 s
  let s ← mark? ':' s
  let (minute, s) ← number? 2 s
  let s ← mark? ':' s
  let (second, s) ← number? 2 s
  let (fraction, s) ← fraction? s
  let (offset, s) ← offset? (s.dropWhile isSpace)
  if yearInRange year ∧ 1 ≤ month ∧ month ≤ 12 ∧ 1 ≤ day ∧ day ≤ daysIn year month ∧ hour ≤ 23 ∧
      minute ≤ 59 ∧ second ≤ 60 ∧ offset.natAbs < 86400 ∧ (s.dropWhile isSpace).isEmpty then
    let leap := if second = 60 then 1 else 0
    some
      { seconds :=
          daysOfDate year month day * 86400 + (hour * 3600 + minute * 60 + (second - leap) : Nat) -
            offset
        nanoseconds := fraction + leap * 1000000000 }
  else none

end Timestamp

end StudySession

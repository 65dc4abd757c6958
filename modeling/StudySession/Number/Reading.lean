import StudySession.Number.Decimal

/-!
# Reading numbers

`Numeral.ofText?` reads a number in decimal notation, an infinity or a text that says there is no
number, and rounds once. `Double.nearestDecimal?` is the rounding: it never writes out a power of
ten that lies far beyond the range of doubles.
-/

namespace StudySession

/-- The double nearest to `±digits · 10^exponent`; `none` beyond the greatest one. -/
def Double.nearestDecimal? (negative : Bool) (digits : Nat) (exponent : Int) : Option Double :=
  let top := exponent + digitCount digits
  if digits = 0 ∨ top < -400 then some (.zero negative)
  else if 400 < top then none
  else if exponent < 0 then Double.nearest? negative digits (Nat.pow 10 (-exponent).toNat)
  else Double.nearest? negative (digits * Nat.pow 10 exponent.toNat) 1

/-- A double, an infinity or no number at all. -/
inductive Numeral where
  | finite (x : Double)
  | infinite (negative : Bool)
  | notANumber
  deriving DecidableEq, Repr

namespace Numeral

/-- The number `±digits · 10^exponent`, an infinity if it is too large. -/
def ofDecimal (negative : Bool) (digits : Nat) (exponent : Int) : Numeral :=
  (Double.nearestDecimal? negative digits exponent).elim (infinite negative) finite

def digitsValue (s : List Char) : Nat := s.foldl (fun n c => n * 10 + (c.toNat - '0'.toNat)) 0

/-- The text after a sign, and whether that is a minus. -/
def afterSign (s : List Char) : Bool × List Char :=
  match s with
  | '+' :: rest => (false, rest)
  | '-' :: rest => (true, rest)
  | rest => (false, rest)

/-- The exponent in a text that is empty or begins with its mark. -/
def exponent? (s : List Char) : Option Int :=
  match s with
  | [] => some 0
  | c :: rest =>
    let (negative, digits) := afterSign rest
    if (c = 'e' ∨ c = 'E') ∧ !digits.isEmpty ∧ digits.all Char.isDigit then
      some (if negative then -(digitsValue digits : Int) else digitsValue digits)
    else none

/-- Reads digits, with a point and an exponent or without; there is a digit before the exponent. -/
def unsigned? (negative : Bool) (s : List Char) : Option Numeral := do
  let whole := s.takeWhile Char.isDigit
  let rest := s.drop whole.length
  let fraction :=
    match rest with
    | '.' :: rest => rest.takeWhile Char.isDigit
    | _ => []
  let rest :=
    match rest with
    | '.' :: rest => rest.drop fraction.length
    | rest => rest
  if whole.isEmpty && fraction.isEmpty then none
  else
    let exponent ← exponent? rest
    some (ofDecimal negative (digitsValue (whole ++ fraction)) (exponent - fraction.length))

/-- Reads a number: a sign or none, and then digits, `inf`, `infinity` or `nan` in any case. -/
def ofText? (s : String) : Option Numeral :=
  let (negative, rest) := afterSign s.toList
  match (String.ofList rest).toLower with
  | "inf" => some (infinite negative)
  | "infinity" => some (infinite negative)
  | "nan" => some notANumber
  | _ => unsigned? negative rest

/-- Positional text: no exponent, and no point in a whole number. -/
def positional : Numeral → String
  | finite x => x.positional
  | infinite negative => if negative then "-inf" else "inf"
  | notANumber => "NaN"

def isNonzero : Numeral → Bool
  | finite x => x.significand != 0
  | _ => true

/-- The nearest whole number between `0` and `2^64-1`; a half is rounded up. -/
def toNat64 : Numeral → Nat
  | finite x =>
    if x.negative then 0
    else
      let (num, den) := Double.inMultiples x.significand 1 (-x.exponent)
      min ((2 * num + den) / (2 * den)) (Nat.pow 2 64 - 1)
  | infinite negative => if negative then 0 else Nat.pow 2 64 - 1
  | notANumber => 0

end Numeral

/-- Reads an integer in decimal digits with a sign or none. -/
def integer? (s : String) : Option Int :=
  let (negative, digits) := Numeral.afterSign s.toList
  if digits.isEmpty || !digits.all Char.isDigit then none
  else some (if negative then -(Numeral.digitsValue digits : Int) else Numeral.digitsValue digits)

/-- Reads an integer from `0` on below a bound; a plus may stand before it. -/
def naturalBelow? (bound : Nat) (s : String) : Option Nat :=
  match s.toList with
  | '-' :: _ => none
  | _ => (integer? s).bind fun i => if i < bound then some i.toNat else none

end StudySession

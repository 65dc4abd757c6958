import StudySession.Number.Double

/-!
# Decimal text of binary64 numbers

`Decimal.shortest` chooses the digits: the fewest that lie in the interval of reals which round to
the double, and of those the nearest to it. `Double.text` and `Double.positional` lay them out: the
first is the notation of documents, which turns to an exponent for very large and very small
values and always shows that the number is not an integer; the second never uses an exponent.
`Double.ofDecimal?` reads digits and a power of ten.
-/

namespace StudySession

/-- `digits · 10^exponent`. -/
structure Decimal where
  digits : Nat
  exponent : Int
  deriving DecidableEq, Repr

/-- The number of decimal digits of a positive number. -/
def digitCount (n : Nat) : Nat := (Nat.toDigits 10 n).length

namespace Decimal

/-- Drops trailing zeros; `fuel` bounds their number. -/
def trim (fuel : Nat) (d : Decimal) : Decimal :=
  match fuel with
  | 0 => d
  | fuel + 1 =>
    if d.digits ≠ 0 ∧ d.digits % 10 = 0 then trim fuel ⟨d.digits / 10, d.exponent + 1⟩ else d

/-- The power of ten just above `num / den`: the `p` with `10^(p-1) ≤ num / den < 10^p`. -/
def decade (num den : Nat) : Int :=
  if den ≤ num then digitCount (num / den)
  else 1 - (digitCount ((den + num - 1) / num - 1) : Int)

/-- `num / den` in multiples of `10^exponent`, as a quotient of natural numbers. -/
def inMultiples (num den : Nat) (exponent : Int) : Nat × Nat :=
  if exponent < 0 then (num * Nat.pow 10 (-exponent).toNat, den)
  else (num, den * Nat.pow 10 exponent.toNat)

/-- The interval of reals that round to a positive double: its two ends and the double itself,
over a common denominator, and whether the ends belong to it. -/
structure Interval where
  lower : Nat
  value : Nat
  upper : Nat
  den : Nat
  /-- Both ends round to the double: its significand is even. -/
  closed : Bool

/-- The rounding interval of a positive double. The gap below a power of two is half as wide. -/
def Interval.of (x : Double) : Interval :=
  let narrow := x.significand = Nat.pow 2 52 ∧ Double.leastExponent < x.exponent
  let e := x.exponent - 2
  let factor := if e < 0 then 1 else Nat.pow 2 e.toNat
  { lower := (4 * x.significand - (if narrow then 1 else 2)) * factor
    value := 4 * x.significand * factor
    upper := (4 * x.significand + 2) * factor
    den := if e < 0 then Nat.pow 2 (-e).toNat else 1
    closed := x.significand % 2 == 0 }

/-- Whether `d · 10^exponent` lies in the interval. -/
def Interval.holds (i : Interval) (d : Nat) (exponent : Int) : Bool :=
  let (lo, den) := inMultiples i.lower i.den exponent
  let (hi, _) := inMultiples i.upper i.den exponent
  if i.closed then decide (lo ≤ d * den ∧ d * den ≤ hi)
  else decide (lo < d * den ∧ d * den < hi)

/-- The point of the grid of `10^exponent` in the interval that is nearest to the double, if one
is; only the double's two neighbours on the grid can be it. -/
def Interval.gridPoint? (i : Interval) (exponent : Int) : Option Nat :=
  let (num, den) := inMultiples i.value i.den exponent
  let floor := num / den
  let nearest := roundHalfEven num den
  let other := if nearest = floor then floor + 1 else floor
  if i.holds nearest exponent then some nearest
  else if i.holds other exponent then some other
  else none

/-- The first grid of at least `count` digits that has a point in the interval. -/
def Interval.search (i : Interval) (top : Int) (count : Nat) : Nat → Decimal
  | 0 => ⟨i.value / i.den, 0⟩
  | fuel + 1 =>
    match i.gridPoint? (top - count) with
    | some d => ⟨d, top - count⟩
    | none => i.search top (count + 1) fuel

/-- The shortest decimal that rounds to a double's magnitude; seventeen digits always suffice. -/
def shortest (x : Double) : Decimal :=
  if x.significand = 0 then ⟨0, 0⟩
  else
    let i := Interval.of x
    trim 400 (i.search (decade i.value i.den) 1 17)

end Decimal

namespace Double

private def zeros (count : Nat) : String := String.ofList (List.replicate count '0')

/-- The digits of a decimal with the point in its place and no exponent; a whole number has no
point. -/
private def pointed (d : Decimal) : String :=
  let digits := Nat.toDigits 10 d.digits
  if 0 ≤ d.exponent then String.ofList digits ++ zeros d.exponent.toNat
  else
    let fraction := (-d.exponent).toNat
    if fraction < digits.length then
      String.ofList (digits.take (digits.length - fraction)) ++ "." ++
        String.ofList (digits.drop (digits.length - fraction))
    else "0." ++ zeros (fraction - digits.length) ++ String.ofList digits

/-- Positional text: no exponent, and no point in a whole number. -/
def positional (x : Double) : String :=
  (if x.negative then "-" else "") ++ pointed (Decimal.shortest x)

/-- The text of a number in a document: positional from `10^-5` up to `10^16`, with `.0` after a
whole number, and else one digit before the point and an exponent. -/
def text (x : Double) : String :=
  let d := Decimal.shortest x
  let digits := Nat.toDigits 10 d.digits
  let top := d.exponent + digits.length
  let body :=
    if d.digits = 0 then "0.0"
    else if 0 ≤ d.exponent ∧ top ≤ 16 then pointed d ++ ".0"
    else if -5 < top ∧ top ≤ 16 then pointed d
    else
      String.ofList (digits.take 1) ++
        (if digits.length = 1 then "" else "." ++ String.ofList (digits.drop 1)) ++
        "e" ++ toString (top - 1)
  (if x.negative then "-" else "") ++ body

/-- The double nearest to a power of ten up to `10^308`. -/
def powerOfTen (n : Nat) : Double := ofNat (Nat.pow 10 n)

/-- Divides by `10^308` until at most that many places are left, then by the rest. -/
private def shrink (x : Double) : Nat → Nat → Double
  | 0, _ => x
  | fuel + 1, places =>
    if x.significand = 0 then x
    else if places ≤ 308 then (x.div? (powerOfTen places)).getD x
    else shrink ((x.div? (powerOfTen 308)).getD x) fuel (places - 308)

/-- `±digits · 10^exponent`, read in two rounded steps: the digits to a double, and that times or
over the double nearest to the power of ten. `none` if the number is too large. -/
def ofDecimal? (negative : Bool) (digits : Nat) (exponent : Int) : Option Double :=
  let start := ofNat digits
  let magnitude :=
    if exponent < 0 then some (shrink start 8 (-exponent).toNat)
    else if exponent ≤ 308 then start.mul? (powerOfTen exponent.toNat)
    else if digits = 0 then some start
    else none
  magnitude.map fun x => { x with negative }

end Double

end StudySession

/-!
# Finite binary64 numbers

A `Double` is `±significand · 2^exponent`, kept as data so that every statement about weights or
about the numbers of a document is a statement about integers. Infinities and NaN do not occur: a
document cannot hold them, and an operation whose exact result is out of range says so.

`units` is the exact value in multiples of the least positive double, `2^-1074`. Comparison and
addition go through it, and every operation rounds its exact result once, by `nearest?`.
-/

namespace StudySession

/-- The integer nearest to `num / den`; a tie goes to the even neighbour. -/
def roundHalfEven (num den : Nat) : Nat :=
  let quotient := num / den
  let twice := 2 * (num % den)
  if twice < den then quotient
  else if den < twice then quotient + 1
  else quotient + quotient % 2

/-- A finite binary64 number, `±significand · 2^exponent`. -/
structure Double where
  negative : Bool
  /-- Less than `2^53`, and at least `2^52` unless the exponent is the least one. -/
  significand : Nat
  exponent : Int
  deriving DecidableEq, Repr, Inhabited

namespace Double

/-- The exponent of the least positive double. -/
def leastExponent : Int := -1074

/-- The greatest exponent of a finite double. -/
def greatestExponent : Int := 971

def zero (negative : Bool) : Double := ⟨negative, 0, leastExponent⟩

def greatest (negative : Bool) : Double := ⟨negative, Nat.pow 2 53 - 1, greatestExponent⟩

/-- `num / den` in multiples of `2^exponent`, again as a quotient of natural numbers. -/
def inMultiples (num den : Nat) (exponent : Int) : Nat × Nat :=
  if exponent < 0 then (num * Nat.pow 2 (-exponent).toNat, den)
  else (num, den * Nat.pow 2 exponent.toNat)

/-- The exponent whose multiples keep 53 bits of `num / den`, or the least one. -/
def exponentFor (num den : Nat) : Int :=
  let guess := max leastExponent ((num.log2 : Int) - (den.log2 : Int) - 53)
  let scaled := inMultiples num den guess
  if Nat.pow 2 53 ≤ scaled.1 / scaled.2 then guess + 1 else guess

/-- The double nearest to `±num / den`, a tie going to the even significand; `none` where that
lies beyond the greatest double. -/
def nearest? (negative : Bool) (num den : Nat) : Option Double :=
  if num = 0 then some (zero negative)
  else
    let exponent := exponentFor num den
    let scaled := inMultiples num den exponent
    let significand := roundHalfEven scaled.1 scaled.2
    let rounded : Double :=
      if significand = Nat.pow 2 53 then ⟨negative, Nat.pow 2 52, exponent + 1⟩
      else ⟨negative, significand, exponent⟩
    if greatestExponent < rounded.exponent then none else some rounded

/-- The double nearest to a natural number below `2^1023`. -/
def ofNat (n : Nat) : Double := (nearest? false n 1).getD (greatest false)

def ofInt : Int → Double
  | .ofNat n => ofNat n
  | .negSucc n => { ofNat (n + 1) with negative := true }

/-- The magnitude in multiples of the least positive double. -/
def magnitude (x : Double) : Nat := x.significand * Nat.pow 2 (x.exponent - leastExponent).toNat

/-- The value in multiples of the least positive double; both zeros give `0`. -/
def units (x : Double) : Int := if x.negative then -(x.magnitude : Int) else x.magnitude

/-- Equality of values: the two zeros are equal. -/
def eqv (x y : Double) : Bool := x.units == y.units

/-- Order of values. -/
def le (x y : Double) : Bool := decide (x.units ≤ y.units)

def lt (x y : Double) : Bool := decide (x.units < y.units)

def neg (x : Double) : Double := { x with negative := !x.negative }

def ofUnits? (n : Int) : Option Double := nearest? (decide (n < 0)) n.natAbs (Nat.pow 2 1074)

/-- The rounded sum; a sum beyond the greatest double stays there. -/
def add (x y : Double) : Double :=
  (ofUnits? (x.units + y.units)).getD (greatest (decide (x.units + y.units < 0)))

def scaled? (negative : Bool) (num den : Nat) (exponent : Int) : Option Double :=
  let scaled := inMultiples num den (-exponent)
  nearest? negative scaled.1 scaled.2

def mul? (x y : Double) : Option Double :=
  scaled? (x.negative != y.negative) (x.significand * y.significand) 1 (x.exponent + y.exponent)

/-- The rounded quotient, for a divisor that is not zero. -/
def div? (x y : Double) : Option Double :=
  scaled? (x.negative != y.negative) x.significand y.significand (x.exponent - y.exponent)

/-- The next smaller double of a positive one. -/
def below (x : Double) : Double :=
  if x.significand = Nat.pow 2 52 ∧ leastExponent < x.exponent then
    { x with significand := Nat.pow 2 53 - 1, exponent := x.exponent - 1 }
  else { x with significand := x.significand - 1 }

end Double

end StudySession

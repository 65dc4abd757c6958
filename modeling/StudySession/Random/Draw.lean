import StudySession.Random.Generator
import StudySession.Number.Double

/-!
# Draws

What is drawn from a `Generator`: a number below a bound, a shuffled list, an index with given
weights. Each draw answers with the generator after it.
-/

namespace StudySession

/-- The width of the words a draw is made from. -/
inductive WordSize where
  | word32
  | word64
  deriving DecidableEq, Repr

namespace WordSize

def bits : WordSize → Nat
  | word32 => 32
  | word64 => 64

end WordSize

namespace Generator

def next (g : Generator) : WordSize → Nat × Generator
  | .word32 => g.next32
  | .word64 => g.next64

/-- The greatest low half that a draw below `n` accepts, so that every result is equally likely. -/
def zone (n : Nat) (size : WordSize) : Nat := n * Nat.pow 2 (size.bits - 1 - n.log2) - 1

/-- Multiplies words by the bound until the low half of a product is accepted; the high half is
the result. More than half of all words are accepted, and after `tries` of them the result is `0`.
-/
def belowWithin (g : Generator) (n : Nat) (size : WordSize) : Nat → Nat × Generator
  | 0 => (0, g)
  | tries + 1 =>
    let (word, g) := g.next size
    if word * n % Nat.pow 2 size.bits ≤ zone n size then (word * n / Nat.pow 2 size.bits, g)
    else belowWithin g n size tries

/-- A number below `n`. It takes a word even when `n = 1`. -/
def below (g : Generator) (n : Nat) (size : WordSize) : Nat × Generator := belowWithin g n size 4096

/-- Exchanges each place from `last` down to the second with a random place not above it. -/
def shuffleDown {α : Type} (g : Generator) (xs : Array α) : Nat → Array α × Generator
  | 0 => (xs, g)
  | last + 1 =>
    let (other, g) := g.below (last + 2) .word32
    shuffleDown g (xs.swapIfInBounds (last + 1) other) last

/-- A random order of a list. A list of one item or none takes no word. -/
def shuffle {α : Type} (g : Generator) (xs : List α) : List α × Generator :=
  let (shuffled, g) := shuffleDown g xs.toArray (xs.length - 1)
  (shuffled.toList, g)

/-- The sums of the first one, two, … weights, after a sum so far. -/
def prefixSums (sum : Double) : List Double → List Double
  | [] => []
  | w :: ws => sum.add w :: prefixSums (sum.add w) ws

/-- The factor by which a fraction below one is scaled to stay below a total: the total, or the
double below it where the greatest fraction would round up to it. -/
def scaleFor (total : Double) : Double :=
  match Double.mul? total ⟨false, Nat.pow 2 53 - 2, -53⟩ with
  | some top => if top.lt total then total else total.below
  | none => total

/-- A random number at least zero and below a positive total. -/
def upTo (g : Generator) (total : Double) : Double × Generator :=
  let (word, g) := g.next64
  let fraction := (Double.nearest? false (word / Nat.pow 2 12) (Nat.pow 2 52)).getD (.zero false)
  (((scaleFor total).mul? fraction).getD (.zero false), g)

/-- The index that a number below the total of the weights falls on: how many prefix sums, the
total apart, do not exceed it. -/
def indexAt (weights : List Double) (v : Double) : Nat :=
  ((prefixSums (.zero false) weights).dropLast.filter (·.le v)).length

/-- A random index, each as likely as its weight says; `none` if no weight is positive. -/
def weighted? (g : Generator) (weights : List Double) : Option (Nat × Generator) :=
  match (prefixSums (.zero false) weights).getLast? with
  | none => none
  | some total =>
    if total.significand = 0 then none
    else
      let (v, g) := g.upTo total
      some (indexAt weights v, g)

end Generator

end StudySession

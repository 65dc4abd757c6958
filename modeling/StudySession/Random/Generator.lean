/-!
# The random generator

A `Generator` is a key and a position in the stream of 32-bit words that the key names: the output
blocks of the ChaCha stream cipher with twelve rounds, block after block. A seed of 64 bits is
stretched to the key by eight steps of a permuted congruential generator. Drawing only moves the
position, so a generator in hand says which words are spent.
-/

namespace StudySession

/-- A position in the word stream of a key. -/
structure Generator where
  key : Vector UInt32 8
  position : Nat
  deriving DecidableEq, Repr

def rotateLeft (x : UInt32) (n : UInt32) : UInt32 := (x <<< n) ||| (x >>> (32 - n))

namespace Generator

abbrev Block := Vector UInt32 16

def quarterRound (s : Block) (a b c d : Fin 16) : Block :=
  let a₁ := s[a] + s[b]
  let d₁ := rotateLeft (s[d] ^^^ a₁) 16
  let c₁ := s[c] + d₁
  let b₁ := rotateLeft (s[b] ^^^ c₁) 12
  let a₂ := a₁ + b₁
  let d₂ := rotateLeft (d₁ ^^^ a₂) 8
  let c₂ := c₁ + d₂
  let b₂ := rotateLeft (b₁ ^^^ c₂) 7
  (((s.set a a₂).set b b₂).set c c₂).set d d₂

/-- The four columns, then the four diagonals. -/
def doubleRound (s : Block) : Block :=
  let s := quarterRound s 0 4 8 12
  let s := quarterRound s 1 5 9 13
  let s := quarterRound s 2 6 10 14
  let s := quarterRound s 3 7 11 15
  let s := quarterRound s 0 5 10 15
  let s := quarterRound s 1 6 11 12
  let s := quarterRound s 2 7 8 13
  quarterRound s 3 4 9 14

/-- The input of a block: four constant words, the key, the block's number and a zero nonce. -/
def blockInput (key : Vector UInt32 8) (number : Nat) : Block :=
  #v[0x61707865, 0x3320646e, 0x79622d32, 0x6b206574,
    key[0], key[1], key[2], key[3], key[4], key[5], key[6], key[7],
    UInt32.ofNat number, UInt32.ofNat (number / Nat.pow 2 32), 0, 0]

/-- An output block: six double rounds, and the input added to the result. -/
def block (key : Vector UInt32 8) (number : Nat) : Block :=
  let input := blockInput key number
  let mixed :=
    (doubleRound ∘ doubleRound ∘ doubleRound ∘ doubleRound ∘ doubleRound ∘ doubleRound) input
  Vector.zipWith (· + ·) mixed input

def wordAt (key : Vector UInt32 8) (position : Nat) : UInt32 :=
  (block key (position / 16)).get ⟨position % 16, Nat.mod_lt _ (by decide)⟩

/-- One step of the seed's stretching: the next state. -/
def stretch (state : UInt64) : UInt64 := state * 6364136223846793005 + 11634580027462260723

/-- The key word of a stretched state: its high bits folded and rotated by its top five bits. -/
def keyWord (state : UInt64) : UInt32 :=
  let x := (((state >>> 18) ^^^ state) >>> 27).toUInt32
  let turn := (state >>> 59).toUInt32
  (x >>> turn) ||| (x <<< ((32 - turn) % 32))

/-- The first `n` states after a state. -/
def stretched (state : UInt64) : Nat → List UInt64
  | 0 => []
  | n + 1 => stretch state :: stretched (stretch state) n

def ofSeed (seed : Nat) : Generator where
  key := Vector.ofFn fun i => keyWord ((stretched (UInt64.ofNat seed) 8).getD i 0)
  position := 0

def next32 (g : Generator) : Nat × Generator :=
  ((wordAt g.key g.position).toNat, { g with position := g.position + 1 })

/-- The next two words, the first of them the low half. -/
def next64 (g : Generator) : Nat × Generator :=
  ((wordAt g.key g.position).toNat + Nat.pow 2 32 * (wordAt g.key (g.position + 1)).toNat,
    { g with position := g.position + 2 })

end Generator

end StudySession

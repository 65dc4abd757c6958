import StudySession.Json.Printer

/-!
# Tags of part bodies

The in-memory store answers a part with a tag of its body: the SipHash of the body's length and
bytes under the zero key, with one round for each word and three to finish, as sixteen hexadecimal
digits in quotes.
-/

namespace StudySession

/-- The four words of a hash under way. -/
structure SipState where
  v0 : UInt64
  v1 : UInt64
  v2 : UInt64
  v3 : UInt64

namespace SipState

/-- The state of the zero key. -/
def start : SipState :=
  ⟨0x736f6d6570736575, 0x646f72616e646f6d, 0x6c7967656e657261, 0x7465646279746573⟩

def rotate (x n : UInt64) : UInt64 := (x <<< n) ||| (x >>> (64 - n))

def round (s : SipState) : SipState :=
  let a := s.v0 + s.v1
  let b := rotate s.v1 13 ^^^ a
  let a := rotate a 32
  let c := s.v2 + s.v3
  let d := rotate s.v3 16 ^^^ c
  let a := a + d
  let d := rotate d 21 ^^^ a
  let c := c + b
  let b := rotate b 17 ^^^ c
  ⟨a, b, rotate c 32, d⟩

def absorb (s : SipState) (word : UInt64) : SipState :=
  let s := round { s with v3 := s.v3 ^^^ word }
  { s with v0 := s.v0 ^^^ word }

def finish (s : SipState) : UInt64 :=
  let s := round (round (round { s with v2 := s.v2 ^^^ 0xff }))
  s.v0 ^^^ s.v1 ^^^ s.v2 ^^^ s.v3

end SipState

namespace Tag

/-- The byte at a place, zero beyond the end. -/
def byteAt (body : ByteArray) (i : Nat) : UInt64 :=
  if h : i < body.size then (body.get i h).toUInt64 else 0

/-- Eight bytes from a place on, the first of them lowest. -/
def wordAt (body : ByteArray) (i : Nat) : UInt64 :=
  byteAt body i ||| (byteAt body (i + 1) <<< 8) ||| (byteAt body (i + 2) <<< 16) |||
    (byteAt body (i + 3) <<< 24) ||| (byteAt body (i + 4) <<< 32) |||
    (byteAt body (i + 5) <<< 40) ||| (byteAt body (i + 6) <<< 48) |||
    (byteAt body (i + 7) <<< 56)

/-- The hash of a body: its length as a word, its bytes in words, and the count of all these bytes
on top of the last word. -/
def hash (body : ByteArray) : UInt64 :=
  let start := SipState.start.absorb (UInt64.ofNat body.size)
  let state := Nat.fold (body.size / 8) (fun i _ s => s.absorb (wordAt body (8 * i))) start
  let last := wordAt body (8 * (body.size / 8))
  (state.absorb (last ||| (UInt64.ofNat (body.size + 8) <<< 56))).finish

def hex (x : UInt64) : String :=
  String.ofList ((List.range 16).map fun i => hexDigit (x.toNat / Nat.pow 16 (15 - i)))

def ofBody (body : ByteArray) : String := "\"" ++ hex (hash body) ++ "\""

end Tag

end StudySession

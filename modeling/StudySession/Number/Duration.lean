/-!
# Durations

A span of time in whole nanoseconds, at most `2^64` seconds less one nanosecond; operations stop at
that bound. `Duration.text` is the short text for messages: the largest unit that the span reaches,
and as many decimals as it needs.
-/

namespace StudySession

/-- A span of time. -/
structure Duration where
  nanoseconds : Nat
  deriving DecidableEq, Repr

namespace Duration

/-- The longest span. -/
def longest : Duration := ⟨Nat.pow 2 64 * 1000000000 - 1⟩

/-- A number of milliseconds. -/
def ofMilliseconds (n : Nat) : Duration := ⟨n * 1000000⟩

/-- A multiple of a span, or the longest one. -/
def times (d : Duration) (n : Nat) : Duration := ⟨min (d.nanoseconds * n) longest.nanoseconds⟩

def seconds (d : Duration) : Nat := d.nanoseconds / 1000000000

def subseconds (d : Duration) : Nat := d.nanoseconds % 1000000000

/-- The span in milliseconds, a part of one counting as a whole. -/
def milliseconds (d : Duration) : Nat := (d.nanoseconds + 999999) / 1000000

/-- A whole number and the decimals of a fraction of `10^places`, without trailing zeros. -/
def decimalText (whole fraction places : Nat) : String :=
  let digits := Nat.toDigits 10 fraction
  let padded := List.replicate (places - digits.length) '0' ++ digits
  let shown := (padded.reverse.dropWhile (· == '0')).reverse
  toString whole ++ (if fraction = 0 then "" else "." ++ String.ofList shown)

def text (d : Duration) : String :=
  if 1000000000 ≤ d.nanoseconds then decimalText d.seconds d.subseconds 9 ++ "s"
  else if 1000000 ≤ d.nanoseconds then
    decimalText (d.nanoseconds / 1000000) (d.nanoseconds % 1000000) 6 ++ "ms"
  else if 1000 ≤ d.nanoseconds then
    decimalText (d.nanoseconds / 1000) (d.nanoseconds % 1000) 3 ++ "µs"
  else toString d.nanoseconds ++ "ns"

end Duration

end StudySession

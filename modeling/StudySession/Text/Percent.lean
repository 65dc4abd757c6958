/-!
# Percent-encoding

A byte that may not stand for itself is written `%` and two hexadecimal digits. Characters are
encoded byte by byte in UTF-8. Which characters stand for themselves is up to the place the text is
for, so it is a parameter.
-/

namespace StudySession

namespace Percent

/-- The upper-case hexadecimal digit of a number below sixteen. -/
def hexDigit (n : Nat) : Char := (Nat.digitChar (n % 16)).toUpper

def ofByte (b : UInt8) : List Char := ['%', hexDigit (b.toNat / 16), hexDigit b.toNat]

def ofChar (c : Char) : List Char := (String.singleton c).toUTF8.toList.flatMap ofByte

/-- A text with every character encoded that may not stand for itself. -/
def encode (plain : Char → Bool) (s : List Char) : List Char :=
  s.flatMap fun c => if plain c then [c] else ofChar c

def isAlphanumeric (c : Char) : Bool := c.isAlpha || c.isDigit

/-- The characters that stand for themselves in a form, the blank apart. -/
def isFormPlain (c : Char) : Bool :=
  isAlphanumeric c || c == '*' || c == '-' || c == '.' || c == '_'

/-- The name or value of a form: a blank is written `+`. -/
def formEncode (s : List Char) : List Char :=
  s.flatMap fun c => if c = ' ' then ['+'] else if isFormPlain c then [c] else ofChar c

def form (pairs : List (String × String)) : String :=
  "&".intercalate (pairs.map fun pair =>
    String.ofList (formEncode pair.1.toList ++ '=' :: formEncode pair.2.toList))

/-- The value of a hexadecimal digit of either case. -/
def digitValue? (c : Char) : Option Nat :=
  if c.isDigit then some (c.toNat - '0'.toNat)
  else if 'a' ≤ c ∧ c ≤ 'f' then some (c.toNat - 'a'.toNat + 10)
  else if 'A' ≤ c ∧ c ≤ 'F' then some (c.toNat - 'A'.toNat + 10)
  else none

/-- The codes of a text's characters, an encoded byte giving its value. A `%` that no two digits
follow stands for itself. -/
def codes : List Char → List Nat
  | '%' :: a :: b :: rest =>
    match digitValue? a, digitValue? b with
    | some x, some y => (16 * x + y) :: codes rest
    | _, _ => '%'.toNat :: codes (a :: b :: rest)
  | c :: rest => c.toNat :: codes rest
  | [] => []

end Percent

end StudySession

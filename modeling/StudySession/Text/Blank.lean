/-!
# Blanks

`isBlankChar` is the Unicode property `White_Space`, and `trimBlanks` drops such characters at both
ends of a text.
-/

namespace StudySession

/-- The code points of the property `White_Space`, as ranges with both ends, in order. -/
def blankRanges : List (Nat × Nat) :=
  [(0x09, 0x0D), (0x20, 0x20), (0x85, 0x85), (0xA0, 0xA0), (0x1680, 0x1680), (0x2000, 0x200A),
   (0x2028, 0x2029), (0x202F, 0x202F), (0x205F, 0x205F), (0x3000, 0x3000)]

def isBlankChar (c : Char) : Bool :=
  blankRanges.any fun range => decide (range.1 ≤ c.toNat ∧ c.toNat ≤ range.2)

/-- A text without what a test holds of at both of its ends. -/
def trimEnds (drop : Char → Bool) (s : List Char) : List Char :=
  ((s.dropWhile drop).reverse.dropWhile drop).reverse

/-- A text without the blanks at both of its ends. -/
def trimBlanks (s : String) : String := String.ofList (trimEnds isBlankChar s.toList)

def piecesBetween (isSeparator : Char → Bool) (s : List Char) : List (List Char) :=
  s.foldr (fun c found =>
    match found with
    | piece :: rest => if isSeparator c then [] :: piece :: rest else (c :: piece) :: rest
    | [] => [[c]]) [[]]

/-- The texts between a separator. -/
def textsBetween (separator : Char) (s : String) : List String :=
  (piecesBetween (· == separator) s.toList).map String.ofList

end StudySession

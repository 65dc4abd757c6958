import StudySession.Proofs.Study.Moduli

/-!
# Successors

A condition has a successor where it has every field of a table, in the shape of its modulus, and
the successor has just these fields. Each number goes up by one, round its bound. Previous values
come from documents and need not lie in their ranges, so the sum is what matters: the largest number
that a document can hold leaves no room for it in a word, and is followed by zero whatever the bound
(`Modulus.following`). All others are followed by the number one step on.
-/

namespace StudySession

namespace Modulus

variable {ns : List Nat} {old new : Json}

/-- The number after another round a bound, and zero after the largest one there is. -/
def following (v n : Nat) : Nat := if v + 1 < 2 ^ 64 then (v + 1) % n else 0

end Modulus

namespace Counterbalance

open Modulus

variable {moduli : Dict Modulus} {previous : Json} {fields : Fields}

end Counterbalance

end StudySession

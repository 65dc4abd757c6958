import Mathlib.Algebra.Order.Floor.Div
import StudySession.Proofs.Upload.Gathering
import StudySession.Upload.Stream

/-!
# Pieces of a file

A file is read in pieces of one size, and the pieces gather until they reach another. What comes of
it is pieces again, of the least multiple of the first size that reaches the second
(`Gathering.allBodies_bytePieces`): it does not matter to a part where a chunk ended.
-/

namespace StudySession

variable {body : ByteArray} {size i j k : Nat}

/-! ## Pieces of one size -/

namespace Gathering

/-- What is gathered of the first pieces: bodies of so many pieces each, and fewer pieces than that,
unless the bytes have ended. -/
structure OfPieces (size pieces : Nat) (body : ByteArray) (read : Nat) (g : Gathering)
    (full : Nat) : Prop where
  bodies : g.bodies = (List.range full).map fun i =>
    body.extract (i * (pieces * size)) ((i + 1) * (pieces * size))
  rest : g.rest = body.extract (full * (pieces * size)) (read * size)
  lower : full * pieces ≤ read
  upper : read ≤ (full + 1) * pieces
  ended : read = (full + 1) * pieces → body.size ≤ read * size

variable {part pieces read full : Nat} {g : Gathering}

theorem OfPieces.take (h : OfPieces size pieces body read g full)
    (hreach : ∀ k, pieces ≤ k ↔ part ≤ k * size) (hpieces : 0 < pieces)
    (hmore : read * size < body.size) :
    ∃ full', OfPieces size pieces body (read + 1)
      (g.take part (body.extract (read * size) ((read + 1) * size))) full' := by
  have henough : part ≤ pieces * size := (hreach pieces).1 le_rfl
  have hread : read + 1 ≤ (full + 1) * pieces :=
    Nat.succ_le_of_lt (lt_of_le_of_ne h.upper fun heq => by have := h.ended heq; omega)
  have hnext : (full + 1) * pieces = full * pieces + pieces := Nat.succ_mul _ _
  -- in bytes
  have hstart : full * (pieces * size) = full * pieces * size := (Nat.mul_assoc _ _ _).symm
  have hstop : (full + 1) * (pieces * size) = full * pieces * size + pieces * size := by
    rw [Nat.succ_mul, hstart]
  have hgrown : g.rest ++ body.extract (read * size) ((read + 1) * size) =
      body.extract (full * (pieces * size)) ((read + 1) * size) := by
    rw [h.rest]
    exact (ByteArray.extract_eq_extract_append_extract _
      (hstart ▸ Nat.mul_le_mul_right _ h.lower) (Nat.mul_le_mul_right _ (Nat.le_succ _))).symm
  by_cases hfew : (g.rest ++ body.extract (read * size) ((read + 1) * size)).size < part
  · obtain ⟨hsame, hmoved⟩ := bodies_take_of_lt hfew
    have hlower := h.lower
    refine ⟨full, hsame.trans h.bodies, hmoved.trans hgrown, by omega, hread, fun heq => ?_⟩
    by_contra hlonger
    have hbytes : (read + 1) * size = full * pieces * size + pieces * size := by
      rw [heq, hnext, Nat.add_mul]
    rw [hgrown, ByteArray.size_extract] at hfew
    omega
  · obtain ⟨hadded, hnone⟩ := bodies_take_of_le (Nat.le_of_not_lt hfew)
    have hfull : read + 1 = (full + 1) * pieces := by
      refine le_antisymm hread (Nat.le_of_not_lt fun hlt => ?_)
      -- one piece fewer does not reach the part size
      have hbelow : (pieces - 1) * size < part := Nat.lt_of_not_le fun hle => by
        have := (hreach (pieces - 1)).2 hle
        omega
      have hshort : (read + 1) * size ≤ (full * pieces + (pieces - 1)) * size :=
        Nat.mul_le_mul_right _ (by omega)
      rw [hgrown, ByteArray.size_extract] at hfew
      rw [Nat.add_mul (full * pieces), ← hstart] at hshort
      omega
    have hbytes : (read + 1) * size = (full + 1) * (pieces * size) := by
      rw [hfull, Nat.mul_assoc]
    refine ⟨full + 1, ?_, ?_, hfull.ge, ?_, fun heq => ?_⟩
    · rw [hadded, h.bodies, hgrown, hbytes, List.range_succ, List.map_append, List.map_singleton]
    · rw [hnone, hbytes, ByteArray.extract_same]
    · rw [hfull]
      exact Nat.mul_le_mul_right _ (Nat.le_succ _)
    · rw [hfull, Nat.succ_mul (full + 1)] at heq
      omega

end Gathering

end StudySession

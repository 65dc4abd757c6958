import Mathlib.Algebra.Ring.Nat
import StudySession.Random.Draw

/-!
# What is drawn

A number drawn below a positive bound is below it, whether a word was accepted or the tries ran out.
A shuffled list holds the items of the list, whatever numbers were drawn.
-/

namespace StudySession

namespace Generator

/-- A word fits its size. -/
theorem next_fst_lt (g : Generator) (size : WordSize) : (g.next size).1 < 2 ^ size.bits := by
  cases size with
  | word32 => exact (wordAt g.key g.position).toNat_lt
  | word64 =>
      have low := (wordAt g.key g.position).toNat_lt
      have high := (wordAt g.key (g.position + 1)).toNat_lt
      have hpow : Nat.pow 2 32 = 2 ^ 32 := rfl
      simp only [next, next64, WordSize.bits, hpow]
      omega

theorem belowWithin_fst_lt {n : Nat} (hn : 0 < n) (size : WordSize) (tries : Nat) (g : Generator) :
    (g.belowWithin n size tries).1 < n := by
  induction tries generalizing g with
  | zero => exact hn
  | succ tries ih =>
      rw [belowWithin]
      dsimp only
      split
      · have hword := Nat.mul_lt_mul_of_pos_right (g.next_fst_lt size) hn
        exact Nat.div_lt_of_lt_mul hword
      · exact ih _

/-- A number drawn below a bound is below it. -/
theorem below_fst_lt {n : Nat} (hn : 0 < n) (g : Generator) (size : WordSize) :
    (g.below n size).1 < n :=
  belowWithin_fst_lt hn size 4096 g

/-- Exchanging places loses and doubles nothing. -/
theorem shuffleDown_perm {α : Type} (g : Generator) (xs : Array α) (last : Nat) :
    (g.shuffleDown xs last).1.Perm xs := by
  induction last generalizing g xs with
  | zero => exact .refl xs
  | succ last ih =>
      rw [shuffleDown]
      refine (ih _ _).trans ?_
      unfold Array.swapIfInBounds
      split
      · split
        · exact Array.swap_perm _ _
        · exact .refl xs
      · exact .refl xs

theorem shuffle_perm {α : Type} (g : Generator) (xs : List α) : (g.shuffle xs).1.Perm xs := by
  have h := g.shuffleDown_perm xs.toArray (xs.length - 1)
  exact Array.perm_iff_toList_perm.1 h

end Generator

end StudySession

import Mathlib.Algebra.Order.Ring.Nat
import Mathlib.Tactic.Ring
import StudySession.Number.Double

/-!
# Rounding passes over no double

Every operation on doubles rounds its exact result once, by `Double.nearest?`. In multiples of the
least positive double, the magnitudes of doubles are the numbers `m · 2^j` with `m < 2^53`.
`Double.Rounds` says that such a number bounds the rounded result wherever it bounds the exact one.
So rounding leaves what is a double already as it is, and what holds of the exact results up to a
double holds of the rounded ones: whole numbers below `2^53` are added without an error
(`Double.IsNat.add`), and a product stays below a double that the exact one stays below
(`Double.magnitude_le_of_mul?`).
-/

namespace StudySession

theorem le_roundHalfEven {num den n : Nat} (hden : 0 < den) (h : n * den ≤ num) :
    n ≤ roundHalfEven num den := by
  have hquotient : n ≤ num / den := (Nat.le_div_iff_mul_le hden).2 h
  simp only [roundHalfEven]
  split
  · exact hquotient
  · split <;> omega

theorem roundHalfEven_le {num den n : Nat} (hden : 0 < den) (h : num ≤ n * den) :
    roundHalfEven num den ≤ n := by
  have hquotient : num / den ≤ n := Nat.div_le_of_le_mul (by rwa [Nat.mul_comm] at h)
  simp only [roundHalfEven]
  split
  · exact hquotient
  · next hhalf =>
      -- with a remainder left, the quotient lies below the bound
      have hlt : num / den < n := by
        rw [Nat.div_lt_iff_lt_mul hden]
        refine Nat.lt_of_le_of_ne h ?_
        intro heq
        simp [heq] at hhalf
        omega
      split <;> omega

namespace Double

/-- How far an exponent lies above the least one. -/
def rank (exponent : Int) : Nat := (exponent - leastExponent).toNat

/-- One, in multiples of the least positive double. -/
def unit : Nat := 2 ^ rank 0

theorem magnitude_eq (x : Double) : x.magnitude = x.significand * 2 ^ rank x.exponent := rfl

theorem rank_succ {exponent : Int} (h : leastExponent ≤ exponent) :
    rank (exponent + 1) = rank exponent + 1 := by
  unfold rank
  omega

theorem unit_eq {i j : Nat} (h : i + j = rank 0) : unit = 2 ^ i * 2 ^ j := by
  rw [unit, ← h, Nat.pow_add]

theorem unit_pos : 0 < unit := Nat.two_pow_pos (rank 0)

/-! ## The exponent -/

section Scaling

variable {num den : Nat} {exponent : Int}

theorem inMultiples_snd_pos (num : Nat) (exponent : Int) (hden : 0 < den) :
    0 < (inMultiples num den exponent).2 := by
  unfold inMultiples
  split
  · exact hden
  · exact Nat.mul_pos hden (Nat.two_pow_pos _)

/-- Multiples of a power of two measure the same number. -/
theorem inMultiples_cross (h : leastExponent ≤ exponent) (num den : Nat) :
    (inMultiples num den exponent).1 * (den * 2 ^ rank exponent) =
      num * unit * (inMultiples num den exponent).2 := by
  unfold leastExponent at h
  unfold inMultiples unit
  split
  · have hrank : rank 0 = (-exponent).toNat + rank exponent := by
      unfold rank leastExponent
      omega
    simp only [hrank, Nat.pow_eq, Nat.pow_add]
    ring
  · have hrank : rank exponent = rank 0 + exponent.toNat := by
      unfold rank leastExponent
      omega
    simp only [hrank, Nat.pow_eq, Nat.pow_add]
    ring

theorem le_inMultiples_iff (h : leastExponent ≤ exponent) (hden : 0 < den) {n : Nat} :
    n * (inMultiples num den exponent).2 ≤ (inMultiples num den exponent).1 ↔
      n * (den * 2 ^ rank exponent) ≤ num * unit := by
  have hcross := inMultiples_cross h num den
  have hpos := inMultiples_snd_pos num exponent hden
  have hscale : 0 < den * 2 ^ rank exponent := Nat.mul_pos hden (Nat.two_pow_pos _)
  rw [← Nat.mul_le_mul_right_iff hscale, hcross, Nat.mul_right_comm, Nat.mul_le_mul_right_iff hpos]

theorem inMultiples_le_iff (h : leastExponent ≤ exponent) (hden : 0 < den) {n : Nat} :
    (inMultiples num den exponent).1 ≤ n * (inMultiples num den exponent).2 ↔
      num * unit ≤ n * (den * 2 ^ rank exponent) := by
  have hcross := inMultiples_cross h num den
  have hpos := inMultiples_snd_pos num exponent hden
  have hscale : 0 < den * 2 ^ rank exponent := Nat.mul_pos hden (Nat.two_pow_pos _)
  rw [← Nat.mul_le_mul_right_iff hscale, hcross, Nat.mul_right_comm n, Nat.mul_le_mul_right_iff hpos]

/-- In multiples of `2^exponent` a number has at most 53 bits before the point, and exactly as many
unless the exponent is the least one. -/
structure Scales (num den : Nat) (exponent : Int) : Prop where
  least_le : leastExponent ≤ exponent
  lt : num * unit < 2 ^ 53 * (den * 2 ^ rank exponent)
  le : exponent = leastExponent ∨ 2 ^ 52 * (den * 2 ^ rank exponent) ≤ num * unit

/-- The exponent guessed from the lengths of numerator and denominator is at most one too small. -/
theorem guess_bounds (hnum : num ≠ 0) (hden : den ≠ 0)
    (hguess : exponent = max leastExponent ((num.log2 : Int) - (den.log2 : Int) - 53)) :
    num * unit < 2 ^ 54 * (den * 2 ^ rank exponent) ∧
      (exponent = leastExponent ∨ 2 ^ 52 * (den * 2 ^ rank exponent) ≤ num * unit) := by
  have hnumLow := Nat.log2_self_le hnum
  have hnumHigh := Nat.lt_log2_self (n := num)
  have hdenLow := Nat.log2_self_le hden
  have hdenHigh := Nat.lt_log2_self (n := den)
  constructor
  · calc num * unit
        < 2 ^ (num.log2 + 1) * unit := Nat.mul_lt_mul_of_pos_right hnumHigh unit_pos
      _ = 2 ^ (num.log2 + 1 + rank 0) := (Nat.pow_add ..).symm
      _ ≤ 2 ^ (54 + (den.log2 + rank exponent)) := by
          refine Nat.pow_le_pow_right (by decide) ?_
          unfold rank leastExponent at *
          omega
      _ = 2 ^ 54 * (2 ^ den.log2 * 2 ^ rank exponent) := by rw [Nat.pow_add, Nat.pow_add 2 den.log2]
      _ ≤ 2 ^ 54 * (den * 2 ^ rank exponent) :=
          Nat.mul_le_mul_left _ (Nat.mul_le_mul_right _ hdenLow)
  · by_cases hleast : exponent = leastExponent
    · exact .inl hleast
    · refine .inr ?_
      calc 2 ^ 52 * (den * 2 ^ rank exponent)
          ≤ 2 ^ 52 * (2 ^ (den.log2 + 1) * 2 ^ rank exponent) :=
            Nat.mul_le_mul_left _ (Nat.mul_le_mul_right _ hdenHigh.le)
        _ = 2 ^ (52 + (den.log2 + 1 + rank exponent)) := by rw [← Nat.pow_add, ← Nat.pow_add]
        _ = 2 ^ (num.log2 + rank 0) := by
            congr 1
            unfold rank leastExponent at *
            omega
        _ = 2 ^ num.log2 * unit := Nat.pow_add ..
        _ ≤ num * unit := Nat.mul_le_mul_right _ hnumLow

theorem scales_exponentFor (hnum : num ≠ 0) (hden : den ≠ 0) :
    Scales num den (exponentFor num den) := by
  have hpos : 0 < den := Nat.pos_of_ne_zero hden
  simp only [exponentFor]
  generalize hguess : max leastExponent ((num.log2 : Int) - (den.log2 : Int) - 53) = guess
  have hleast : leastExponent ≤ guess := hguess ▸ Int.le_max_left ..
  obtain ⟨hlt, hle⟩ := guess_bounds hnum hden hguess.symm
  simp only [Nat.le_div_iff_mul_le (inMultiples_snd_pos _ _ hpos), le_inMultiples_iff hleast hpos]
  split
  · next hlarge =>
      have hdouble : den * 2 ^ rank (guess + 1) = 2 * (den * 2 ^ rank guess) := by
        rw [rank_succ hleast, Nat.pow_succ]
        ring
      refine ⟨by omega, ?_, .inr ?_⟩
      · rw [hdouble]
        omega
      · rw [hdouble]
        simp only [Nat.pow_eq] at hlarge
        omega
  · next hsmall => exact ⟨hleast, Nat.lt_of_not_le hsmall, hle⟩

end Scaling

/-! ## Rounding -/

/-- A result of rounding `num / den`, in multiples of the least positive double: what is the
magnitude of a double bounds it wherever it bounds the exact number. -/
structure Rounds (num den : Nat) (r : Double) : Prop where
  least_le : leastExponent ≤ r.exponent
  full : r.exponent = leastExponent ∨ 2 ^ 52 ≤ r.significand
  magnitude_le : ∀ m j, m < 2 ^ 53 → num * unit ≤ m * 2 ^ j * den → r.magnitude ≤ m * 2 ^ j
  le_magnitude : ∀ m j, m < 2 ^ 53 → m * 2 ^ j * den ≤ num * unit → m * 2 ^ j ≤ r.magnitude

/-- A number that is not zero, rounded, whether or not that is in range. -/
def rounded (negative : Bool) (num den : Nat) : Double :=
  let exponent := exponentFor num den
  let scaled := inMultiples num den exponent
  let significand := roundHalfEven scaled.1 scaled.2
  if significand = Nat.pow 2 53 then ⟨negative, Nat.pow 2 52, exponent + 1⟩
  else ⟨negative, significand, exponent⟩

section Rounding

variable {negative : Bool} {num den m j k s : Nat}

theorem nearest?_eq (hnum : num ≠ 0) :
    nearest? negative num den =
      if greatestExponent < (rounded negative num den).exponent then none
      else some (rounded negative num den) :=
  if_neg hnum

/-- A number of multiples of `2^k` that no whole number of them passes over, in a scale that keeps 53
bits, is passed over by no double either. -/
theorem scaled_le_of_le (hden : 0 < den) (hfull : k = 0 ∨ 2 ^ 52 * (den * 2 ^ k) ≤ num * unit)
    (hs : ∀ n, num * unit ≤ n * (den * 2 ^ k) → s ≤ n) (hm : m < 2 ^ 53)
    (h : num * unit ≤ m * 2 ^ j * den) : s * 2 ^ k ≤ m * 2 ^ j := by
  by_cases hjk : k ≤ j
  · have hsplit : m * 2 ^ j = m * 2 ^ (j - k) * 2 ^ k := by
      rw [Nat.mul_assoc, ← Nat.pow_add, Nat.sub_add_cancel hjk]
    rw [hsplit]
    refine Nat.mul_le_mul_right _ (hs _ ?_)
    rw [hsplit] at h
    calc num * unit ≤ m * 2 ^ (j - k) * 2 ^ k * den := h
      _ = m * 2 ^ (j - k) * (den * 2 ^ k) := by ring
  · -- a double with a smaller exponent lies below all that have 53 bits in this scale
    exfalso
    have hlarge := hfull.resolve_left (by omega)
    have hsmall : m * 2 ^ j * den < 2 ^ 52 * (den * 2 ^ k) := by
      calc m * 2 ^ j * den
          < 2 ^ 53 * 2 ^ j * den := by
            exact Nat.mul_lt_mul_of_pos_right
              (Nat.mul_lt_mul_of_pos_right hm (Nat.two_pow_pos j)) hden
        _ = 2 ^ (52 + (j + 1)) * den := by rw [← Nat.pow_add]; congr 2; omega
        _ ≤ 2 ^ (52 + k) * den := by
            exact Nat.mul_le_mul_right _ (Nat.pow_le_pow_right (by decide) (by omega))
        _ = 2 ^ 52 * (den * 2 ^ k) := by rw [Nat.pow_add]; ring
    omega

theorem le_scaled_of_le (hfull : k = 0 ∨ 2 ^ 52 * (den * 2 ^ k) ≤ num * unit)
    (hs : ∀ n, n * (den * 2 ^ k) ≤ num * unit → n ≤ s) (hm : m < 2 ^ 53)
    (h : m * 2 ^ j * den ≤ num * unit) : m * 2 ^ j ≤ s * 2 ^ k := by
  by_cases hjk : k ≤ j
  · have hsplit : m * 2 ^ j = m * 2 ^ (j - k) * 2 ^ k := by
      rw [Nat.mul_assoc, ← Nat.pow_add, Nat.sub_add_cancel hjk]
    rw [hsplit]
    refine Nat.mul_le_mul_right _ (hs _ ?_)
    rw [hsplit] at h
    calc m * 2 ^ (j - k) * (den * 2 ^ k) = m * 2 ^ (j - k) * 2 ^ k * den := by ring
      _ ≤ num * unit := h
  · have hlarge : 2 ^ 52 ≤ s := hs _ (hfull.resolve_left (by omega))
    calc m * 2 ^ j
        ≤ 2 ^ 53 * 2 ^ j := Nat.mul_le_mul_right _ hm.le
      _ = 2 ^ (52 + (j + 1)) := by rw [← Nat.pow_add]; congr 1; omega
      _ ≤ 2 ^ (52 + k) := Nat.pow_le_pow_right (by decide) (by omega)
      _ = 2 ^ 52 * 2 ^ k := Nat.pow_add ..
      _ ≤ s * 2 ^ k := Nat.mul_le_mul_right _ hlarge

theorem rounds_rounded (negative : Bool) (hnum : num ≠ 0) (hden : den ≠ 0) :
    Rounds num den (rounded negative num den) := by
  have hpos : 0 < den := Nat.pos_of_ne_zero hden
  obtain ⟨hleast, -, hfull⟩ := scales_exponentFor hnum hden
  simp only [rounded]
  generalize exponentFor num den = exponent at hleast hfull ⊢
  have hmultiple := inMultiples_snd_pos num exponent hpos
  generalize hs : roundHalfEven (inMultiples num den exponent).1 (inMultiples num den exponent).2 =
    s
  have hupper : ∀ n, num * unit ≤ n * (den * 2 ^ rank exponent) → s ≤ n := fun n hn =>
    hs ▸ roundHalfEven_le hmultiple ((inMultiples_le_iff hleast hpos).2 hn)
  have hlower : ∀ n, n * (den * 2 ^ rank exponent) ≤ num * unit → n ≤ s := fun n hn =>
    hs ▸ le_roundHalfEven hmultiple ((le_inMultiples_iff hleast hpos).2 hn)
  have hfull' : rank exponent = 0 ∨ 2 ^ 52 * (den * 2 ^ rank exponent) ≤ num * unit :=
    hfull.imp_left fun heq => by simp [heq, rank]
  -- with a carry or without, the magnitude is the rounded number of multiples
  suffices h : ∀ r : Double, r.magnitude = s * 2 ^ rank exponent → leastExponent ≤ r.exponent →
      (r.exponent = leastExponent ∨ 2 ^ 52 ≤ r.significand) → Rounds num den r by
    split
    · next hcarry =>
        refine h _ ?_ ?_ (.inr le_rfl)
        · rw [hcarry, magnitude_eq, rank_succ hleast]
          simp only [Nat.pow_eq]
          ring
        · dsimp only
          omega
    · exact h _ rfl hleast (hfull.imp_right (hlower _))
  intro r hmagnitude hr hrfull
  refine ⟨hr, hrfull, fun m j hm hle => ?_, fun m j hm hle => ?_⟩
  · rw [hmagnitude]
    exact scaled_le_of_le hpos hfull' hupper hm hle
  · rw [hmagnitude]
    exact le_scaled_of_le hfull' hlower hm hle

theorem rounds_of_nearest? {r : Double} (hden : den ≠ 0) (h : nearest? negative num den = some r) :
    Rounds num den r ∧ r.negative = negative := by
  by_cases hnum : num = 0
  · subst hnum
    obtain rfl := Option.some.inj h
    have hzero : (zero negative).magnitude = 0 := Nat.zero_mul _
    refine ⟨⟨le_rfl, .inl rfl, fun m j _ _ => by simp [hzero], fun m j _ hle => ?_⟩, rfl⟩
    rw [Nat.zero_mul, Nat.le_zero, Nat.mul_eq_zero] at hle
    rw [hle.resolve_right hden]
    exact Nat.zero_le _
  · rw [nearest?_eq hnum] at h
    split at h
    · cases h
    · obtain rfl := Option.some.inj h
      refine ⟨rounds_rounded _ hnum hden, ?_⟩
      simp only [rounded]
      split <;> rfl

/-- What does not pass beyond a double is in range. -/
theorem exists_nearest? (hden : den ≠ 0) (hm : m < 2 ^ 53) (hj : j ≤ rank greatestExponent)
    (h : num * unit ≤ m * 2 ^ j * den) (negative : Bool) :
    ∃ r, nearest? negative num den = some r := by
  by_cases hnum : num = 0
  · subst hnum
    exact ⟨_, rfl⟩
  · rw [nearest?_eq hnum]
    obtain ⟨-, hfull, hle, -⟩ := rounds_rounded negative hnum hden
    refine ⟨rounded negative num den, if_neg ?_⟩
    intro hout
    -- beyond the greatest exponent the magnitude would exceed every double's
    have hrank : rank greatestExponent + 1 ≤ rank (rounded negative num den).exponent := by
      unfold rank leastExponent greatestExponent at *
      omega
    have hsignificand : 2 ^ 52 ≤ (rounded negative num den).significand := by
      refine hfull.resolve_left ?_
      intro heq
      rw [heq] at hout
      exact absurd hout (by decide)
    have hlt : m * 2 ^ j < (rounded negative num den).magnitude := by
      calc m * 2 ^ j
          < 2 ^ 53 * 2 ^ j := Nat.mul_lt_mul_of_pos_right hm (Nat.two_pow_pos j)
        _ = 2 ^ (52 + (j + 1)) := by rw [← Nat.pow_add]; congr 1; omega
        _ ≤ 2 ^ (52 + rank (rounded negative num den).exponent) :=
            Nat.pow_le_pow_right (by decide) (by omega)
        _ = 2 ^ 52 * 2 ^ rank (rounded negative num den).exponent := Nat.pow_add ..
        _ ≤ (rounded negative num den).magnitude := Nat.mul_le_mul_right _ hsignificand
    exact absurd (hle m j hm h) (Nat.not_le_of_lt hlt)

end Rounding

/-! ## Whole numbers -/

/-- A double is a natural number. -/
def IsNat (x : Double) (n : Nat) : Prop := x.units = (n * unit : Nat)

variable {x y r : Double} {a b n : Nat}

theorem units_of_nonnegative (h : x.negative = false) : x.units = x.magnitude := by
  simp [units, h]

theorem isNat_zero (negative : Bool) : (zero negative).IsNat 0 := by
  have hzero : (zero negative).magnitude = 0 := Nat.zero_mul _
  simp [IsNat, units, hzero]

/-- A whole number below `2^53` is rounded to itself. -/
theorem exists_isNat {num den : Nat} (hden : den ≠ 0) (hn : n < 2 ^ 53)
    (h : num * unit = n * unit * den) : ∃ r, nearest? false num den = some r ∧ r.IsNat n := by
  obtain ⟨r, hr⟩ := exists_nearest? hden hn (by decide) h.le false
  obtain ⟨hrounds, hnegative⟩ := rounds_of_nearest? hden hr
  refine ⟨r, hr, ?_⟩
  rw [IsNat, units_of_nonnegative hnegative]
  exact congrArg _ (Nat.le_antisymm (hrounds.magnitude_le n _ hn h.le)
    (hrounds.le_magnitude n _ hn h.ge))

theorem isNat_ofNat (hn : n < 2 ^ 53) : (ofNat n).IsNat n := by
  have hone : n * unit = n * unit * 1 := (Nat.mul_one _).symm
  obtain ⟨r, hr, hisNat⟩ := exists_isNat Nat.one_ne_zero hn hone
  simpa [ofNat, hr] using hisNat

theorem ofUnits?_eq (n : Int) : ofUnits? n = nearest? (decide (n < 0)) n.natAbs unit := by
  have hrank : 1074 = rank 0 := rfl
  simp only [ofUnits?, hrank, Nat.pow_eq, unit]

theorem IsNat.add (hx : x.IsNat a) (hy : y.IsNat b) (hsum : a + b < 2 ^ 53) :
    (x.add y).IsNat (a + b) := by
  have hunits : x.units + y.units = ((a + b) * unit : Nat) := by
    rw [hx, hy, Nat.add_mul]
    rfl
  have hsame : (a + b) * unit * unit = (a + b) * unit * unit := rfl
  obtain ⟨r, hr, hisNat⟩ := exists_isNat unit_pos.ne' hsum hsame
  have hadd : x.add y = r := by
    simp only [Double.add, ofUnits?_eq, hunits, Int.natAbs_natCast]
    rw [decide_eq_false (Int.not_lt.2 (Int.natCast_nonneg _)), hr]
    rfl
  rwa [hadd]

theorem least_le_add (x y : Double) : leastExponent ≤ (x.add y).exponent := by
  simp only [Double.add, ofUnits?_eq]
  cases h : nearest? (decide (x.units + y.units < 0)) (x.units + y.units).natAbs unit with
  | none => exact (by decide : leastExponent ≤ greatestExponent)
  | some r => exact (rounds_of_nearest? unit_pos.ne' h).1.least_le

/-! ## Products -/

theorem scaled_mul (hx : leastExponent ≤ x.exponent) (hy : leastExponent ≤ y.exponent) :
    (inMultiples (x.significand * y.significand) 1 (-(x.exponent + y.exponent))).1 *
        (unit * unit) =
      x.magnitude * y.magnitude *
        (inMultiples (x.significand * y.significand) 1 (-(x.exponent + y.exponent))).2 := by
  unfold inMultiples unit
  rw [magnitude_eq, magnitude_eq]
  split
  · have hranks : rank x.exponent + rank y.exponent =
        (- -(x.exponent + y.exponent)).toNat + (rank 0 + rank 0) := by
      unfold rank leastExponent at *
      omega
    calc _ = x.significand * y.significand *
          2 ^ ((- -(x.exponent + y.exponent)).toNat + (rank 0 + rank 0)) := by
            simp only [Nat.pow_eq, Nat.pow_add]
            ring
      _ = _ := by
            rw [← hranks, Nat.pow_add]
            ring
  · have hranks : rank 0 + rank 0 =
        rank x.exponent + rank y.exponent + (-(x.exponent + y.exponent)).toNat := by
      unfold rank leastExponent at *
      omega
    rw [← Nat.pow_add, hranks]
    simp only [Nat.pow_eq, Nat.pow_add]
    ring

section

variable (hx : leastExponent ≤ x.exponent) (hy : leastExponent ≤ y.exponent)
  (h : x.mul? y = some r)

include h in
theorem negative_of_mul? : r.negative = (x.negative != y.negative) :=
  (rounds_of_nearest? (inMultiples_snd_pos _ _ Nat.one_pos).ne' h).2

include hx hy h in
/-- A product stays at or below a double that the exact product does not exceed. -/
theorem magnitude_le_of_mul? {m j : Nat} (hm : m < 2 ^ 53)
    (hle : x.magnitude * y.magnitude ≤ m * 2 ^ j * unit) : r.magnitude ≤ m * 2 ^ j := by
  have hcross := scaled_mul hx hy
  have hden : 0 < (inMultiples (x.significand * y.significand) 1 (-(x.exponent + y.exponent))).2 :=
    inMultiples_snd_pos _ _ Nat.one_pos
  obtain ⟨hrounds, -⟩ := rounds_of_nearest? hden.ne' h
  refine hrounds.magnitude_le m j hm ?_
  generalize inMultiples (x.significand * y.significand) 1 (-(x.exponent + y.exponent)) = scaled
    at hcross
  refine Nat.le_of_mul_le_mul_right ?_ unit_pos
  calc scaled.1 * unit * unit
      = x.magnitude * y.magnitude * scaled.2 := by rw [← hcross, Nat.mul_assoc]
    _ ≤ m * 2 ^ j * unit * scaled.2 := Nat.mul_le_mul_right _ hle
    _ = m * 2 ^ j * scaled.2 * unit := Nat.mul_right_comm ..

end

end Double

end StudySession

import Mathlib.Algebra.BigOperators.Group.List.Basic
import StudySession.Proofs.Number.Rounding
import StudySession.Proofs.Random.Draw

/-!
# Draws by weight

An index drawn by weight is the number of prefix sums, the total apart, that a number below the
total does not fall short of. Where the weights are whole numbers and the total is below `2^53`, no
prefix sum is rounded. So the number drawn lies between two neighbouring sums that differ, and the
weight between them is positive (`Generator.positive_at_indexAt`), whether zeros stand in front,
between or behind. That what `Generator.upTo` draws is below the total, for all its rounding, is
`Generator.upTo_lt`.
-/

namespace StudySession

open Double (IsNat leastExponent rank unit)

namespace Generator

variable {weights : List Double} {ns : List Nat} {sum total v : Double} {c n : Nat}

/-! ## Prefix sums -/

/-- The sums do not decrease. -/
theorem le_of_mem_prefixSums (hsum : sum.IsNat c) (hweights : List.Forall₂ IsNat weights ns)
    (hfits : c + ns.sum < 2 ^ 53) {s : Double} (hs : s ∈ prefixSums sum weights) :
    ((c * unit : Nat) : Int) ≤ s.units := by
  induction hweights generalizing sum c with
  | nil => simp [prefixSums] at hs
  | @cons w n ws ns hw _ ih =>
      simp only [List.sum_cons] at hfits
      have hadd : (sum.add w).IsNat (c + n) := hsum.add hw (by omega)
      have hmono : ((c * unit : Nat) : Int) ≤ ((c + n) * unit : Nat) :=
        Int.ofNat_le.2 (Nat.mul_le_mul_right _ (Nat.le_add_right c n))
      simp only [prefixSums, List.mem_cons] at hs
      rcases hs with rfl | hs
      · rw [hadd]
        exact hmono
      · exact hmono.trans (ih hadd (by omega) hs)

/-- The last sum is the total. -/
theorem getLast?_prefixSums (hsum : sum.IsNat c) (hweights : List.Forall₂ IsNat weights ns)
    (hne : ns ≠ []) (hfits : c + ns.sum < 2 ^ 53) :
    ∃ total, (prefixSums sum weights).getLast? = some total ∧ total.IsNat (c + ns.sum) ∧
      leastExponent ≤ total.exponent := by
  induction hweights generalizing sum c with
  | nil => exact absurd rfl hne
  | @cons w n ws ns hw hws ih =>
      simp only [List.sum_cons] at hfits
      have hadd : (sum.add w).IsNat (c + n) := hsum.add hw (by omega)
      cases hws with
      | nil =>
          refine ⟨sum.add w, rfl, ?_, Double.least_le_add sum w⟩
          simpa using hadd
      | cons hw' hws' =>
          obtain ⟨total, hlast, hnat, hleast⟩ := ih hadd (by simp) (by omega)
          refine ⟨total, ?_, ?_, hleast⟩
          · rw [prefixSums, prefixSums, List.getLast?_cons_cons]
            exact hlast
          · rwa [List.sum_cons, ← Nat.add_assoc]

/-- A number from the sum so far up to the total falls on a weight that is not zero. -/
theorem positive_at_count (hsum : sum.IsNat c) (hweights : List.Forall₂ IsNat weights ns)
    (hfits : c + ns.sum < 2 ^ 53) (hlow : ((c * unit : Nat) : Int) ≤ v.units)
    (hhigh : v.units < ((c + ns.sum) * unit : Nat)) :
    ∃ n, ns[((prefixSums sum weights).dropLast.filter (·.le v)).length]? = some n ∧ 0 < n := by
  induction hweights generalizing sum c with
  | nil =>
      simp only [List.sum_nil, Nat.add_zero] at hhigh
      omega
  | @cons w n ws ns hw hws ih =>
      simp only [List.sum_cons] at hfits hhigh
      have hadd : (sum.add w).IsNat (c + n) := hsum.add hw (by omega)
      rw [prefixSums]
      by_cases hv : (((c + n) * unit : Nat) : Int) ≤ v.units
      · -- the number lies beyond this weight, so there are weights after it
        have hne : prefixSums (sum.add w) ws ≠ [] := by
          intro hnil
          cases hws with
          | nil =>
              simp only [List.sum_nil, Nat.add_zero] at hhigh
              omega
          | cons _ _ => simp [prefixSums] at hnil
        have hle : (sum.add w).le v = true := by
          rw [Double.le, decide_eq_true_eq, hadd]
          exact hv
        rw [List.dropLast_cons_of_ne_nil hne, List.filter_cons, if_pos hle, List.length_cons,
          List.getElem?_cons_succ]
        refine ih hadd (by omega) hv ?_
        rwa [Nat.add_assoc]
      · -- no later sum is reached either
        have hnone : ((sum.add w :: prefixSums (sum.add w) ws).dropLast.filter (·.le v)) = [] := by
          refine List.filter_eq_nil_iff.2 fun s hs => ?_
          have hs' : (((c + n) * unit : Nat) : Int) ≤ s.units := by
            rcases List.mem_cons.1 (List.dropLast_subset _ hs) with rfl | hs
            · rw [hadd]
            · exact le_of_mem_prefixSums hadd hws (by omega) hs
          rw [Double.le, decide_eq_true_eq]
          omega
        refine ⟨n, by rw [hnone]; rfl, Nat.pos_of_ne_zero ?_⟩
        rintro rfl
        exact hv hlow

/-- The index that a number below the total falls on has a positive weight. -/
theorem positive_at_indexAt (hweights : List.Forall₂ IsNat weights ns) (hfits : ns.sum < 2 ^ 53)
    (hlow : 0 ≤ v.units) (hhigh : v.units < (ns.sum * unit : Nat)) :
    ∃ n, ns[indexAt weights v]? = some n ∧ 0 < n := by
  refine positive_at_count (Double.isNat_zero false) hweights ?_ ?_ ?_
  · rwa [Nat.zero_add]
  · rwa [Nat.zero_mul]
  · rwa [Nat.zero_add]

/-! ## The number drawn -/

/-- What a random fraction is scaled by is at most the total. -/
theorem scaleFor_le (hsign : total.negative = false) (hleast : leastExponent ≤ total.exponent) :
    (scaleFor total).negative = false ∧ leastExponent ≤ (scaleFor total).exponent ∧
      (scaleFor total).magnitude ≤ total.magnitude := by
  have hbelow : total.below.negative = false ∧ leastExponent ≤ total.below.exponent ∧
      total.below.magnitude ≤ total.magnitude := by
    unfold Double.below
    split
    · next hpower =>
        obtain ⟨hsignificand, hlt⟩ := hpower
        refine ⟨hsign, ?_, ?_⟩
        · dsimp only
          omega
        · have hrank : rank total.exponent = rank (total.exponent - 1) + 1 := by
            rw [← Double.rank_succ (by omega), Int.sub_add_cancel]
          rw [Double.magnitude_eq, Double.magnitude_eq, hsignificand, hrank, Nat.pow_succ]
          simp only [Nat.pow_eq]
          omega
    · exact ⟨hsign, hleast, Nat.mul_le_mul_right _ (Nat.sub_le _ _)⟩
  unfold scaleFor
  split
  · split
    · exact ⟨hsign, hleast, le_rfl⟩
    · exact hbelow
  · exact ⟨hsign, hleast, le_rfl⟩

/-- The random fraction is a multiple of `2^-52` below one, and rounded to nothing larger. -/
theorem fraction_le {k : Nat} (hk : k < 2 ^ 52) :
    let fraction := (Double.nearest? false k (Nat.pow 2 52)).getD (.zero false)
    fraction.negative = false ∧ leastExponent ≤ fraction.exponent ∧
      fraction.magnitude * 2 ^ 52 ≤ (2 ^ 52 - 1) * unit := by
  have hunit : unit = 2 ^ rank (-52) * 2 ^ 52 := Double.unit_eq (by decide)
  dsimp only
  cases h : Double.nearest? false k (Nat.pow 2 52) with
  | none =>
      have hzero : (Double.zero false).magnitude = 0 := Nat.zero_mul _
      refine ⟨rfl, le_rfl, ?_⟩
      rw [Option.getD_none, hzero, Nat.zero_mul]
      exact Nat.zero_le _
  | some fraction =>
      obtain ⟨hrounds, hsign⟩ := Double.rounds_of_nearest? (Nat.two_pow_pos 52).ne' h
      refine ⟨hsign, hrounds.least_le, ?_⟩
      have hle : fraction.magnitude ≤ (2 ^ 52 - 1) * 2 ^ rank (-52) := by
        refine hrounds.magnitude_le _ _ (by decide) ?_
        rw [Nat.mul_assoc, ← hunit]
        exact Nat.mul_le_mul_right _ (by omega)
      rw [Option.getD_some, hunit, ← Nat.mul_assoc]
      exact Nat.mul_le_mul_right _ hle

/-- A whole number below `2^53` that is not zero has a significand of 53 bits. -/
theorem exists_significand (hpos : 0 < n) (hfits : n < 2 ^ 53) :
    ∃ m j, n * unit = m * 2 ^ j ∧ 2 ^ 52 ≤ m ∧ m < 2 ^ 53 := by
  have hlog : n.log2 ≤ 52 := Nat.lt_succ_iff.1 ((Nat.log2_lt hpos.ne').2 hfits)
  have hlow := Nat.log2_self_le hpos.ne'
  have hhigh := Nat.lt_log2_self (n := n)
  have hrank : 52 ≤ rank 0 := by decide
  obtain ⟨j, hj⟩ : ∃ j, 52 - n.log2 + j = rank 0 := ⟨rank 0 - (52 - n.log2), by omega⟩
  refine ⟨n * 2 ^ (52 - n.log2), j, by rw [Double.unit_eq hj, Nat.mul_assoc], ?_, ?_⟩
  · calc 2 ^ 52 = 2 ^ n.log2 * 2 ^ (52 - n.log2) := by rw [← Nat.pow_add]; congr 1; omega
      _ ≤ n * 2 ^ (52 - n.log2) := Nat.mul_le_mul_right _ hlow
  · calc n * 2 ^ (52 - n.log2) < 2 ^ (n.log2 + 1) * 2 ^ (52 - n.log2) :=
          Nat.mul_lt_mul_of_pos_right hhigh (Nat.two_pow_pos _)
      _ = 2 ^ 53 := by rw [← Nat.pow_add]; congr 1; omega

/-- Below a whole number there is a double that is less by no more than a share of `2^-52`. -/
theorem exists_before (hpos : 0 < n) (hfits : n < 2 ^ 53) :
    ∃ m j, m < 2 ^ 53 ∧ m * 2 ^ j < n * unit ∧ n * unit * (2 ^ 52 - 1) ≤ m * 2 ^ j * 2 ^ 52 := by
  obtain ⟨m, j, hsplit, hlow, hhigh⟩ := exists_significand hpos hfits
  rw [hsplit]
  clear hsplit
  have hshare : m * (2 ^ 52 - 1) ≤ (m - 1) * 2 ^ 52 := by omega
  refine ⟨m - 1, j, by omega, ?_, ?_⟩
  · exact Nat.mul_lt_mul_of_pos_right (by omega) (Nat.two_pow_pos j)
  · rw [Nat.mul_right_comm, Nat.mul_right_comm (m - 1)]
    exact Nat.mul_le_mul_right _ hshare

/-- The number drawn is not negative and below the total. -/
theorem upTo_lt (htotal : total.IsNat n) (hpos : 0 < n) (hfits : n < 2 ^ 53)
    (hleast : leastExponent ≤ total.exponent) (g : Generator) :
    0 ≤ (g.upTo total).1.units ∧ (g.upTo total).1.units < (n * unit : Nat) := by
  have hunit : 0 < n * unit := Nat.mul_pos hpos Double.unit_pos
  have hsign : total.negative = false := by
    rw [IsNat, Double.units] at htotal
    cases hnegative : total.negative with
    | false => rfl
    | true =>
        rw [if_pos hnegative] at htotal
        omega
  have hmagnitude : total.magnitude = n * unit := by
    rw [IsNat, Double.units_of_nonnegative hsign] at htotal
    exact Int.ofNat_inj.1 htotal
  obtain ⟨hscaleSign, hscaleLeast, hscale⟩ := scaleFor_le hsign hleast
  have hword : g.next64.1 / Nat.pow 2 12 < 2 ^ 52 :=
    Nat.div_lt_of_lt_mul (g.next_fst_lt .word64)
  obtain ⟨hfractionSign, hfractionLeast, hfraction⟩ := fraction_le hword
  simp only [upTo]
  generalize (Double.nearest? false (g.next64.1 / Nat.pow 2 12) (Nat.pow 2 52)).getD (.zero false) =
    fraction at *
  cases hproduct : (scaleFor total).mul? fraction with
  | none =>
      have hzero : (Double.zero false).units = (0 * unit : Nat) := Double.isNat_zero false
      rw [Option.getD_none, hzero, Nat.zero_mul]
      exact ⟨le_rfl, Int.ofNat_lt.2 hunit⟩
  | some v =>
      -- the double before the total bounds the exact product, and so the rounded one
      obtain ⟨m, j, hm, hlt, hshare⟩ := exists_before hpos hfits
      have hle : v.magnitude ≤ m * 2 ^ j := by
        refine Double.magnitude_le_of_mul? hscaleLeast hfractionLeast hproduct hm ?_
        rw [hmagnitude] at hscale
        generalize unit = u at hfraction hscale hshare ⊢
        refine Nat.le_of_mul_le_mul_right ?_ (Nat.two_pow_pos 52)
        calc (scaleFor total).magnitude * fraction.magnitude * 2 ^ 52
            ≤ n * u * ((2 ^ 52 - 1) * u) := by
              rw [Nat.mul_assoc]
              exact Nat.mul_le_mul hscale hfraction
          _ = n * u * (2 ^ 52 - 1) * u := (Nat.mul_assoc ..).symm
          _ ≤ m * 2 ^ j * 2 ^ 52 * u := Nat.mul_le_mul_right _ hshare
          _ = m * 2 ^ j * u * 2 ^ 52 := Nat.mul_right_comm ..
      have hsign : v.negative = false := by
        rw [Double.negative_of_mul? hproduct, hscaleSign, hfractionSign]
        rfl
      rw [Option.getD_some, Double.units_of_nonnegative hsign]
      exact ⟨Int.natCast_nonneg _, Int.ofNat_lt.2 (hle.trans_lt hlt)⟩

/-! ## The index drawn -/

/-- An index that is drawn has a positive weight. -/
theorem weighted?_positive (hweights : List.Forall₂ IsNat weights ns) (hpos : 0 < ns.sum)
    (hfits : ns.sum < 2 ^ 53) (g : Generator) :
    ∃ index g', g.weighted? weights = some (index, g') ∧ ∃ n, ns[index]? = some n ∧ 0 < n := by
  have hne : ns ≠ [] := by
    intro hnil
    simp [hnil] at hpos
  have hfits' : 0 + ns.sum < 2 ^ 53 := by rwa [Nat.zero_add]
  obtain ⟨total, hlast, htotal, hleast⟩ :=
    getLast?_prefixSums (Double.isNat_zero false) hweights hne hfits'
  rw [Nat.zero_add] at htotal
  have hsignificand : total.significand ≠ 0 := by
    intro hzero
    have hunits : total.units = 0 := by simp [Double.units, Double.magnitude, hzero]
    rw [IsNat, hunits] at htotal
    exact (Nat.mul_pos hpos Double.unit_pos).ne (Int.ofNat_inj.1 htotal)
  obtain ⟨hlow, hhigh⟩ := upTo_lt htotal hpos hfits hleast g
  refine ⟨indexAt weights (g.upTo total).1, (g.upTo total).2, ?_,
    positive_at_indexAt hweights hfits hlow hhigh⟩
  rw [weighted?, hlast]
  exact if_neg hsignificand

/-- Where no weight is positive, none is drawn. -/
theorem weighted?_of_sum_eq_zero (hweights : List.Forall₂ IsNat weights ns) (hzero : ns.sum = 0)
    (g : Generator) : g.weighted? weights = none := by
  by_cases hne : ns = []
  · subst hne
    cases hweights
    rfl
  · have hfits : 0 + ns.sum < 2 ^ 53 := by rw [hzero]; decide
    obtain ⟨total, hlast, htotal, -⟩ :=
      getLast?_prefixSums (Double.isNat_zero false) hweights hne hfits
    have hsignificand : total.significand = 0 := by
      rw [hzero, Nat.add_zero, IsNat, Nat.zero_mul] at htotal
      have hmagnitude : total.magnitude = 0 := by
        unfold Double.units at htotal
        split at htotal <;> omega
      exact (Nat.mul_eq_zero.1 hmagnitude).resolve_right (Nat.two_pow_pos _).ne'
    rw [weighted?, hlast]
    exact if_pos hsignificand

end Generator

end StudySession

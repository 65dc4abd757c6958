import Mathlib.Algebra.Ring.Nat
import Mathlib.Order.Bounds.Basic
import Mathlib.Order.MinMax
import StudySession.Upload.Retry

/-!
# The schedule of attempts

Attempts at a call stop at the first outcome that is no failure for a passing reason, or as soon as
there were as many as a policy allows (`RetryPolicy.Stops`). Between two of them the delay doubles,
up to the seventeenth attempt and up to the longest span. `RetryPolicy.scheduled_run` says so of
every policy and every endless sequence of outcomes.

Attempts are counted in words of 32 bits, and a delay is doubled by shifting one.
`RetryPolicy.runInWords?` does that and gives up where a word overflows. It never does.
-/

namespace StudySession

namespace RetryPolicy

variable {α : Type} {policy : RetryPolicy} {outcomes : Nat → Except StoreError α}

/-! ## Where attempts stop -/

/-- A failure for a passing reason. -/
def IsPassing (outcome : Except StoreError α) : Prop :=
  ∃ e, outcome = .error e ∧ e.isTransient = true

/-- No attempt follows an outcome: it is not passing, or there were enough attempts. -/
def Final (policy : RetryPolicy) (outcome : Except StoreError α) (attempts : Nat) : Prop :=
  ¬ IsPassing outcome ∨ policy.maxAttempts ≤ attempts

/-- Attempts may stop after some. The first has the outcome `0`. -/
def Stops (policy : RetryPolicy) (outcomes : Nat → Except StoreError α) (k : Nat) : Prop :=
  0 < k ∧ policy.Final (outcomes (k - 1)) k

theorem isPassing_error {e : StoreError} :
    IsPassing (.error e : Except StoreError α) ↔ e.isTransient = true :=
  ⟨fun ⟨_, heq, h⟩ => Except.error.inj heq ▸ h, fun h => ⟨e, rfl, h⟩⟩

theorem not_isPassing_ok (a : α) : ¬ IsPassing (.ok a : Except StoreError α) := by
  rintro ⟨e, heq, -⟩
  cases heq

theorem final_error_iff {e : StoreError} {attempts : Nat} :
    policy.Final (.error e : Except StoreError α) attempts ↔
      ¬ (e.isTransient = true ∧ attempts < policy.maxAttempts) := by
  rw [Final, isPassing_error, not_and_or, not_lt]

theorem final_ok (policy : RetryPolicy) (a : α) (attempts : Nat) :
    policy.Final (.ok a) attempts :=
  .inl (not_isPassing_ok a)

/-- A pause is made where another attempt is. -/
theorem pause?_eq_some_iff {attempts : Nat} {e : StoreError} {delay : Duration} :
    policy.pause? attempts e = some delay ↔
      (e.isTransient = true ∧ attempts < policy.maxAttempts) ∧
        policy.delayAfter attempts = delay := by
  rw [pause?, Option.ite_none_right_eq_some, Option.some.injEq]

theorem pause?_eq_none_iff {attempts : Nat} {e : StoreError} :
    policy.pause? attempts e = none ↔ policy.Final (.error e : Except StoreError α) attempts := by
  rw [pause?, final_error_iff]
  simp only [ite_eq_right_iff, reduceCtorEq, imp_false]

theorem not_final_of_pause? {attempts : Nat} {e : StoreError} {delay : Duration}
    (h : policy.pause? attempts e = some delay) :
    ¬ policy.Final (.error e : Except StoreError α) attempts := by
  rw [← pause?_eq_none_iff, h]
  simp

/-- What attempts come to from some number of them on. -/
structure StopsFrom (policy : RetryPolicy) (outcomes : Nat → Except StoreError α) (made : Nat)
    (r : Run α) : Prop where
  attempts : IsLeast {k | made < k ∧ policy.Stops outcomes k} r.attempts
  outcome : r.outcome = outcomes (r.attempts - 1)
  delays : r.delays = (List.range' (made + 1) (r.attempts - (made + 1))).map policy.delayAfter

/-- An attempt that may be the last is the last. -/
theorem stopsFrom_last {made : Nat} {r : Run α} (hstops : policy.Stops outcomes (made + 1))
    (hr : r = ⟨made + 1, outcomes made, []⟩) : policy.StopsFrom outcomes made r := by
  subst hr
  refine ⟨⟨⟨Nat.lt_succ_self made, hstops⟩, fun k hk => hk.1⟩, rfl, ?_⟩
  rw [Nat.sub_self]
  rfl

/-- After one that may not, it depends on the next. -/
theorem StopsFrom.cons {made : Nat} {rest : Run α}
    (h : policy.StopsFrom outcomes (made + 1) rest) (hgoes : ¬ policy.Stops outcomes (made + 1)) :
    policy.StopsFrom outcomes made
      { rest with delays := policy.delayAfter (made + 1) :: rest.delays } := by
  obtain ⟨⟨⟨hlt, hstops⟩, hleast⟩, outcome, delays⟩ := h
  refine ⟨⟨⟨Nat.lt_of_succ_lt hlt, hstops⟩, fun k hk => ?_⟩, outcome, ?_⟩
  · refine hleast ⟨?_, hk.2⟩
    rcases Nat.lt_or_ge (made + 1) k with hlater | hnext
    · exact hlater
    · obtain rfl : k = made + 1 := Nat.le_antisymm hnext hk.1
      exact absurd hk.2 hgoes
  · dsimp only
    have hcount : rest.attempts - (made + 1) = rest.attempts - (made + 1 + 1) + 1 := by omega
    rw [delays, hcount, List.range'_succ, List.map_cons]

theorem stopsFrom_runFrom (policy : RetryPolicy) (outcomes : Nat → Except StoreError α)
    (made : Nat) : policy.StopsFrom outcomes made (policy.runFrom outcomes made) := by
  induction made using RetryPolicy.runFrom.induct policy outcomes with
  | case1 made a hok =>
      rw [runFrom, hok]
      refine stopsFrom_last ⟨Nat.succ_pos made, ?_⟩ (by rw [hok])
      rw [Nat.add_sub_cancel, hok]
      exact policy.final_ok a _
  | case2 made e herror hagain ih =>
      rw [runFrom, herror]
      dsimp only
      rw [if_pos hagain]
      refine ih.cons fun hstops => ?_
      have hfinal := hstops.2
      rw [Nat.add_sub_cancel, herror, final_error_iff] at hfinal
      exact hfinal hagain
  | case3 made e herror hlast =>
      rw [runFrom, herror]
      dsimp only
      rw [if_neg hlast]
      refine stopsFrom_last ⟨Nat.succ_pos made, ?_⟩ (by rw [herror])
      rw [Nat.add_sub_cancel, herror, final_error_iff]
      exact hlast

/-! ## Delays -/

theorem nanoseconds_delayAfter (policy : RetryPolicy) (attempts : Nat) :
    (policy.delayAfter attempts).nanoseconds =
      min (policy.baseDelay.nanoseconds * 2 ^ min (attempts - 1) 16) (2 ^ 64 * 10 ^ 9 - 1) := rfl

theorem delayAfter_mono (policy : RetryPolicy) {j k : Nat} (h : j ≤ k) :
    (policy.delayAfter j).nanoseconds ≤ (policy.delayAfter k).nanoseconds := by
  rw [nanoseconds_delayAfter, nanoseconds_delayAfter]
  have hshift : min (j - 1) 16 ≤ min (k - 1) 16 := by omega
  have hfactor : 2 ^ min (j - 1) 16 ≤ 2 ^ min (k - 1) 16 := Nat.pow_le_pow_right (by decide) hshift
  exact min_le_min_right _ (Nat.mul_le_mul_left _ hfactor)

theorem pairwise_delays (policy : RetryPolicy) (start count : Nat) :
    ((List.range' start count).map policy.delayAfter).Pairwise
      fun d d' => d.nanoseconds ≤ d'.nanoseconds := by
  rw [List.pairwise_map]
  exact (List.pairwise_le_range' 1).imp fun hle => policy.delayAfter_mono hle

/-! ## Words -/

/-- The delay after a number of attempts that a word counts, one being shifted as often as the delay
is doubled; `none` where it is shifted out of its word. -/
def delayInWord? (policy : RetryPolicy) (attempts : UInt32) : Option Duration :=
  let shift := UInt32.ofNat (min (attempts.toNat - 1) 16)
  if shift.toNat < 32 then some (policy.baseDelay.times ((1 : UInt32) <<< shift).toNat) else none

/-- Makes attempts as `runFrom` does, but counts them in a word; `none` where that overflows. -/
def runInWordsFrom? (policy : RetryPolicy) (outcomes : Nat → Except StoreError α)
    (made : UInt32) : Option (Run α) :=
  if _ : made.toNat + 1 < 2 ^ 32 then
    match outcomes made.toNat with
    | .ok a => some ⟨(made + 1).toNat, .ok a, []⟩
    | .error e =>
      if _ : e.isTransient ∧ (made + 1).toNat < policy.maxAttempts then do
        let delay ← policy.delayInWord? (made + 1)
        let rest ← policy.runInWordsFrom? outcomes (made + 1)
        some { rest with delays := delay :: rest.delays }
      else some ⟨(made + 1).toNat, .error e, []⟩
  else none
termination_by policy.maxAttempts - made.toNat
decreasing_by
  have hnext : (made + 1).toNat = made.toNat + 1 := by
    rw [UInt32.toNat_add]
    exact Nat.mod_eq_of_lt ‹_›
  omega

def runInWords? (policy : RetryPolicy) (outcomes : Nat → Except StoreError α) : Option (Run α) :=
  policy.runInWordsFrom? outcomes 0

theorem shifted_one {shift : Nat} (h : shift ≤ 16) :
    (UInt32.ofNat shift).toNat = shift ∧
      ((1 : UInt32) <<< UInt32.ofNat shift).toNat = 2 ^ shift := by
  revert h
  revert shift
  decide

theorem delayInWord?_eq (policy : RetryPolicy) (attempts : UInt32) :
    policy.delayInWord? attempts = some (policy.delayAfter attempts.toNat) := by
  obtain ⟨hword, hshifted⟩ := shifted_one (Nat.min_le_right (attempts.toNat - 1) 16)
  rw [delayInWord?, hword, if_pos (by omega), hshifted]
  rfl

/-- Where the number of attempts allowed fits a word, no word overflows. -/
theorem runInWordsFrom?_eq (hmax : policy.maxAttempts < 2 ^ 32) {made : UInt32}
    (hmade : made.toNat + 1 < 2 ^ 32) :
    policy.runInWordsFrom? outcomes made = some (policy.runFrom outcomes made.toNat) := by
  have hnext : (made + 1).toNat = made.toNat + 1 := by
    rw [UInt32.toNat_add]
    exact Nat.mod_eq_of_lt hmade
  induction made using RetryPolicy.runInWordsFrom?.induct policy outcomes with
  | case1 made fits a hok =>
      rw [runInWordsFrom?, dif_pos fits, hok, runFrom, hok, hnext]
  | case2 made fits e herror again ih =>
      rw [runInWordsFrom?, dif_pos fits, herror, runFrom, herror]
      dsimp only
      -- a counter below the number allowed has room for one more
      have hroom : (made + 1).toNat + 1 < 2 ^ 32 := by omega
      have hthen : (made + 1 + 1).toNat = (made + 1).toNat + 1 := by
        rw [UInt32.toNat_add]
        exact Nat.mod_eq_of_lt hroom
      rw [dif_pos again, delayInWord?_eq, ih hroom hthen]
      rw [hnext] at again
      rw [if_pos again, hnext]
      rfl
  | case3 made fits e herror hlast =>
      rw [runInWordsFrom?, dif_pos fits, herror, runFrom, herror]
      dsimp only
      rw [dif_neg hlast]
      rw [hnext] at hlast
      rw [if_neg hlast, hnext]
  | case4 made overflows => exact absurd hmade overflows

/-! ## Runs -/

/-- A run of attempts that goes by a policy. -/
structure Scheduled (policy : RetryPolicy) (outcomes : Nat → Except StoreError α) (r : Run α) :
    Prop where
  /-- Attempts stop at the first that may be the last. -/
  attempts : IsLeast {k | policy.Stops outcomes k} r.attempts
  outcome : r.outcome = outcomes (r.attempts - 1)
  /-- There is a delay after each attempt but the last. -/
  delays : r.delays = (List.range' 1 (r.attempts - 1)).map policy.delayAfter
  doubling : ∀ j, (policy.delayAfter j).nanoseconds =
    min (policy.baseDelay.nanoseconds * 2 ^ min (j - 1) 16) (2 ^ 64 * 10 ^ 9 - 1)
  steady : r.delays.Pairwise fun d d' => d.nanoseconds ≤ d'.nanoseconds
  /-- No word overflows. -/
  inWords : policy.maxAttempts < 2 ^ 32 → policy.runInWords? outcomes = some r

theorem scheduled_run (policy : RetryPolicy) (outcomes : Nat → Except StoreError α) :
    policy.Scheduled outcomes (policy.run outcomes) := by
  obtain ⟨⟨⟨-, hstops⟩, hleast⟩, outcome, delays⟩ := stopsFrom_runFrom policy outcomes 0
  refine ⟨⟨hstops, fun k hk => hleast ⟨hk.1, hk⟩⟩, outcome, delays,
    policy.nanoseconds_delayAfter, ?_, fun hmax => runInWordsFrom?_eq hmax (by decide)⟩
  rw [run, delays]
  exact policy.pairwise_delays _ _

end RetryPolicy

end StudySession

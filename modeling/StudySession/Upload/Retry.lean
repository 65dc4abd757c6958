import StudySession.Upload.Error

/-!
# Trying again

A call that fails for a passing reason is made again after a delay that doubles each time, up to a
number of attempts. `RetryPolicy.pause?` is the one decision; `RetryPolicy.run` makes the calls of
an endless sequence of outcomes and stops at the first that is not followed by another.
-/

namespace StudySession

/-- How often and how soon a call is made again. -/
structure RetryPolicy where
  maxAttempts : Nat
  baseDelay : Duration
  deriving DecidableEq, Repr

namespace RetryPolicy

/-- The delay after a number of failed attempts: twice the one before, up to the seventeenth. -/
def delayAfter (policy : RetryPolicy) (attempts : Nat) : Duration :=
  policy.baseDelay.times (Nat.pow 2 (min (attempts - 1) 16))

/-- The delay before the next attempt, if there is to be one. -/
def pause? (policy : RetryPolicy) (attempts : Nat) (error : StoreError) : Option Duration :=
  if error.isTransient ∧ attempts < policy.maxAttempts then some (policy.delayAfter attempts)
  else none

/-- What a run of attempts came to. -/
structure Run (α : Type) where
  attempts : Nat
  outcome : Except StoreError α
  delays : List Duration

/-- Makes attempts after a number of them; `outcomes` says how each ends, from `0` on. -/
def runFrom {α : Type} (policy : RetryPolicy) (outcomes : Nat → Except StoreError α)
    (made : Nat) : Run α :=
  match outcomes made with
  | .ok a => ⟨made + 1, .ok a, []⟩
  | .error e =>
    if e.isTransient ∧ made + 1 < policy.maxAttempts then
      let rest := policy.runFrom outcomes (made + 1)
      { rest with delays := policy.delayAfter (made + 1) :: rest.delays }
    else ⟨made + 1, .error e, []⟩
termination_by policy.maxAttempts - made

/-- Makes attempts until one succeeds, one fails for good, or there have been enough. -/
def run {α : Type} (policy : RetryPolicy) (outcomes : Nat → Except StoreError α) : Run α :=
  policy.runFrom outcomes 0

end RetryPolicy

end StudySession

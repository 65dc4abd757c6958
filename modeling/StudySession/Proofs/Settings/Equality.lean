import StudySession.Settings.Value

/-!
# Equal settings

`Setting.same` compares values and tables of settings part by part, which decides whether they are
equal.
-/

namespace StudySession

namespace Setting

mutual

def same : Setting → Setting → Bool
  | .nothing, .nothing => true
  | .flag a, .flag b => a == b
  | .integer i, .integer j => i == j
  | .number x, .number y => x == y
  | .text s, .text t => s == t
  | .list xs, .list ys => sameItems xs ys
  | .table xs, .table ys => sameEntries xs ys
  | _, _ => false

def sameItems : List Setting → List Setting → Bool
  | [], [] => true
  | x :: xs, y :: ys => same x y && sameItems xs ys
  | _, _ => false

def sameEntries : List (String × Setting) → List (String × Setting) → Bool
  | [], [] => true
  | (k, x) :: xs, (l, y) :: ys => k == l && same x y && sameEntries xs ys
  | _, _ => false

end

mutual

theorem same_iff : ∀ s t : Setting, same s t = true ↔ s = t
  | .list xs, .list ys => by simp [same, sameItems_iff xs ys]
  | .table xs, .table ys => by simp [same, sameEntries_iff xs ys]
  | .nothing, t | .flag _, t | .integer _, t | .number _, t | .text _, t => by
      cases t <;> simp [same]
  | .list _, .nothing | .list _, .flag _ | .list _, .integer _ | .list _, .number _
  | .list _, .text _ | .list _, .table _ => by simp [same]
  | .table _, .nothing | .table _, .flag _ | .table _, .integer _ | .table _, .number _
  | .table _, .text _ | .table _, .list _ => by simp [same]

theorem sameItems_iff : ∀ xs ys : List Setting, sameItems xs ys = true ↔ xs = ys
  | [], [] => by simp [sameItems]
  | [], _ :: _ | _ :: _, [] => by simp [sameItems]
  | x :: xs, y :: ys => by simp [sameItems, same_iff x y, sameItems_iff xs ys]

theorem sameEntries_iff : ∀ xs ys : List (String × Setting), sameEntries xs ys = true ↔ xs = ys
  | [], [] => by simp [sameEntries]
  | [], _ :: _ | _ :: _, [] => by simp [sameEntries]
  | (k, x) :: xs, (l, y) :: ys => by
      simp [sameEntries, same_iff x y, sameEntries_iff xs ys]

end

instance : DecidableEq Setting := fun s t => decidable_of_iff _ (same_iff s t)

end Setting

end StudySession

import Mathlib.Data.List.Forall2
import Mathlib.Data.List.Perm.Basic
import Mathlib.Data.List.Perm.Subperm
import StudySession.Json

/-!
# Equal documents

`Json.eqv` is an equivalence: it is coarser than identity only in that the two float zeros coincide.
Lists of equal items are compared place by place (`Json.eqvItems_iff`), or without regard to order:
`Json.Rearranges` is a permutation up to equality, and `Json.Among` says that some of the items, no
item more than once, are there.
-/

namespace StudySession

namespace Json

mutual

theorem eqv_refl : ∀ j : Json, eqv j j = true
  | .null => rfl
  | .bool _ => beq_self_eq_true _
  | .int _ => beq_self_eq_true _
  | .float _ => beq_self_eq_true _
  | .str _ => beq_self_eq_true _
  | .arr items => eqvItems_refl items
  | .obj fields => eqvFields_refl fields

theorem eqvItems_refl : ∀ items : List Json, eqvItems items items = true
  | [] => rfl
  | x :: xs => Bool.and_eq_true_iff.2 ⟨eqv_refl x, eqvItems_refl xs⟩

theorem eqvFields_refl : ∀ fields : List (String × Json), eqvFields fields fields = true
  | [] => rfl
  | (k, x) :: rest => by simp [eqvFields, eqv_refl x, eqvFields_refl rest]

end

mutual

theorem eqv_symm : ∀ {a b : Json}, eqv a b = true → eqv b a = true
  | a, b, h => by
      cases a <;> cases b <;> simp only [eqv, Double.eqv, beq_iff_eq, Bool.false_eq_true] at h ⊢
      case bool.bool | int.int | float.float | str.str => exact h.symm
      case arr.arr => exact eqvItems_symm h
      case obj.obj => exact eqvFields_symm h

theorem eqvItems_symm : ∀ {xs ys : List Json}, eqvItems xs ys = true → eqvItems ys xs = true
  | [], [], _ => rfl
  | [], _ :: _, h => by simp [eqvItems] at h
  | _ :: _, [], h => by simp [eqvItems] at h
  | x :: xs, y :: ys, h => by
      simp only [eqvItems, Bool.and_eq_true] at h ⊢
      exact ⟨eqv_symm h.1, eqvItems_symm h.2⟩

theorem eqvFields_symm : ∀ {xs ys : List (String × Json)},
    eqvFields xs ys = true → eqvFields ys xs = true
  | [], [], _ => rfl
  | [], _ :: _, h => by simp [eqvFields] at h
  | _ :: _, [], h => by simp [eqvFields] at h
  | (k, x) :: xs, (l, y) :: ys, h => by
      simp only [eqvFields, Bool.and_eq_true, beq_iff_eq] at h ⊢
      exact ⟨⟨h.1.1.symm, eqv_symm h.1.2⟩, eqvFields_symm h.2⟩

end

mutual

theorem eqv_trans : ∀ {a b c : Json}, eqv a b = true → eqv b c = true → eqv a c = true
  | a, b, c, h, h' => by
      cases a <;> cases b <;> simp only [eqv, Double.eqv, beq_iff_eq, Bool.false_eq_true] at h
      all_goals
        cases c <;> simp only [eqv, Double.eqv, beq_iff_eq, Bool.false_eq_true] at h' ⊢
      case bool.bool.bool | int.int.int | float.float.float | str.str.str => exact h.trans h'
      case arr.arr.arr => exact eqvItems_trans h h'
      case obj.obj.obj => exact eqvFields_trans h h'

theorem eqvItems_trans : ∀ {xs ys zs : List Json},
    eqvItems xs ys = true → eqvItems ys zs = true → eqvItems xs zs = true
  | [], [], _, _, h' => h'
  | [], _ :: _, _, h, _ => by simp [eqvItems] at h
  | _ :: _, [], _, h, _ => by simp [eqvItems] at h
  | _ :: _, _ :: _, [], _, h' => by simp [eqvItems] at h'
  | x :: xs, y :: ys, z :: zs, h, h' => by
      simp only [eqvItems, Bool.and_eq_true] at h h' ⊢
      exact ⟨eqv_trans h.1 h'.1, eqvItems_trans h.2 h'.2⟩

theorem eqvFields_trans : ∀ {xs ys zs : List (String × Json)},
    eqvFields xs ys = true → eqvFields ys zs = true → eqvFields xs zs = true
  | [], [], _, _, h' => h'
  | [], _ :: _, _, h, _ => by simp [eqvFields] at h
  | _ :: _, [], _, h, _ => by simp [eqvFields] at h
  | _ :: _, _ :: _, [], _, h' => by simp [eqvFields] at h'
  | (k, x) :: xs, (l, y) :: ys, (m, z) :: zs, h, h' => by
      simp only [eqvFields, Bool.and_eq_true, beq_iff_eq] at h h' ⊢
      exact ⟨⟨h.1.1.trans h'.1.1, eqv_trans h.1.2 h'.1.2⟩, eqvFields_trans h.2 h'.2⟩

end

variable {xs ys zs : List Json}

theorem eqvItems_iff : eqvItems xs ys = true ↔ List.Forall₂ (fun x y => eqv x y = true) xs ys := by
  induction xs generalizing ys with
  | nil => cases ys <;> simp [eqvItems]
  | cons x xs ih => cases ys <;> simp [eqvItems, ih]

theorem length_eq_of_eqvItems (h : eqvItems xs ys = true) : xs.length = ys.length :=
  (eqvItems_iff.1 h).length_eq

/-- Equal arrays are equal to the same arrays. -/
theorem eqvItems_congr_left (h : eqvItems xs ys = true) (zs : List Json) :
    eqvItems xs zs = eqvItems ys zs :=
  Bool.eq_iff_iff.2 ⟨eqvItems_trans (eqvItems_symm h), eqvItems_trans h⟩

/-! ## Without regard to order -/

/-- The items are those of another list, in some order. -/
def Rearranges (xs ys : List Json) : Prop :=
  ∃ zs : List Json, zs.Perm ys ∧ List.Forall₂ (fun x z => eqv x z = true) xs zs

/-- The items are some of those of another list, in some order, each as often as there or less. -/
def Among (xs ys : List Json) : Prop :=
  ∃ zs : List Json, zs.Subperm ys ∧ List.Forall₂ (fun x z => eqv x z = true) xs zs

theorem Rearranges.of_perm (h : xs.Perm ys) : Rearranges xs ys :=
  ⟨xs, h, eqvItems_iff.1 (eqvItems_refl xs)⟩

theorem Rearranges.length_eq (h : Rearranges xs ys) : xs.length = ys.length := by
  obtain ⟨zs, hperm, heqv⟩ := h
  rw [heqv.length_eq, hperm.length_eq]

theorem Rearranges.among (h : Rearranges xs ys) : Among xs ys := by
  obtain ⟨zs, hperm, heqv⟩ := h
  exact ⟨zs, hperm.subperm, heqv⟩

/-- A list that is all there is a rearrangement. -/
theorem Among.rearranges (h : Among xs ys) (hlength : ys.length ≤ xs.length) :
    Rearranges xs ys := by
  obtain ⟨zs, hsubperm, heqv⟩ := h
  exact ⟨zs, hsubperm.perm_of_length_le (heqv.length_eq ▸ hlength), heqv⟩

theorem Among.take (h : Among xs ys) (n : Nat) : Among (xs.take n) ys := by
  obtain ⟨zs, hsubperm, heqv⟩ := h
  exact ⟨zs.take n, (List.take_sublist n zs).subperm.trans hsubperm, List.forall₂_take n heqv⟩

theorem Among.drop (h : Among xs ys) (n : Nat) : Among (xs.drop n) ys := by
  obtain ⟨zs, hsubperm, heqv⟩ := h
  exact ⟨zs.drop n, (List.drop_sublist n zs).subperm.trans hsubperm, List.forall₂_drop n heqv⟩

/-- What rearranges an array rearranges every equal one. -/
theorem Rearranges.congr (h : Rearranges xs ys) (heqv : eqvItems ys zs = true) :
    Rearranges xs zs := by
  obtain ⟨ws, hperm, hws⟩ := h
  -- the order that leads from `ys` to `ws` leads from `zs` to an equal list
  obtain ⟨us, hus, husPerm⟩ := List.perm_comp_forall₂ hperm (eqvItems_iff.1 heqv)
  refine ⟨us, husPerm, eqvItems_iff.1 (eqvItems_trans (eqvItems_iff.2 hws) (eqvItems_iff.2 hus))⟩

end Json

end StudySession

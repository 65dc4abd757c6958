import Mathlib.Data.List.Forall2
import Mathlib.Data.List.Sort
import Mathlib.Data.String.Basic
import StudySession.Dict

/-!
# Looking up in dictionaries

What `Dict.get?` finds after an entry was put in or dropped. None of this needs the keys in order:
`Dict.insert` never puts a key behind an entry of the same key. That the keys stay in order is
`Dict.Sorted.insert`, and in order they are distinct.
-/

namespace StudySession

namespace Dict

variable {α : Type} {d : Dict α} {key other : String} {value : α}

@[simp] theorem get?_nil (key : String) : get? ([] : Dict α) key = none := rfl

theorem get?_cons (k : String) (v : α) (rest : Dict α) (key : String) :
    get? ((k, v) :: rest) key = if key = k then some v else get? rest key := by
  by_cases h : key = k
  · simp [get?, h]
  · have h' : (key == k) = false := by simpa using h
    simp [get?, List.lookup_cons, h, h']

theorem mem_of_get?_eq_some (h : d.get? key = some value) : (key, value) ∈ d := by
  induction d with
  | nil => simp at h
  | cons entry rest ih =>
      obtain ⟨k, v⟩ := entry
      rw [get?_cons] at h
      split at h
      · next hk =>
          obtain rfl := Option.some.inj h
          rw [hk]
          exact List.mem_cons_self
      · exact List.mem_cons_of_mem _ (ih h)

@[simp] theorem get?_insert_self (d : Dict α) (key : String) (value : α) :
    (d.insert key value).get? key = some value := by
  induction d with
  | nil => simp [insert, get?_cons]
  | cons entry rest ih =>
      obtain ⟨k, v⟩ := entry
      simp only [insert]
      split
      · simp [get?_cons]
      · split
        · simp [get?_cons]
        · next hne => rw [get?_cons, if_neg hne, ih]

theorem get?_insert_of_ne (h : other ≠ key) (d : Dict α) (value : α) :
    (d.insert key value).get? other = d.get? other := by
  induction d with
  | nil => simp [insert, get?_cons, h]
  | cons entry rest ih =>
      obtain ⟨k, v⟩ := entry
      simp only [insert]
      split
      · rw [get?_cons, if_neg h]
      · split
        · next heq => rw [get?_cons, get?_cons, if_neg h, if_neg (heq ▸ h)]
        · rw [get?_cons, get?_cons, ih]

theorem get?_insert (d : Dict α) (key : String) (value : α) (other : String) :
    (d.insert key value).get? other = if other = key then some value else d.get? other := by
  split
  · next h => rw [h, get?_insert_self]
  · next h => exact get?_insert_of_ne h d value

@[simp] theorem get?_erase_self (d : Dict α) (key : String) : (d.erase key).get? key = none := by
  induction d with
  | nil => rfl
  | cons entry rest ih =>
      obtain ⟨k, v⟩ := entry
      by_cases h : k = key
      · simpa [erase, h] using ih
      · have hkeep : erase ((k, v) :: rest) key = (k, v) :: erase rest key := by simp [erase, h]
        rw [hkeep, get?_cons, if_neg (Ne.symm h), ih]

theorem get?_erase_of_ne (h : other ≠ key) (d : Dict α) :
    (d.erase key).get? other = d.get? other := by
  induction d with
  | nil => rfl
  | cons entry rest ih =>
      obtain ⟨k, v⟩ := entry
      by_cases hk : k = key
      · have hdrop : erase ((k, v) :: rest) key = erase rest key := by simp [erase, hk]
        rw [hdrop, ih, get?_cons, if_neg (hk ▸ h)]
      · have hkeep : erase ((k, v) :: rest) key = (k, v) :: erase rest key := by simp [erase, hk]
        rw [hkeep, get?_cons, get?_cons, ih]

/-! ## Keys in order -/

instance (d : Dict α) : Decidable d.Sorted := inferInstanceAs (Decidable (List.Pairwise _ d))

theorem mem_insert {entry : String × α} (h : entry ∈ d.insert key value) :
    entry = (key, value) ∨ entry ∈ d := by
  induction d with
  | nil => simpa [insert] using h
  | cons first rest ih =>
      obtain ⟨k, v⟩ := first
      simp only [insert] at h
      split at h
      · simpa using h
      · split at h
        · rcases List.mem_cons.1 h with h | h
          · exact .inl h
          · exact .inr (List.mem_cons_of_mem _ h)
        · rcases List.mem_cons.1 h with h | h
          · exact .inr (h ▸ List.mem_cons_self)
          · rcases ih h with h | h
            · exact .inl h
            · exact .inr (List.mem_cons_of_mem _ h)

theorem mem_mergeOver {base top : Dict α} {entry : String × α} (h : entry ∈ base.mergeOver top) :
    entry ∈ base ∨ entry ∈ top := by
  induction top generalizing base with
  | nil => exact .inl h
  | cons first rest ih =>
      rcases ih h with h | h
      · rcases mem_insert h with rfl | h
        · exact .inr List.mem_cons_self
        · exact .inl h
      · exact .inr (List.mem_cons_of_mem _ h)

/-- Putting a value in keeps the keys in order. -/
theorem Sorted.insert (h : d.Sorted) (key : String) (value : α) : (d.insert key value).Sorted := by
  induction d with
  | nil => exact List.pairwise_singleton _ _
  | cons entry rest ih =>
      obtain ⟨k, v⟩ := entry
      obtain ⟨hfirst, hrest⟩ := List.pairwise_cons.1 h
      simp only [Dict.insert]
      split
      · next hlt =>
          refine List.pairwise_cons.2 ⟨fun entry hentry => ?_, h⟩
          rcases List.mem_cons.1 hentry with rfl | hentry
          · exact hlt
          · exact lt_trans hlt (hfirst entry hentry)
      · next hnlt =>
          split
          · next heq =>
              subst heq
              exact List.pairwise_cons.2 ⟨hfirst, hrest⟩
          · next hne =>
              refine List.pairwise_cons.2 ⟨fun entry hentry => ?_, ih hrest⟩
              rcases mem_insert hentry with rfl | hentry
              · exact lt_of_le_of_ne (not_lt.1 hnlt) (Ne.symm hne)
              · exact hfirst entry hentry

/-- Merging keeps the keys in order. -/
theorem Sorted.mergeOver {base : Dict α} (h : base.Sorted) (top : Dict α) :
    (base.mergeOver top).Sorted := by
  induction top generalizing base with
  | nil => exact h
  | cons entry rest ih => exact ih (h.insert entry.1 entry.2)

theorem Sorted.erase (h : d.Sorted) (key : String) : (d.erase key).Sorted := List.Pairwise.filter _ h

/-- In order, an entry is what its key is looked up as. -/
theorem Sorted.get?_eq_some_of_mem (h : d.Sorted) (hmem : (key, value) ∈ d) :
    d.get? key = some value := by
  induction d with
  | nil => simp at hmem
  | cons entry rest ih =>
      obtain ⟨k, v⟩ := entry
      obtain ⟨hfirst, hrest⟩ := List.pairwise_cons.1 h
      rw [get?_cons]
      rcases List.mem_cons.1 hmem with heq | hmem
      · obtain ⟨rfl, rfl⟩ := Prod.mk.inj heq
        rw [if_pos rfl]
      · rw [if_neg (hfirst _ hmem).ne', ih hrest hmem]

/-- In order, no two entries have one key. -/
theorem Sorted.nodup_keys (h : d.Sorted) : d.keys.Nodup :=
  (List.pairwise_map.2 h).imp ne_of_lt

theorem mem_keys_iff : key ∈ d.keys ↔ (d.get? key).isSome = true := by
  induction d with
  | nil => simp [keys]
  | cons entry rest ih =>
      obtain ⟨k, v⟩ := entry
      rw [get?_cons]
      by_cases hk : key = k
      · simp [keys, hk]
      · simpa [keys, hk] using ih

theorem get?_eq_none_iff : d.get? key = none ↔ key ∉ d.keys := by
  rw [mem_keys_iff, Option.not_isSome_iff_eq_none]

/-- Of two entries under one key the one merged over the other is found. -/
theorem get?_mergeOver {base top : Dict α} (htop : top.keys.Nodup) (key : String) :
    (base.mergeOver top).get? key = (top.get? key).or (base.get? key) := by
  induction top generalizing base with
  | nil => rfl
  | cons entry rest ih =>
      obtain ⟨k, v⟩ := entry
      obtain ⟨hfirst, hrest⟩ := List.nodup_cons.1 htop
      have hmerge : base.mergeOver ((k, v) :: rest) = (base.insert k v).mergeOver rest := rfl
      rw [hmerge, ih hrest, get?_insert, get?_cons]
      by_cases hk : key = k
      · -- the first entry is not replaced by a later one
        have hnone : get? rest k = none := get?_eq_none_iff.2 hfirst
        rw [if_pos hk, if_pos hk, hk, hnone]
        rfl
      · rw [if_neg hk, if_neg hk]

theorem length_insert (hnone : d.get? key = none) (value : α) :
    (d.insert key value).length = d.length + 1 := by
  induction d with
  | nil => rfl
  | cons entry rest ih =>
      obtain ⟨k, v⟩ := entry
      rw [get?_cons] at hnone
      by_cases hk : key = k
      · rw [if_pos hk] at hnone
        cases hnone
      · rw [if_neg hk] at hnone
        simp only [insert]
        split
        · rfl
        · rw [List.length_cons, ih hnone, List.length_cons]

/-- Entries under new keys all count. -/
theorem length_mergeOver {base top : Dict α} (htop : top.keys.Nodup)
    (hnew : ∀ key ∈ top.keys, base.get? key = none) :
    (base.mergeOver top).length = base.length + top.length := by
  induction top generalizing base with
  | nil => rfl
  | cons entry rest ih =>
      obtain ⟨k, v⟩ := entry
      obtain ⟨hfirst, hrest⟩ := List.nodup_cons.1 htop
      have hmerge : base.mergeOver ((k, v) :: rest) = (base.insert k v).mergeOver rest := rfl
      have hlater : ∀ key ∈ keys rest, (base.insert k v).get? key = none := by
        intro key hkey
        have hne : key ≠ k := fun heq => hfirst (heq ▸ hkey)
        rw [get?_insert_of_ne hne]
        exact hnew key (List.mem_cons_of_mem _ hkey)
      rw [hmerge, ih hrest hlater, length_insert (hnew k List.mem_cons_self), List.length_cons]
      omega

/-- Other keys, told apart as before, find the same. -/
theorem get?_map_key {f : String → String} (hf : Function.Injective f) (d : Dict α) (key : String) :
    get? (d.map fun entry => (f entry.1, entry.2)) (f key) = d.get? key := by
  induction d with
  | nil => rfl
  | cons entry rest ih =>
      obtain ⟨k, v⟩ := entry
      rw [List.map_cons, get?_cons, get?_cons, ih]
      simp only [hf.eq_iff]

/-- Order is a matter of the keys. -/
theorem Sorted.of_keys_eq {β : Type} {d' : Dict β} (h : d'.keys = d.keys) (hd : d.Sorted) :
    d'.Sorted := by
  have hkeys : d.keys.Pairwise (· < ·) := List.pairwise_map.2 hd
  rw [← h] at hkeys
  exact List.pairwise_map.1 hkeys

/-- In order, dictionaries that find the same are the same. -/
theorem Sorted.ext {d' : Dict α} (h : d.Sorted) (h' : d'.Sorted)
    (hget : ∀ key, d.get? key = d'.get? key) : d = d' := by
  have hmem : ∀ entry, entry ∈ d ↔ entry ∈ d' := by
    rintro ⟨key, value⟩
    constructor
    · intro hentry
      exact mem_of_get?_eq_some (hget key ▸ h.get?_eq_some_of_mem hentry)
    · intro hentry
      exact mem_of_get?_eq_some (hget key ▸ h'.get?_eq_some_of_mem hentry)
  have hirrefl : Std.Irrefl fun x y : String × α => x.1 < y.1 := ⟨fun x => lt_irrefl x.1⟩
  have hantisymm : Std.Antisymm fun x y : String × α => x.1 < y.1 :=
    ⟨fun _ _ hxy hyx => absurd hyx (lt_asymm hxy)⟩
  exact h.eq_of_mem_iff h' hmem

/-- Of three dictionaries merged, it does not matter which two are merged first. -/
theorem mergeOver_assoc {base middle top : Dict α} (hbase : base.Sorted) (hmiddle : middle.Sorted)
    (htop : top.keys.Nodup) :
    base.mergeOver (middle.mergeOver top) = (base.mergeOver middle).mergeOver top := by
  have hinner := hmiddle.mergeOver top
  refine (hbase.mergeOver _).ext ((hbase.mergeOver _).mergeOver _) fun key => ?_
  rw [get?_mergeOver hinner.nodup_keys, get?_mergeOver htop, get?_mergeOver htop,
    get?_mergeOver hmiddle.nodup_keys, Option.or_assoc]

/-! ## Dictionaries made entry by entry -/

section Entrywise

variable {β : Type} {d' : Dict β} {R : String × α → β → Prop}

/-- The entries of one dictionary relate, in order, to the values of another under the same keys. -/
def Entrywise (R : String × α → β → Prop) (d : Dict α) (d' : Dict β) : Prop :=
  List.Forall₂ (fun x y => y.1 = x.1 ∧ R x y.2) d d'

theorem Entrywise.keys_eq (h : Entrywise R d d') : d'.keys = d.keys := by
  induction h with
  | nil => rfl
  | cons hfirst _ ih =>
      rw [keys, keys, List.map_cons, List.map_cons, hfirst.1]
      exact congrArg _ ih

/-- In order, the value related to an entry is found under the entry's key. -/
theorem Entrywise.get? (h : Entrywise R d d') (hd : d.Sorted) {entry : String × α}
    (hentry : entry ∈ d) : ∃ v, d'.get? entry.1 = some v ∧ R entry v := by
  induction h with
  | nil => simp at hentry
  | @cons x y _ _ hfirst _ ih =>
      obtain ⟨k, v⟩ := y
      obtain ⟨hkey, hvalue⟩ := hfirst
      obtain ⟨hlt, hrest⟩ := List.pairwise_cons.1 hd
      rcases List.mem_cons.1 hentry with rfl | hentry
      · exact ⟨v, by rw [get?_cons, if_pos hkey.symm], hvalue⟩
      · have hne : entry.1 ≠ k := by
          rw [show k = x.1 from hkey]
          exact (hlt entry hentry).ne'
        rw [get?_cons, if_neg hne]
        exact ih hrest hentry

end Entrywise

end Dict

end StudySession

import StudySession.Proofs.Study.History
import StudySession.Proofs.Study.Invocations

/-!
# Recorded conditions and how they are read back

The conditions of an entry of the sequence are recorded under `<index>_<key>`. The digits of the
index end at the first underscore, whatever the key holds, so entries never share a recorded key and
a key is read back as it was written: `Study.conditions_read_back`.
-/

namespace StudySession

/-- What stands before the first `c`, and what after it. -/
theorem append_cons_inj {α : Type} {c : α} {xs ys xs' ys' : List α} (hxs : c ∉ xs) (hxs' : c ∉ xs')
    (h : xs ++ c :: ys = xs' ++ c :: ys') : xs = xs' ∧ ys = ys' := by
  induction xs generalizing xs' with
  | nil =>
      cases xs' with
      | nil => exact ⟨rfl, (List.cons.inj h).2⟩
      | cons x xs' =>
          obtain ⟨rfl, -⟩ := List.cons.inj h
          exact absurd List.mem_cons_self hxs'
  | cons x xs ih =>
      cases xs' with
      | nil =>
          obtain ⟨rfl, -⟩ := List.cons.inj h
          exact absurd List.mem_cons_self hxs
      | cons x' xs' =>
          obtain ⟨rfl, hrest⟩ := List.cons.inj h
          obtain ⟨rfl, rfl⟩ := ih (fun hmem => hxs (List.mem_cons_of_mem _ hmem))
            (fun hmem => hxs' (List.mem_cons_of_mem _ hmem)) hrest
          exact ⟨rfl, rfl⟩

theorem beforeSuffix?_eq_some_iff {α : Type} [DecidableEq α] {ending xs front : List α} :
    beforeSuffix? ending xs = some front ↔ xs = front ++ ending := by
  rw [beforeSuffix?, Option.map_eq_some_iff]
  constructor
  · rintro ⟨rest, hrest, rfl⟩
    rw [afterPrefix?_eq_some_iff] at hrest
    rw [← List.reverse_reverse xs, hrest, List.reverse_append, List.reverse_reverse]
  · rintro rfl
    refine ⟨front.reverse, afterPrefix?_eq_some_iff.2 ?_, List.reverse_reverse front⟩
    exact List.reverse_append

namespace Study

/-! ## Keys of conditions -/

/-- The key under which a condition of an entry is recorded. -/
def conditionKey (index : Nat) (key : String) : String := toString index ++ "_" ++ key

theorem toList_conditionKey (index : Nat) (key : String) :
    (conditionKey index key).toList = (toString index).toList ++ '_' :: key.toList := by
  rw [conditionKey, String.toList_append, String.toList_append, List.append_assoc]
  rfl

theorem underscore_not_mem_toString (index : Nat) : '_' ∉ (toString index).toList := by
  intro hmem
  have hdigit := isDigit_of_mem_toString hmem
  simp at hdigit

/-- A key tells the entry and the frame key it was recorded for. -/
theorem conditionKey_inj {i j : Nat} {k l : String} (h : conditionKey i k = conditionKey j l) :
    i = j ∧ k = l := by
  have hlist := congrArg String.toList h
  rw [toList_conditionKey, toList_conditionKey] at hlist
  obtain ⟨hdigits, hkey⟩ := append_cons_inj (underscore_not_mem_toString i)
    (underscore_not_mem_toString j) hlist
  refine ⟨?_, String.toList_inj.1 hkey⟩
  rw [← readDigits_toString i, hdigits, readDigits_toString]

theorem conditionKey_injective (index : Nat) : Function.Injective (conditionKey index) :=
  fun _ _ h => (conditionKey_inj h).2

/-- A recorded key is read as one of the frame key it was recorded for, and of no other. -/
theorem keyRecords_conditionKey_iff {index : Nat} {key frameKey : String} :
    keyRecords frameKey (conditionKey index key) = true ↔ key = frameKey := by
  unfold keyRecords
  constructor
  · intro h
    split at h
    · next front hfront =>
        rw [beforeSuffix?_eq_some_iff, toList_conditionKey] at hfront
        have hdigits : '_' ∉ front := by
          intro hmem
          simp only [isIndex, Bool.and_eq_true, List.all_eq_true] at h
          have hdigit := h.2 '_' hmem
          simp at hdigit
        obtain ⟨-, hkey⟩ := append_cons_inj (underscore_not_mem_toString index) hdigits hfront
        exact String.toList_inj.1 hkey
    · cases h
  · rintro rfl
    have hbefore : beforeSuffix? ('_' :: key.toList) (conditionKey index key).toList =
        some (toString index).toList := by
      rw [beforeSuffix?_eq_some_iff, toList_conditionKey]
    rw [hbefore]
    exact isIndex_toString index

/-! ## Recording -/

/-- What the entry at a place recorded under a frame key. -/
def conditionAt (es : List Expansion) (i : Nat) (key : String) : Option Json :=
  es[i]?.bind fun e => e.conditions.get? key

variable {index : Nat} {conditions earlier : Fields}

/-- Recording an entry's conditions merges them over the earlier ones, under keys of their own. -/
theorem recordConditions_eq (index : Nat) (conditions earlier : Fields) :
    recordConditions index conditions earlier =
      Dict.mergeOver earlier
        (conditions.map fun entry => (conditionKey index entry.1, entry.2)) := by
  rw [recordConditions, Dict.mergeOver, List.foldl_map]
  rfl

theorem nodup_keys_map (h : conditions.Sorted) (index : Nat) :
    (Dict.keys (conditions.map fun entry => (conditionKey index entry.1, entry.2))).Nodup := by
  have hkeys : Dict.keys (conditions.map fun entry => (conditionKey index entry.1, entry.2)) =
      conditions.keys.map (conditionKey index) := by
    simp [Dict.keys]
  rw [hkeys]
  exact h.nodup_keys.map (conditionKey_injective index)

theorem get?_recordConditions (h : conditions.Sorted) (index i : Nat) (earlier : Fields)
    (key : String) :
    (recordConditions index conditions earlier).get? (conditionKey i key) =
      (if i = index then conditions.get? key else none).or
        (earlier.get? (conditionKey i key)) := by
  rw [recordConditions_eq, Dict.get?_mergeOver (nodup_keys_map h index)]
  by_cases hi : i = index
  · rw [if_pos hi, hi, Dict.get?_map_key (conditionKey_injective index)]
  · -- another entry's keys are other keys
    rw [if_neg hi, Dict.get?_eq_none_iff.2]
    intro hmem
    obtain ⟨entry, hentry, heq⟩ := List.mem_map.1 hmem
    obtain ⟨other, -, rfl⟩ := List.mem_map.1 hentry
    exact hi (conditionKey_inj heq).1.symm

theorem mem_recordConditions {entry : String × Json}
    (h : entry ∈ recordConditions index conditions earlier) :
    entry ∈ earlier ∨ ∃ key, entry.1 = conditionKey index key := by
  rw [recordConditions_eq] at h
  rcases Dict.mem_mergeOver h with h | h
  · exact .inl h
  · obtain ⟨other, -, rfl⟩ := List.mem_map.1 h
    exact .inr ⟨other.1, rfl⟩

/-- The conditions of an entry are recorded beside those of other entries. -/
theorem length_recordConditions (h : conditions.Sorted)
    (hnew : ∀ key, earlier.get? (conditionKey index key) = none) :
    (recordConditions index conditions earlier).length = earlier.length + conditions.length := by
  rw [recordConditions_eq, Dict.length_mergeOver (nodup_keys_map h index), List.length_map]
  intro key hkey
  obtain ⟨entry, hentry, rfl⟩ := List.mem_map.1 hkey
  obtain ⟨other, -, rfl⟩ := List.mem_map.1 hentry
  exact hnew other.1

/-- What the entries from a place on recorded is in the sum, beside what was recorded before. -/
theorem get?_addEntries {keys : List String} {es : List Expansion} (hlength : es.length = keys.length)
    (hsorted : ∀ e ∈ es, e.conditions.Sorted) (index i : Nat) (key : String) (sofar : Resolution) :
    (addEntries index keys es sofar).conditions.get? (conditionKey i key) =
      (if index ≤ i then conditionAt es (i - index) key else none).or
        (sofar.conditions.get? (conditionKey i key)) := by
  induction keys generalizing index es sofar with
  | nil =>
      obtain rfl := List.length_eq_zero_iff.1 hlength
      simp [addEntries, conditionAt]
  | cons k keys ih =>
      cases es with
      | nil => simp at hlength
      | cons e es =>
          have hfirst := hsorted e List.mem_cons_self
          have hrest : ∀ e ∈ es, e.conditions.Sorted := fun e he =>
            hsorted e (List.mem_cons_of_mem _ he)
          rw [addEntries, ih (Nat.succ.inj hlength) hrest, addEntry, get?_recordConditions hfirst]
          rcases Nat.lt_trichotomy i index with hlt | rfl | hgt
          · rw [if_neg (by omega), if_neg (by omega), if_neg (by omega)]
            rfl
          · rw [if_neg (by omega), if_pos rfl, if_pos le_rfl, Nat.sub_self]
            rfl
          · have hplace : i - index = i - (index + 1) + 1 := by omega
            rw [if_pos (by omega), if_neg (by omega), if_pos (by omega), hplace, conditionAt,
              conditionAt, List.getElem?_cons_succ]
            rfl

theorem sorted_addEntries (keys : List String) (index : Nat) (es : List Expansion)
    {sofar : Resolution} (h : sofar.conditions.Sorted) :
    (addEntries index keys es sofar).conditions.Sorted := by
  induction keys generalizing index es sofar with
  | nil => exact h
  | cons key keys ih =>
      cases es with
      | nil => exact h
      | cons e es =>
          refine ih (index + 1) es ?_
          rw [addEntry, recordConditions_eq]
          exact h.mergeOver _

theorem mem_addEntries {keys : List String} {es : List Expansion} {sofar : Resolution}
    {entry : String × Json} (h : entry ∈ (addEntries index keys es sofar).conditions) :
    entry ∈ sofar.conditions ∨ ∃ i key, entry.1 = conditionKey i key := by
  induction keys generalizing index es sofar with
  | nil => exact .inl h
  | cons key keys ih =>
      cases es with
      | nil => exact .inl h
      | cons e es =>
          rcases ih h with h | h
          · rcases mem_recordConditions h with h | ⟨key, hkey⟩
            · exact .inl h
            · exact .inr ⟨index, key, hkey⟩
          · exact .inr h

theorem length_addEntries {keys : List String} {es : List Expansion} {sofar : Resolution}
    (hlength : es.length = keys.length) (hsorted : ∀ e ∈ es, e.conditions.Sorted)
    (hnew : ∀ i key, index ≤ i → sofar.conditions.get? (conditionKey i key) = none) :
    (addEntries index keys es sofar).conditions.length =
      sofar.conditions.length + (es.map (·.conditions.length)).sum := by
  induction keys generalizing index es sofar with
  | nil =>
      obtain rfl := List.length_eq_zero_iff.1 hlength
      rfl
  | cons key keys ih =>
      cases es with
      | nil => simp at hlength
      | cons e es =>
          have hfirst := hsorted e List.mem_cons_self
          have hrest : ∀ e ∈ es, e.conditions.Sorted := fun e he =>
            hsorted e (List.mem_cons_of_mem _ he)
          have hlater : ∀ i key', index + 1 ≤ i →
              (addEntry index key e sofar).conditions.get? (conditionKey i key') = none := by
            intro i key' hi
            rw [addEntry, get?_recordConditions hfirst, if_neg (by omega), hnew i key' (by omega)]
            rfl
          rw [addEntries, ih (Nat.succ.inj hlength) hrest hlater, addEntry,
            length_recordConditions hfirst (fun key' => hnew index key' le_rfl), List.map_cons,
            List.sum_cons, Nat.add_assoc]

/-- The conditions of some entries are recorded, each under its own key, and nothing else is. -/
structure Recorded (es : List Expansion) (conditions : Fields) : Prop where
  sorted : conditions.Sorted
  keyed : ∀ entry ∈ conditions, ∃ i key, entry.1 = conditionKey i key
  get?_eq : ∀ i key, conditions.get? (conditionKey i key) = conditionAt es i key
  length_eq : conditions.length = (es.map (·.conditions.length)).sum

variable {study : Study} {g g' : Generator} {r : Resolution} {es : List Expansion}

theorem Expands.sorted {keys : List String} (h : study.Expands index keys g es g') :
    ∀ e ∈ es, e.conditions.Sorted := by
  obtain ⟨logs, -, hleaves⟩ := h.exists_invokes
  intro e he
  obtain ⟨i, hi, rfl⟩ := List.getElem_of_mem he
  have hlog : i < logs.length := by rwa [hleaves.length_eq]
  exact ((List.forall₂_iff_get.1 hleaves).2 i hlog hi).sorted

theorem Expands.recorded (h : study.Expands 0 study.protocol.sequence g es g') :
    Recorded es (addEntries 0 study.protocol.sequence es ⟨[], []⟩).conditions where
  sorted := sorted_addEntries _ _ _ List.Pairwise.nil
  keyed := by
    intro entry hentry
    rcases mem_addEntries hentry with hentry | hkeyed
    · cases hentry
    · exact hkeyed
  get?_eq := by
    intro i key
    rw [get?_addEntries h.length_eq h.sorted, if_pos (Nat.zero_le i)]
    exact Option.or_none
  length_eq := by
    rw [length_addEntries h.length_eq h.sorted fun _ _ _ => rfl]
    exact Nat.zero_add _

/-! ## Reading back -/

/-- A later session reads the conditions of some entries back: what it finds for a frame key at an
entry was recorded for that frame key, at that entry if there is such a record. -/
structure ReadBack (es : List Expansion) (s : PastSession) : Prop where
  own : ∀ i key condition, conditionAt es i key = some condition →
    s.conditionFor (conditionKey i key) key = some condition
  other : ∀ i key condition, conditionAt es i key = none →
    s.conditionFor (conditionKey i key) key = some condition →
    ∃ j, j ≠ i ∧ conditionAt es j key = some condition
  none_iff : ∀ i key, s.conditionFor (conditionKey i key) key = none ↔
    ∀ j, conditionAt es j key = none

/-- What is found for a frame key was recorded for it. -/
theorem Recorded.exists_of_conditionFor {s : PastSession} (h : Recorded es s.conditions) {i : Nat}
    {key : String} {condition : Json}
    (hfound : s.conditionFor (conditionKey i key) key = some condition) :
    ∃ j, conditionAt es j key = some condition := by
  unfold PastSession.conditionFor at hfound
  split at hfound
  · next other hget =>
      refine ⟨i, ?_⟩
      rw [← h.get?_eq, hget, Option.some.inj hfound]
  · -- found at another entry, under a key that records this frame key
    obtain ⟨entry, hfind, rfl⟩ := Option.map_eq_some_iff.1 hfound
    have hmem := List.mem_of_find?_eq_some hfind
    have hrecords := List.find?_some hfind
    obtain ⟨j, k, hkey⟩ := h.keyed entry hmem
    rw [hkey, keyRecords_conditionKey_iff] at hrecords
    refine ⟨j, ?_⟩
    rw [← h.get?_eq, ← hrecords, ← hkey]
    exact h.sorted.get?_eq_some_of_mem hmem

theorem Recorded.readBack {s : PastSession} (h : Recorded es s.conditions) : ReadBack es s := by
  have hown : ∀ i key condition, conditionAt es i key = some condition →
      s.conditionFor (conditionKey i key) key = some condition := by
    intro i key condition hentry
    exact PastSession.conditionFor_of_get? ((h.get?_eq i key).trans hentry)
  refine ⟨hown, ?_, ?_⟩
  · intro i key condition hnone hfound
    obtain ⟨j, hj⟩ := h.exists_of_conditionFor hfound
    refine ⟨j, ?_, hj⟩
    rintro rfl
    rw [hnone] at hj
    cases hj
  · intro i key
    constructor
    · -- wherever the frame key was recorded, the scan comes upon its record
      intro hnone j
      rw [← h.get?_eq, Option.eq_none_iff_forall_ne_some]
      intro condition hget
      unfold PastSession.conditionFor at hnone
      split at hnone
      · cases hnone
      · rw [Option.map_eq_none_iff, List.find?_eq_none] at hnone
        exact hnone _ (Dict.mem_of_get?_eq_some hget) (keyRecords_conditionKey_iff.2 rfl)
    · intro hall
      rw [Option.eq_none_iff_forall_ne_some]
      intro condition hfound
      obtain ⟨j, hj⟩ := h.exists_of_conditionFor hfound
      rw [hall j] at hj
      cases hj

/-- The conditions of a resolved study are those of its entries, and are read back as such. -/
theorem conditions_read_back (h : study.resolve g = (.ok r, g')) :
    ∃ es, study.Expands 0 study.protocol.sequence g es g' ∧ Recorded es r.conditions ∧
      ∀ s : PastSession, s.conditions = r.conditions → ReadBack es s := by
  obtain ⟨es, hexpands, rfl⟩ := resolve_eq_ok_iff.1 h
  refine ⟨es, hexpands, hexpands.recorded, fun s hs => Recorded.readBack ?_⟩
  rw [hs]
  exact hexpands.recorded

/-- A sampler that shows the option at a place. -/
def choiceOf (place : Int) (options : List Json) : Json :=
  .obj [("frameOptions", .arr options), ("sampler", .str "select"), ("whichFrames", .int place)]

/-- A study in which `2_phys` is a frame key, and also what the condition of `phys` is recorded
under. -/
def underscoredStudy : Study where
  protocol :=
    { frames :=
        [("2_phys", choiceOf 0 [.obj [("kind", .str "x")]]),
          ("a_b", .obj [("kind", .str "y")]),
          ("phys", choiceOf 1 [.obj [("kind", .str "x")], .obj [("kind", .str "z")]])]
      sequence := ["2_phys", "a_b", "phys"] }
  resolver := ⟨.builtins, [], none⟩
  policy := .lenient

/-- What it resolves to. -/
def underscoredResolution : Resolution where
  frames :=
    [⟨"0-2_phys", [("kind", .str "x")]⟩, ⟨"1-a_b", [("kind", .str "y")]⟩,
      ⟨"2-phys", [("kind", .str "z")]⟩]
  conditions :=
    [("0_2_phys", .obj [("whichFrames", .int 0)]), ("2_phys", .obj [("whichFrames", .int 1)])]

theorem conditions_read_back_underscored :
    underscoredStudy.resolve (.ofSeed 0) = (.ok underscoredResolution, .ofSeed 0) ∧
      ∃ es, underscoredStudy.Expands 0 ["2_phys", "a_b", "phys"] (.ofSeed 0) es (.ofSeed 0) ∧
        Recorded es underscoredResolution.conditions ∧
        ∀ s : PastSession, s.conditions = underscoredResolution.conditions → ReadBack es s := by
  have hrun : underscoredStudy.resolve (.ofSeed 0) =
      (.ok underscoredResolution, .ofSeed 0) := by cbv
  exact ⟨hrun, conditions_read_back hrun⟩

end Study

end StudySession

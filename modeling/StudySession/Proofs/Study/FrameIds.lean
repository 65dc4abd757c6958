import Mathlib
import StudySession.Proofs.Study.Entries
import StudySession.Proofs.Text.Numeral

/-!
# Frame ids

An id is put together from decimals, dashes and a key that its author chose and that may hold
dashes and digits itself. `Study.placeOf` reads the place of a frame back from its id: the entry is
the number before the first character that is no digit, which is the dash that `Study.frameId`
wrote; the sequence then tells the key, whose length says where the number within the entry begins.
So the key is never searched for, and `a-1` beside a second frame of `a` does no harm.

`Study.resolve_frame_ids` says of every resolved study that its ids are distinct, follow the order
of the sequence, and number the frames of each entry without gap.
-/

namespace StudySession

namespace Study

/-- The place of a frame, read from its id: the entry's place in the sequence, and the frame's
number within the entry. -/
def placeOf (sequence : List String) (frameId : String) : Nat × Nat :=
  let id := frameId.toList
  let index := id.takeWhile Char.isDigit
  let entry := readDigits index
  let key := (sequence.getD entry "").toList
  (entry, readDigits ((id.drop (index.length + 1)).drop (key.length + 1)))

theorem toList_frameId (index : Nat) (key : String) (count number : Nat) :
    (frameId index key count number).toList =
      (toString index).toList ++ '-' ::
        (key.toList ++ if count = 1 then [] else '-' :: (toString number).toList) := by
  have dash : "-".toList = ['-'] := rfl
  simp only [frameId]
  split <;> simp [dash]

/-- Dropping a front and the character behind it leaves the rest. -/
theorem drop_front {α : Type} (front : List α) (x : α) (rest : List α) :
    (front ++ x :: rest).drop (front.length + 1) = rest := by
  rw [← List.drop_drop, List.drop_left, List.drop_one, List.tail_cons]

/-- The place of a frame is read back from its id, whatever the key. -/
theorem placeOf_frameId {sequence : List String} {index : Nat} {key : String}
    (h : sequence[index]? = some key) (count number : Nat) :
    placeOf sequence (frameId index key count number) =
      (index, if count = 1 then 0 else number) := by
  have hindex : (frameId index key count number).toList.takeWhile Char.isDigit =
      (toString index).toList := by
    rw [toList_frameId]
    exact takeWhile_toString_append index _ (fun d hd => hd) rfl
  have hkey : sequence.getD index "" = key := by simp [h]
  simp only [placeOf, hindex, readDigits_toString, hkey, Prod.mk.injEq, true_and]
  -- the key is taken off by its length, so it may hold dashes and digits
  rw [toList_frameId, drop_front]
  by_cases hc : count = 1
  · rw [if_pos hc, if_pos hc, List.append_nil, List.drop_of_length_le (Nat.le_succ _)]
    rfl
  · rw [if_neg hc, if_neg hc, drop_front, readDigits_toString]

/-! ## The frames of one entry -/

/-- The frames of an entry are numbered from zero without gap. -/
theorem map_placeOf_entryFrames {sequence : List String} {index : Nat} {key : String}
    (h : sequence[index]? = some key) (frames : List Fields) :
    (entryFrames index key frames).map (placeOf sequence ·.id) =
      (List.range frames.length).map (index, ·) := by
  apply List.ext_getElem
  · simp [entryFrames]
  · intro n hn _
    have hlt : n < frames.length := by simpa [entryFrames] using hn
    simp only [entryFrames, List.map_map, List.getElem_map, List.getElem_zipIdx,
      Function.comp_apply, List.getElem_range, placeOf_frameId h, Prod.mk.injEq, true_and]
    split <;> omega

theorem placeOf_mem_entryFrames {sequence : List String} {index : Nat} {key : String}
    (h : sequence[index]? = some key) {frames : List Fields} {f : ResolvedFrame}
    (hf : f ∈ entryFrames index key frames) : (placeOf sequence f.id).1 = index := by
  have hplace := List.mem_map_of_mem (f := fun f => placeOf sequence f.id) hf
  rw [map_placeOf_entryFrames h, List.mem_map] at hplace
  obtain ⟨number, -, hplace⟩ := hplace
  rw [← hplace]

/-- Only a lone frame goes without a number. -/
theorem map_id_entryFrames (index : Nat) (key : String) (frames : List Fields) :
    (entryFrames index key frames).map (·.id) =
      if frames.length = 1 then [toString index ++ "-" ++ key]
      else (List.range frames.length).map fun number =>
        toString index ++ "-" ++ key ++ "-" ++ toString number := by
  split
  · next hone =>
      obtain ⟨properties, rfl⟩ := List.length_eq_one_iff.1 hone
      rfl
  · next hmany =>
      apply List.ext_getElem
      · simp [entryFrames]
      · intro n _ _
        simp [entryFrames, frameId, hmany]

theorem map_properties_entryFrames (index : Nat) (key : String) (frames : List Fields) :
    (entryFrames index key frames).map (·.properties) = frames.map (·.erase "id") := by
  apply List.ext_getElem
  · simp [entryFrames]
  · intro n _ _
    simp [entryFrames]

/-! ## The frames of the sequence

`keys` is what is left of the sequence from the place `index` on, as `hkeys` says; the places below
are read with the whole sequence at hand. -/

variable {sequence keys : List String} {index : Nat}

/-- The rest of what is left, one place on. -/
theorem getElem?_tail_of_getElem? {key : String}
    (hkeys : ∀ n, (key :: keys)[n]? = sequence[index + n]?) (n : Nat) :
    keys[n]? = sequence[index + 1 + n]? := by
  have := hkeys (n + 1)
  rwa [List.getElem?_cons_succ, Nat.add_comm n, ← Nat.add_assoc] at this

/-- No frame from a place on belongs to an entry before it, or behind the last. -/
theorem placeOf_mem_framesFrom (hkeys : ∀ n, keys[n]? = sequence[index + n]?)
    {es : List Expansion} {f : ResolvedFrame} (hf : f ∈ framesFrom index keys es) :
    index ≤ (placeOf sequence f.id).1 ∧ (placeOf sequence f.id).1 < sequence.length := by
  induction keys generalizing index es with
  | nil => simp [framesFrom] at hf
  | cons key keys ih =>
      cases es with
      | nil => simp [framesFrom] at hf
      | cons e es =>
          rcases List.mem_append.1 hf with hf | hf
          · have hkey : sequence[index]? = some key := (hkeys 0).symm
            rw [placeOf_mem_entryFrames hkey hf]
            exact ⟨Nat.le_refl _, (List.getElem?_eq_some_iff.1 hkey).1⟩
          · have := ih (getElem?_tail_of_getElem? hkeys) hf
            exact ⟨Nat.le_of_succ_le this.1, this.2⟩

/-- The places of the frames from a place on increase strictly. -/
theorem pairwise_placeOf_framesFrom (hkeys : ∀ n, keys[n]? = sequence[index + n]?)
    (es : List Expansion) :
    ((framesFrom index keys es).map (placeOf sequence ·.id)).Pairwise
      (Prod.Lex (· < ·) (· < ·)) := by
  induction keys generalizing index es with
  | nil => simp [framesFrom]
  | cons key keys ih =>
      cases es with
      | nil => simp [framesFrom]
      | cons e es =>
          have hrest := getElem?_tail_of_getElem? hkeys
          have hkey : sequence[index]? = some key := (hkeys 0).symm
          rw [framesFrom, List.map_append, map_placeOf_entryFrames hkey]
          refine List.pairwise_append.2 ⟨?_, ih hrest es, ?_⟩
          · exact List.pairwise_lt_range.map _ fun _ _ h => .right _ h
          · -- a frame of this entry against one of a later entry
            intro p hp q hq
            obtain ⟨number, -, rfl⟩ := List.mem_map.1 hp
            obtain ⟨f, hf, rfl⟩ := List.mem_map.1 hq
            exact Prod.Lex.left _ _ (placeOf_mem_framesFrom hrest hf).1

/-- The frames that their ids place in an entry are the frames of that entry. -/
theorem filter_placeOf_framesFrom (hkeys : ∀ n, keys[n]? = sequence[index + n]?)
    {es : List Expansion} {n : Nat} {key : String} {e : Expansion} (hkey : keys[n]? = some key)
    (he : es[n]? = some e) :
    (framesFrom index keys es).filter (fun f => (placeOf sequence f.id).1 = index + n) =
      entryFrames (index + n) key e.frames := by
  induction keys generalizing index es n with
  | nil => simp at hkey
  | cons first keys ih =>
      cases es with
      | nil => simp at he
      | cons e₀ es =>
          have hrest := getElem?_tail_of_getElem? hkeys
          have hfirst : ∀ f ∈ entryFrames index first e₀.frames,
              (placeOf sequence f.id).1 = index :=
            fun f hf => placeOf_mem_entryFrames (hkeys 0).symm hf
          rw [framesFrom, List.filter_append]
          cases n with
          | zero =>
              -- all frames of the first entry are kept, and none after them
              obtain ⟨rfl, rfl⟩ : first = key ∧ e₀ = e := by simpa using And.intro hkey he
              rw [List.filter_eq_self.2 (by simpa using hfirst), List.filter_eq_nil_iff.2,
                List.append_nil]
              · rfl
              · intro f hf
                have := (placeOf_mem_framesFrom hrest hf).1
                simp only [decide_eq_true_eq]
                omega
          | succ n =>
              rw [List.filter_eq_nil_iff.2, List.nil_append]
              · have := ih hrest (n := n) (by simpa using hkey) (by simpa using he)
                rwa [Nat.add_right_comm, Nat.add_assoc] at this
              · intro f hf
                simp only [decide_eq_true_eq, hfirst f hf]
                omega

/-- A frame of a resolved study has the id that the entry it is placed in gives it. -/
theorem exists_frameId_of_placeOf {study : Study} {g g' : Generator} {r : Resolution}
    (h : study.resolve g = (.ok r, g')) {f : ResolvedFrame} (hf : f ∈ r.frames) {key : String}
    (hkey : study.protocol.sequence[(placeOf study.protocol.sequence f.id).1]? = some key) :
    ∃ count number, f.id =
      frameId (placeOf study.protocol.sequence f.id).1 key count number := by
  obtain ⟨es, hes, rfl⟩ := resolve_eq_ok_iff.1 h
  rw [addEntries_frames, List.nil_append] at hf
  generalize hindex : (placeOf study.protocol.sequence f.id).1 = index at hkey ⊢
  obtain ⟨e, he⟩ : ∃ e, es[index]? = some e := by
    have hlt := (List.getElem?_eq_some_iff.1 hkey).1
    rw [← hes.length_eq] at hlt
    exact ⟨_, List.getElem?_eq_getElem hlt⟩
  have hkeys : ∀ n, study.protocol.sequence[n]? = study.protocol.sequence[0 + n]? :=
    fun n => by rw [Nat.zero_add]
  have hshown := filter_placeOf_framesFrom hkeys hkey he
  have hmem : f ∈ entryFrames (0 + index) key e.frames := by
    rw [← hshown, List.mem_filter, Nat.zero_add]
    exact ⟨hf, by simpa using hindex⟩
  rw [Nat.zero_add] at hmem
  obtain ⟨⟨properties, number⟩, -, rfl⟩ := List.mem_map.1 hmem
  exact ⟨e.frames.length, number, rfl⟩

/-- How ids number the frames of a resolution whose entries come to some expansions. -/
structure Numbered (sequence : List String) (es : List Expansion) (frames : List ResolvedFrame) :
    Prop where
  /-- No two frames have the same id. -/
  distinct : (frames.map (·.id)).Nodup
  /-- The places that the ids tell increase strictly along the frames. -/
  ordered : (frames.map (placeOf sequence ·.id)).Pairwise (Prod.Lex (· < ·) (· < ·))
  /-- Every frame belongs to an entry. -/
  placed : ∀ f ∈ frames, (placeOf sequence f.id).1 < sequence.length
  /-- The frames of an entry are those that it expands to, in order and less their own `id`. They
  are numbered from zero without gap, and only a lone frame goes without a number. -/
  entry : ∀ (index : Nat) (key : String), sequence[index]? = some key →
    ∃ e, es[index]? = some e ∧
      let shown := frames.filter fun f => (placeOf sequence f.id).1 = index
      shown.map (·.properties) = e.frames.map (·.erase "id") ∧
        shown.map (placeOf sequence ·.id) = (List.range e.frames.length).map (index, ·) ∧
        shown.map (·.id) =
          if e.frames.length = 1 then [toString index ++ "-" ++ key]
          else (List.range e.frames.length).map fun number =>
            toString index ++ "-" ++ key ++ "-" ++ toString number

/-- **Frame ids are distinct and follow the sequence.** Whatever the keys of a study and its nodes,
an id tells the place of its frame, and the frames stand in the order of their places. -/
theorem resolve_frame_ids {study : Study} {g g' : Generator} {r : Resolution}
    (h : study.resolve g = (.ok r, g')) :
    ∃ es, study.Expands 0 study.protocol.sequence g es g' ∧
      Numbered study.protocol.sequence es r.frames := by
  obtain ⟨es, hes, rfl⟩ := resolve_eq_ok_iff.1 h
  have hkeys : ∀ n, study.protocol.sequence[n]? = study.protocol.sequence[0 + n]? := by simp
  have hframes := addEntries_frames study.protocol.sequence 0 es ⟨[], []⟩
  rw [List.nil_append] at hframes
  have hordered := pairwise_placeOf_framesFrom hkeys es
  refine ⟨es, hes, ?_⟩
  rw [hframes]
  refine
    { distinct := ?_
      ordered := hordered
      placed := fun f hf => (placeOf_mem_framesFrom hkeys hf).2
      entry := ?_ }
  · -- equal ids would tell equal places, and places increase strictly
    have hplaces : ((framesFrom 0 study.protocol.sequence es).map
        (placeOf study.protocol.sequence ·.id)).Nodup :=
      hordered.imp fun hlt heq => by
        subst heq
        simp [Prod.lex_def] at hlt
    rw [← Function.comp_def (placeOf _), ← List.map_map] at hplaces
    exact hplaces.of_map
  · intro index key hkey
    obtain ⟨e, he⟩ : ∃ e, es[index]? = some e := by
      have hlt := (List.getElem?_eq_some_iff.1 hkey).1
      rw [← hes.length_eq] at hlt
      exact ⟨_, List.getElem?_eq_getElem hlt⟩
    have hshown := filter_placeOf_framesFrom hkeys hkey he
    rw [Nat.zero_add] at hshown
    refine ⟨e, he, ?_⟩
    rw [hshown]
    exact ⟨map_properties_entryFrames .., map_placeOf_entryFrames hkey _, map_id_entryFrames ..⟩

/-- A study in which `a` shows two frames, and `a-1` is a key of the sequence and of a frame. -/
def dashedStudy : Study where
  protocol :=
    { frames :=
        [("a", .obj [("frameList", .arr
            [.obj [("kind", .str "x")], .obj [("id", .str "a-1"), ("kind", .str "y")]])]),
          ("a-1", .obj [("kind", .str "z")])]
      sequence := ["a", "a-1", "a"] }
  resolver := ⟨.builtins, [], none⟩
  policy := .lenient

/-- What it resolves to. -/
def dashedResolution : Resolution where
  frames :=
    [⟨"0-a-0", [("kind", .str "x")]⟩, ⟨"0-a-1", [("kind", .str "y")]⟩,
      ⟨"1-a-1", [("kind", .str "z")]⟩,
      ⟨"2-a-0", [("kind", .str "x")]⟩, ⟨"2-a-1", [("kind", .str "y")]⟩]
  conditions := []

theorem resolve_frame_ids_dashed :
    dashedStudy.resolve (.ofSeed 0) = (.ok dashedResolution, .ofSeed 0) ∧
      ∃ es, dashedStudy.Expands 0 ["a", "a-1", "a"] (.ofSeed 0) es (.ofSeed 0) ∧
        Numbered ["a", "a-1", "a"] es dashedResolution.frames := by
  have hrun : dashedStudy.resolve (.ofSeed 0) = (.ok dashedResolution, .ofSeed 0) := by cbv
  exact ⟨hrun, resolve_frame_ids hrun⟩

end Study

end StudySession

import StudySession.Proofs.Study.Conditions
import StudySession.Proofs.Study.History

/-!
# Completion markers

Whether a session completed an entry is read from the ids of its frames. An id is the place of its
entry, the entry's key and, for one frame of several, a number; but a key may end in a dash and a
number itself, and then its id reads in two ways. `Study.Shown.Reads` says which markers the frames
of an entry are read as: the entry's key, a key that the only frame's key numbers, and the key of an
entry of several frames with the number of one. `Study.completed_iff_reads` says that a session
completed exactly these. So a key counts as completed by its own frames alone where no key of the
sequence is another one with a number; where one is, a session may count as having completed an
entry that it never showed (`Study.completes_unshown`).
-/

namespace StudySession

/-- One text is another with a dash and a number behind it. -/
def NumberedFrom (key marker : String) : Prop :=
  ∃ digits, isIndex digits = true ∧ key.toList = marker.toList ++ '-' :: digits

instance (key marker : String) : Decidable (NumberedFrom key marker) :=
  decidable_of_iff ((afterPrefix? (marker.toList ++ ['-']) key.toList).any isIndex = true) (by
    simp [Option.any_eq_true, afterPrefix?_eq_some_iff, NumberedFrom, and_comm])

theorem dash_not_mem_of_isIndex {digits : List Char} (h : isIndex digits = true) :
    '-' ∉ digits := by
  intro hmem
  simp only [isIndex, Bool.and_eq_true, List.all_eq_true] at h
  have hdigit := h.2 '-' hmem
  simp at hdigit

/-- A text tells what stands before its last dash and after it. -/
theorem numbered_inj {front front' digits digits' : List Char} (hdigits : isIndex digits = true)
    (hdigits' : isIndex digits' = true) (h : front ++ '-' :: digits = front' ++ '-' :: digits') :
    front = front' ∧ digits = digits' := by
  have hreverse := congrArg List.reverse h
  simp only [List.reverse_append, List.reverse_cons, List.append_assoc, List.singleton_append]
    at hreverse
  have hnot : ∀ {ds : List Char}, isIndex ds = true → '-' ∉ ds.reverse := fun hds hmem =>
    dash_not_mem_of_isIndex hds (List.mem_reverse.1 hmem)
  obtain ⟨hlast, hfront⟩ := append_cons_inj (hnot hdigits) (hnot hdigits') hreverse
  exact ⟨List.reverse_injective hfront, List.reverse_injective hlast⟩

namespace Study

variable {study : Study} {g g' : Generator} {r : Resolution} {sequence keys : List String}
  {es : List Expansion} {index : Nat}

/-! ## What is shown -/

/-- An entry of the sequence that shows some frames. -/
structure Shown where
  index : Nat
  key : String
  /-- How many frames it shows. -/
  count : Nat

namespace Shown

/-- The entry is one of those that expanded, and shows at least one frame. -/
structure In (shown : Shown) (sequence : List String) (es : List Expansion) : Prop where
  key_eq : sequence[shown.index]? = some shown.key
  count_eq : es[shown.index]?.map (·.frames.length) = some shown.count
  pos : 0 < shown.count

/-- The markers that the ids of the entry's frames are read as. -/
def Reads (shown : Shown) (marker : String) : Prop :=
  shown.key = marker ∨
    (shown.count = 1 ∧ NumberedFrom shown.key marker) ∨
    (1 < shown.count ∧ ∃ number < shown.count, marker = shown.key ++ "-" ++ toString number)

/-- Some frame of the entry has an id that carries a marker exactly where the entry reads as it. -/
theorem exists_idCarries_iff {shown : Shown} (hpos : 0 < shown.count) {marker : String} :
    (∃ number < shown.count,
      idCarries marker (frameId shown.index shown.key shown.count number) = true) ↔
      shown.Reads marker := by
  obtain ⟨index, key, count⟩ := shown
  simp only [idCarries_frameId_iff, Reads] at hpos ⊢
  by_cases hlone : count = 1
  · -- the only frame has no number, so a marker may end within its key
    subst hlone
    simp [numberSuffix, NumberedFrom, String.toList_inj]
  · have hsuffix : ∀ number, numberSuffix count number = '-' :: (toString number).toList :=
      fun number => if_neg hlone
    have hdash : "-".toList = ['-'] := rfl
    constructor
    · rintro ⟨number, hnumber, hwhole | ⟨digits, hdigits, hnumbered⟩⟩
      · refine .inr (.inr ⟨by omega, number, hnumber, String.toList_inj.1 ?_⟩)
        rw [← hwhole, hsuffix]
        simp [hdash]
      · rw [hsuffix] at hnumbered
        exact .inl (String.toList_inj.1
          (numbered_inj (isIndex_toString number) hdigits hnumbered).1)
    · rintro (rfl | ⟨hcount, -⟩ | ⟨-, number, hnumber, rfl⟩)
      · exact ⟨0, hpos, .inr ⟨_, isIndex_toString 0, by rw [hsuffix]⟩⟩
      · exact absurd hcount hlone
      · refine ⟨number, hnumber, .inl ?_⟩
        rw [hsuffix]
        simp [hdash]

end Shown

/-- The ids of an entry's frames. -/
theorem mem_ids_entryFrames {key id : String} {frames : List Fields} :
    id ∈ (entryFrames index key frames).map (·.id) ↔
      ∃ number < frames.length, frameId index key frames.length number = id := by
  simp only [entryFrames, List.map_map, List.mem_map, Prod.exists, List.mem_zipIdx_iff_getElem?,
    Function.comp_apply]
  constructor
  · rintro ⟨properties, number, hframe, hid⟩
    exact ⟨number, (List.getElem?_eq_some_iff.1 hframe).1, hid⟩
  · rintro ⟨number, hnumber, hid⟩
    exact ⟨frames[number], number, List.getElem?_eq_getElem hnumber, hid⟩

/-- The frames from a place on are those of the entries from there on. -/
theorem mem_ids_framesFrom {id : String} :
    id ∈ (framesFrom index keys es).map (·.id) ↔
      ∃ n key e, keys[n]? = some key ∧ es[n]? = some e ∧
        id ∈ (entryFrames (index + n) key e.frames).map (·.id) := by
  induction keys generalizing index es with
  | nil => simp [framesFrom]
  | cons key keys ih =>
      cases es with
      | nil => simp [framesFrom]
      | cons e es =>
          rw [framesFrom, List.map_append, List.mem_append, ih]
          constructor
          · rintro (hid | ⟨n, key', e', hkey, he, hid⟩)
            · exact ⟨0, key, e, rfl, rfl, hid⟩
            · refine ⟨n + 1, key', e', hkey, he, ?_⟩
              rwa [← Nat.add_assoc, Nat.add_right_comm]
          · rintro ⟨n, key', e', hkey, he, hid⟩
            cases n with
            | zero =>
                obtain ⟨rfl, rfl⟩ : key = key' ∧ e = e' := by simpa using And.intro hkey he
                exact .inl hid
            | succ n =>
                refine .inr ⟨n, key', e', hkey, he, ?_⟩
                rwa [Nat.add_right_comm, Nat.add_assoc]

/-- The frames of a sequence have the ids that their entries give them. -/
theorem mem_ids_iff {id : String} :
    id ∈ (framesFrom 0 sequence es).map (·.id) ↔
      ∃ shown : Shown, shown.In sequence es ∧
        ∃ number < shown.count, frameId shown.index shown.key shown.count number = id := by
  rw [mem_ids_framesFrom]
  simp only [Nat.zero_add, mem_ids_entryFrames]
  constructor
  · rintro ⟨n, key, e, hkey, he, number, hnumber, hid⟩
    exact ⟨⟨n, key, e.frames.length⟩, ⟨hkey, by simp [he], Nat.zero_lt_of_lt hnumber⟩, number,
      hnumber, hid⟩
  · rintro ⟨⟨n, key, count⟩, hin, number, hnumber, hid⟩
    obtain ⟨e, he, rfl⟩ := Option.map_eq_some_iff.1 hin.count_eq
    exact ⟨n, key, e, hin.key_eq, he, number, hnumber, hid⟩

/-! ## What counts as completed -/

/-- A session that holds data under the ids of a sequence's frames completed the markers that the
entries with frames are read as. -/
theorem hasCompleted_iff {s : PastSession}
    (hdata : ∀ id, id ∈ s.expData.keys ↔ id ∈ (framesFrom 0 sequence es).map (·.id))
    (marker : String) :
    s.hasCompleted marker = true ↔
      ∃ shown : Shown, shown.In sequence es ∧ shown.Reads marker := by
  rw [PastSession.hasCompleted, List.any_eq_true]
  constructor
  · rintro ⟨id, hid, hcarries⟩
    obtain ⟨shown, hin, number, hnumber, rfl⟩ := mem_ids_iff.1 ((hdata id).1 hid)
    exact ⟨shown, hin, (Shown.exists_idCarries_iff hin.pos).1 ⟨number, hnumber, hcarries⟩⟩
  · rintro ⟨shown, hin, hreads⟩
    obtain ⟨number, hnumber, hcarries⟩ := (Shown.exists_idCarries_iff hin.pos).2 hreads
    exact ⟨_, (hdata _).2 (mem_ids_iff.2 ⟨shown, hin, number, hnumber, rfl⟩), hcarries⟩

/-- **What a session completed.** Let a study resolve and a session hold data under exactly the ids of
its frames. For every text, the session completed it exactly where it is a marker that some entry
with frames is read as. In particular, where no key of the sequence is the text with a number behind
it and the text is no key of the sequence with a number behind it, the session completed it exactly
where it is the key of an entry with frames. -/
theorem completed_iff_reads {s : PastSession} (h : study.resolve g = (.ok r, g'))
    (hdata : ∀ id, id ∈ s.expData.keys ↔ id ∈ r.frames.map (·.id)) (marker : String) :
    ∃ es, study.Expands 0 study.protocol.sequence g es g' ∧
      (s.hasCompleted marker = true ↔
        ∃ shown : Shown, shown.In study.protocol.sequence es ∧ shown.Reads marker) ∧
      ((∀ key ∈ study.protocol.sequence,
          ¬ NumberedFrom key marker ∧ ¬ NumberedFrom marker key) →
        (s.hasCompleted marker = true ↔
          ∃ shown : Shown, shown.In study.protocol.sequence es ∧ shown.key = marker)) := by
  obtain ⟨es, hexpands, rfl⟩ := resolve_eq_ok_iff.1 h
  rw [addEntries_frames, List.nil_append] at hdata
  have hiff := hasCompleted_iff hdata marker
  refine ⟨es, hexpands, hiff, fun hplain => ?_⟩
  rw [hiff]
  refine exists_congr fun shown => and_congr_right fun hin => ?_
  obtain ⟨hnot, hnot'⟩ := hplain shown.key (List.mem_of_getElem? hin.key_eq)
  constructor
  · rintro (hkey | ⟨-, hnumbered⟩ | ⟨-, number, -, hmarker⟩)
    · exact hkey
    · exact absurd hnumbered hnot
    · refine absurd ⟨(toString number).toList, isIndex_toString number, ?_⟩ hnot'
      rw [hmarker]
      simp
  · exact .inl

/-! A session that showed both frames of `a` and the only one of `a-1`, and none of a group without
members. -/

def visitStudy : Study where
  protocol :=
    { frames :=
        [("a", .obj [("frameList", .arr [.obj [("kind", .str "x")], .obj [("kind", .str "y")]])]),
          ("a-1", .obj [("kind", .str "z")]), ("empty", .obj [("frameList", .arr [])])]
      sequence := ["a", "a-1", "empty"] }
  resolver := ⟨.builtins, [], none⟩
  policy := .lenient

def visitResolution : Resolution where
  frames := [⟨"0-a-0", [("kind", .str "x")]⟩, ⟨"0-a-1", [("kind", .str "y")]⟩,
    ⟨"1-a-1", [("kind", .str "z")]⟩]
  conditions := []

def visitSession : PastSession where
  conditions := []
  expData := [("0-a-0", .null), ("0-a-1", .null), ("1-a-1", .null)]

theorem completed_iff_reads_visit :
    visitStudy.resolve (.ofSeed 0) = (.ok visitResolution, .ofSeed 0) ∧
      (∀ id, id ∈ visitSession.expData.keys ↔ id ∈ visitResolution.frames.map (·.id)) ∧
      (∃ es, visitStudy.Expands 0 ["a", "a-1", "empty"] (.ofSeed 0) es (.ofSeed 0) ∧
        (visitSession.hasCompleted "a-1" = true ↔
          ∃ shown : Shown, shown.In ["a", "a-1", "empty"] es ∧ shown.Reads "a-1")) ∧
      ∃ es, visitStudy.Expands 0 ["a", "a-1", "empty"] (.ofSeed 0) es (.ofSeed 0) ∧
        (visitSession.hasCompleted "empty" = true ↔
          ∃ shown : Shown, shown.In ["a", "a-1", "empty"] es ∧ shown.key = "empty") := by
  have hrun : visitStudy.resolve (.ofSeed 0) = (.ok visitResolution, .ofSeed 0) := by cbv
  have hdata : ∀ id, id ∈ visitSession.expData.keys ↔ id ∈ visitResolution.frames.map (·.id) :=
    fun _ => .rfl
  have hplain : ∀ key ∈ visitStudy.protocol.sequence,
      ¬ NumberedFrom key "empty" ∧ ¬ NumberedFrom "empty" key := by decide +kernel
  obtain ⟨es, hexpands, hiff, -⟩ := completed_iff_reads hrun hdata "a-1"
  obtain ⟨es', hexpands', -, hiff'⟩ := completed_iff_reads hrun hdata "empty"
  exact ⟨hrun, hdata, ⟨es, hexpands, hiff⟩, es', hexpands', hiff' hplain⟩

/-- A study that shows one frame, the key of which ends in a number. -/
def physicsStudy : Study where
  protocol := { frames := [("physics-2", .obj [("kind", .str "x")])], sequence := ["physics-2"] }
  resolver := ⟨.builtins, [], none⟩
  policy := .lenient

def physicsSession : PastSession where
  conditions := []
  expData := [("0-physics-2", .null)]

/-- The session counts as having completed `physics`, which is no entry of the sequence. -/
theorem completes_unshown :
    ∃ r, physicsStudy.resolve (.ofSeed 0) = (.ok r, .ofSeed 0) ∧
      physicsSession.expData.keys = r.frames.map (·.id) ∧
      "physics" ∉ physicsStudy.protocol.sequence ∧
      physicsSession.hasCompleted "physics" = true := by
  have hrun : physicsStudy.resolve (.ofSeed 0) =
      (.ok ⟨[⟨"0-physics-2", [("kind", .str "x")]⟩], []⟩, .ofSeed 0) := by cbv
  exact ⟨_, hrun, rfl, by decide, by decide +kernel⟩

end Study

end StudySession

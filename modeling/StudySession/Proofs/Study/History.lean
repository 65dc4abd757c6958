import StudySession.Proofs.Dict
import StudySession.Proofs.Study.FrameIds
import StudySession.Study.Session

/-!
# Reading a session back

What an earlier session left is read through the ids of its frames and the keys of its conditions.
The id that a resolution gives to a frame of an entry is read as one of that entry's key, so a
session that showed any frame of an entry counts as having completed it.
-/

namespace StudySession

theorem afterPrefix?_eq_some_iff {α : Type} [DecidableEq α] {ps xs rest : List α} :
    afterPrefix? ps xs = some rest ↔ xs = ps ++ rest := by
  induction ps generalizing xs with
  | nil => simp [afterPrefix?]
  | cons p ps ih =>
      cases xs with
      | nil => simp [afterPrefix?]
      | cons x xs =>
          rw [afterPrefix?, List.cons_append, List.cons.injEq]
          split
          · next h => rw [ih, h, and_iff_right rfl]
          · next h => simp [Ne.symm h]

/-- What follows the entry's key in the id of a frame: nothing where it is the only one, and else its
number. -/
def numberSuffix (count number : Nat) : List Char :=
  if count = 1 then [] else '-' :: (toString number).toList

/-- The id of a frame carries the markers that, alone or with a number behind them, make up what
follows the entry's place. -/
theorem idCarries_frameId_iff {marker : String} {index count number : Nat} {key : String} :
    idCarries marker (Study.frameId index key count number) = true ↔
      key.toList ++ numberSuffix count number = marker.toList ∨
        ∃ digits, isIndex digits = true ∧
          key.toList ++ numberSuffix count number = marker.toList ++ '-' :: digits := by
  have hid := Study.toList_frameId index key count number
  have hdash : ∀ d : Char, d.isDigit = true → (d != '-') = true := by
    intro d hd
    by_contra hne
    obtain rfl : d = '-' := by simpa using hne
    simp at hd
  have hindex : (Study.frameId index key count number).toList.takeWhile (· != '-') =
      (toString index).toList := by
    rw [hid]
    exact takeWhile_toString_append index _ hdash rfl
  have hkey : key.toList ++ (if count = 1 then [] else '-' :: (toString number).toList) =
      key.toList ++ numberSuffix count number := rfl
  unfold idCarries
  dsimp only
  rw [hindex, hid, List.drop_left, hkey]
  dsimp only
  rw [isIndex_toString, Bool.true_and]
  generalize key.toList ++ numberSuffix count number = shown
  constructor
  · intro h
    split at h
    · next hrest => exact .inl (by simpa using afterPrefix?_eq_some_iff.1 hrest)
    · next digits hrest => exact .inr ⟨digits, h, afterPrefix?_eq_some_iff.1 hrest⟩
    · cases h
  · rintro (rfl | ⟨digits, hdigits, rfl⟩)
    · rw [afterPrefix?_eq_some_iff.2 (List.append_nil _).symm]
    · rw [afterPrefix?_eq_some_iff.2 rfl]
      exact hdigits

/-- The id of a frame of an entry carries the entry's key. -/
theorem idCarries_frameId (index : Nat) (key : String) (count number : Nat) :
    idCarries key (Study.frameId index key count number) = true := by
  rw [idCarries_frameId_iff, numberSuffix]
  by_cases hlone : count = 1
  · rw [if_pos hlone]
    exact .inl (List.append_nil _)
  · rw [if_neg hlone]
    exact .inr ⟨_, isIndex_toString number, rfl⟩

namespace PastSession

/-- A session that holds data of a frame of an entry has completed the entry's key. -/
theorem hasCompleted_of_frameId {s : PastSession} {index count number : Nat} {key : String}
    (h : s.expData.has (Study.frameId index key count number)) : s.hasCompleted key = true := by
  obtain ⟨value, hvalue⟩ := Option.isSome_iff_exists.1 h
  refine List.any_eq_true.2 ⟨Study.frameId index key count number, ?_, idCarries_frameId ..⟩
  exact List.mem_map_of_mem (Dict.mem_of_get?_eq_some hvalue)

theorem conditionFor_of_get? {s : PastSession} {conditionKey frameKey : String} {condition : Json}
    (h : s.conditions.get? conditionKey = some condition) :
    s.conditionFor conditionKey frameKey = some condition := by
  rw [conditionFor, h]

end PastSession

end StudySession

import Mathlib.Data.List.Basic
import StudySession.Text.Blank

/-!
# Pieces of a text

`piecesBetween` takes a text apart at its separators: there is always a piece, one separator more
makes one piece more, and a text without separators is the only piece.
-/

namespace StudySession

variable {isSeparator : Char → Bool}

theorem piecesBetween_ne_nil (isSeparator : Char → Bool) (s : List Char) :
    piecesBetween isSeparator s ≠ [] := by
  cases s with
  | nil => simp [piecesBetween]
  | cons c s =>
      rw [piecesBetween, List.foldr_cons]
      split
      · split <;> simp
      · simp

theorem exists_piecesBetween (isSeparator : Char → Bool) (s : List Char) :
    ∃ piece rest, piecesBetween isSeparator s = piece :: rest :=
  List.exists_cons_of_ne_nil (piecesBetween_ne_nil isSeparator s)

theorem piecesBetween_cons {s piece : List Char} {rest : List (List Char)}
    (h : piecesBetween isSeparator s = piece :: rest) (c : Char) :
    piecesBetween isSeparator (c :: s) =
      if isSeparator c then [] :: piece :: rest else (c :: piece) :: rest := by
  rw [piecesBetween, List.foldr_cons]
  rw [piecesBetween] at h
  rw [h]

/-- A separator parts the pieces before it from those behind it. -/
theorem piecesBetween_append (hc : isSeparator c = true) (s t : List Char) :
    piecesBetween isSeparator (s ++ c :: t) =
      piecesBetween isSeparator s ++ piecesBetween isSeparator t := by
  induction s with
  | nil =>
      obtain ⟨piece, rest, hpieces⟩ := exists_piecesBetween isSeparator t
      rw [List.nil_append, piecesBetween_cons hpieces, if_pos hc, hpieces]
      rfl
  | cons d s ih =>
      obtain ⟨piece, rest, hpieces⟩ := exists_piecesBetween isSeparator s
      rw [hpieces] at ih
      rw [List.cons_append, piecesBetween_cons ih, piecesBetween_cons hpieces]
      split <;> rfl

theorem piecesBetween_congr {p q : Char → Bool} {s : List Char} (h : ∀ c ∈ s, p c = q c) :
    piecesBetween p s = piecesBetween q s := by
  induction s with
  | nil => rfl
  | cons c s ih =>
      have hrest := ih fun d hd => h d (List.mem_cons_of_mem _ hd)
      obtain ⟨piece, rest, hpieces⟩ := exists_piecesBetween p s
      rw [piecesBetween_cons hpieces, piecesBetween_cons (hrest ▸ hpieces), h c List.mem_cons_self]

theorem prefix_of_first_piece {s piece : List Char} {rest : List (List Char)}
    (h : piecesBetween isSeparator s = piece :: rest) : piece <+: s := by
  induction s generalizing piece rest with
  | nil =>
      obtain ⟨rfl, -⟩ := List.cons.inj h
      exact List.nil_prefix
  | cons c s ih =>
      obtain ⟨first, others, hpieces⟩ := exists_piecesBetween isSeparator s
      rw [piecesBetween_cons hpieces] at h
      split at h
      · obtain ⟨rfl, -⟩ := List.cons.inj h
        exact List.nil_prefix
      · obtain ⟨rfl, -⟩ := List.cons.inj h
        exact List.cons_prefix_cons.2 ⟨rfl, ih hpieces⟩

theorem piecesBetween_of_forall {s : List Char} (h : ∀ c ∈ s, isSeparator c = false) :
    piecesBetween isSeparator s = [s] := by
  induction s with
  | nil => rfl
  | cons c s ih =>
      have hrest := ih fun d hd => h d (List.mem_cons_of_mem _ hd)
      rw [piecesBetween_cons hrest, h c List.mem_cons_self]
      rfl

theorem textsBetween_of_not_mem {separator : Char} {s : String} (h : separator ∉ s.toList) :
    textsBetween separator s = [s] := by
  have hpieces : piecesBetween (· == separator) s.toList = [s.toList] :=
    piecesBetween_of_forall fun c hc => beq_false_of_ne fun heq => h (heq ▸ hc)
  rw [textsBetween, hpieces, List.map_singleton, String.ofList_toList]

end StudySession

import StudySession.Study.Session

/-!
# Numerals

A number in decimal digits, as it stands at the front of frame ids and condition keys. The digits
of a number are never empty and hold digits only, so the first other character ends them, and they
read back as the number. Everything that is decoded from an id rests on these facts.
-/

namespace StudySession

/-- The number that digits write; no digits write zero. -/
def readDigits (digits : List Char) : Nat := Nat.ofDigitChars 10 digits 0

/-- Digits read back as the number they were written for. -/
@[simp] theorem readDigits_toString (n : Nat) : readDigits (toString n).toList = n := by
  simp [readDigits]

theorem isDigit_of_mem_toString {n : Nat} {c : Char} (h : c ∈ (toString n).toList) :
    c.isDigit = true := by
  rw [Nat.toString_eq_repr, Nat.toList_repr] at h
  exact Nat.isDigit_of_mem_toDigits (by decide) (by decide) h

theorem toList_toString_ne_nil (n : Nat) : (toString n).toList ≠ [] := by
  rw [Nat.toString_eq_repr, Nat.toList_repr]
  exact Nat.toDigits_ne_nil

/-- The digits of a number are an index. -/
@[simp] theorem isIndex_toString (n : Nat) : isIndex (toString n).toList = true := by
  have hne := toList_toString_ne_nil n
  simp only [isIndex, Bool.and_eq_true, Bool.not_eq_true', List.isEmpty_eq_false_iff, List.all_eq_true]
  exact ⟨hne, fun c hc => isDigit_of_mem_toString hc⟩

/-- Digits end at the first character that is none: a scan over a number and what follows it stops
right behind the number. -/
theorem takeWhile_toString_append {p : Char → Bool} (n : Nat) {c : Char} (rest : List Char)
    (digits : ∀ d : Char, d.isDigit = true → p d = true) (stop : p c = false) :
    ((toString n).toList ++ c :: rest).takeWhile p = (toString n).toList := by
  rw [List.takeWhile_append_of_pos fun d hd => digits d (isDigit_of_mem_toString hd)]
  simp [stop]

end StudySession

import Mathlib.Algebra.Ring.Nat
import StudySession.Proofs.Study.Steps
import StudySession.Proofs.Text.Numeral

/-!
# Numbered placeholders

A text `NAME#d` with decimal digits `d` takes the item at that place of the array under `NAME`, and
is refused where the array has none. The digits may be any, with zeros in front and as many as one
likes, but their number has to fit a word (`Placeholder.Numbered.ofText?`). A text with a number
beyond is no placeholder: it stays as it is, whether or not its name is bound and whatever the
policy.
-/

namespace StudySession

namespace Placeholder

/-- A name and the digits of a number, as they stand before and after a `#`. -/
structure Numbered (name digits : String) : Prop where
  name_ne : name ≠ ""
  name_chars : name.toList.all isNameChar = true
  digits_ne : digits ≠ ""
  digits_chars : digits.toList.all Char.isDigit = true

variable {name suffix digits : String}

theorem decimal_eq_readDigits (digits : List Char) : decimal digits = readDigits digits := by
  rw [decimal, readDigits, Nat.ofDigitChars]
  congr 1
  funext n c
  rw [Nat.mul_comm]

theorem selector?_of_digits {digits : List Char} (hne : digits ≠ [])
    (hdigits : digits.all Char.isDigit = true) :
    selector? digits =
      if readDigits digits < 2 ^ 64 then some (.index (readDigits digits)) else none := by
  -- no word begins with a digit
  have hword : ∀ word : List Char, word.all Char.isDigit = false → digits ≠ word := by
    rintro word hword rfl
    rw [hword] at hdigits
    cases hdigits
  have hindex : (!digits.isEmpty && digits.all Char.isDigit) = true := by
    rw [hdigits, Bool.and_true, Bool.not_eq_true', List.isEmpty_eq_false_iff]
    exact hne
  have hpow : Nat.pow 2 64 = 2 ^ 64 := rfl
  rw [selector?, if_neg (hword _ (by decide)), if_neg (hword _ (by decide)),
    if_neg (hword _ (by decide)), if_pos hindex, hpow, decimal_eq_readDigits]

/-- A text is read as the name before its last `#` and what is after it. -/
theorem ofText?_tagged (hne : name ≠ "") (hchars : name.toList.all isNameChar = true)
    (hsuffix : '#' ∉ suffix.toList) :
    ofText? (name ++ "#" ++ suffix) = (selector? suffix.toList).map fun s => ⟨name, s⟩ := by
  have htext : (name ++ "#" ++ suffix).toList = name.toList ++ '#' :: suffix.toList := by simp
  have hback : (name.toList ++ '#' :: suffix.toList).reverse =
      suffix.toList.reverse ++ '#' :: name.toList.reverse := by simp
  have hsplit : ((name.toList ++ '#' :: suffix.toList).reverse.takeWhile (· != '#')).reverse =
      suffix.toList := by
    rw [hback, List.takeWhile_append_of_pos]
    · simp
    · intro c hc
      rw [List.mem_reverse] at hc
      simp only [bne_iff_ne]
      rintro rfl
      exact hsuffix hc
  have hbefore : (name.toList ++ '#' :: suffix.toList).take
      ((name.toList ++ '#' :: suffix.toList).length - suffix.toList.length) =
      name.toList ++ ['#'] := by
    rw [List.append_cons, List.length_append, Nat.add_sub_cancel, List.take_left]
  have hname : (!name.toList.isEmpty && name.toList.all isNameChar) = true := by
    rw [hchars, Bool.and_true, Bool.not_eq_true', List.isEmpty_eq_false_iff]
    simpa using hne
  rw [ofText?, htext]
  dsimp only
  rw [hsplit, hbefore, List.getLast?_concat]
  dsimp only
  rw [List.dropLast_concat, if_pos hname, String.ofList_toList]

theorem Numbered.ofText? (h : Numbered name digits) :
    ofText? (name ++ "#" ++ digits) =
      if readDigits digits.toList < 2 ^ 64 then some ⟨name, .index (readDigits digits.toList)⟩
      else none := by
  have hhash : '#' ∉ digits.toList := fun hmem =>
    absurd (List.all_eq_true.1 h.digits_chars _ hmem) (by decide)
  have hne : digits.toList ≠ [] := by simpa using h.digits_ne
  rw [ofText?_tagged h.name_ne h.name_chars hhash, selector?_of_digits hne h.digits_chars]
  split <;> rfl

end Placeholder

namespace Resolve

open Placeholder (Numbered)

variable {context : Fields} {name digits : String} {items : List Json} {pass : Pass}

/-- What is read as no placeholder stays as it is. -/
theorem run_substitute_of_literal {text : String} (hwhole : context.get? text = none)
    (hread : Placeholder.ofText? text = none) (pass : Pass) :
    run (substitute context (.str text)) pass = (.ok (.str text), pass) := by
  rw [substitute, substituteText, hwhole]
  dsimp only
  rw [hread]
  rfl

/-- A number in words is looked up in the array. -/
theorem run_substitute_of_index {text : String} {n : Nat} (hwhole : context.get? text = none)
    (hread : Placeholder.ofText? text = some ⟨name, .index n⟩)
    (hitems : context.get? name = some (.arr items)) (pass : Pass) :
    run (substitute context (.str text)) pass =
      (match items[n]? with
        | some item => .ok item
        | none => .error (.indexOutOfRange text n items.length), pass) := by
  rw [substitute, substituteText, hwhole]
  dsimp only
  rw [hread]
  dsimp only
  rw [hitems]
  dsimp only
  rw [select]
  dsimp only
  cases items[n]? <;> rfl

theorem run_substitute_of_unbound {text : String} {placeholder : Placeholder}
    (hwhole : context.get? text = none) (hread : Placeholder.ofText? text = some placeholder)
    (hunbound : context.get? placeholder.name = none) (hstrict : pass.policy = .strict) :
    run (substitute context (.str text)) pass = (.error (.unresolvedPlaceholder text), pass) := by
  rw [substitute, substituteText, hwhole]
  dsimp only
  rw [hread]
  dsimp only
  rw [hunbound]
  dsimp only
  rw [run_get_bind, hstrict]
  rfl

/-- What a numbered placeholder comes to. -/
structure ReadsIndex (context : Fields) (name digits : String) (pass : Pass) : Prop where
  taken : readDigits digits.toList < 2 ^ 64 → ∀ items item,
    context.get? name = some (.arr items) → items[readDigits digits.toList]? = some item →
      run (substitute context (.str (name ++ "#" ++ digits))) pass = (.ok item, pass)
  outOfRange : readDigits digits.toList < 2 ^ 64 → ∀ items,
    context.get? name = some (.arr items) → items.length ≤ readDigits digits.toList →
      run (substitute context (.str (name ++ "#" ++ digits))) pass =
        (.error (.indexOutOfRange (name ++ "#" ++ digits) (readDigits digits.toList) items.length),
          pass)
  unresolved : readDigits digits.toList < 2 ^ 64 → context.get? name = none →
    pass.policy = .strict →
      run (substitute context (.str (name ++ "#" ++ digits))) pass =
        (.error (.unresolvedPlaceholder (name ++ "#" ++ digits)), pass)
  /-- A number beyond words makes it no placeholder, bound or not, under any policy. -/
  beyond : 2 ^ 64 ≤ readDigits digits.toList →
    run (substitute context (.str (name ++ "#" ++ digits))) pass =
      (.ok (.str (name ++ "#" ++ digits)), pass)

/-- A text with a number takes the item at that place or is refused, as long as the number fits a
word; the text of a larger number stays. -/
theorem readsIndex (h : Numbered name digits)
    (hwhole : context.get? (name ++ "#" ++ digits) = none) (pass : Pass) :
    ReadsIndex context name digits pass := by
  have hread := h.ofText?
  refine ⟨fun hfits items item hitems hitem => ?_, fun hfits items hitems hlength => ?_,
    fun hfits hunbound hstrict => ?_, fun hlarge => ?_⟩
  · rw [if_pos hfits] at hread
    rw [run_substitute_of_index hwhole hread hitems, hitem]
  · rw [if_pos hfits] at hread
    rw [run_substitute_of_index hwhole hread hitems, List.getElem?_eq_none hlength]
  · rw [if_pos hfits] at hread
    exact run_substitute_of_unbound hwhole hread hunbound hstrict
  · rw [if_neg (Nat.not_lt.2 hlarge)] at hread
    exact run_substitute_of_literal hwhole hread pass

/-- A list of three letters is bound. -/
def letters : Fields := [("LIST", .arr [.str "a", .str "b", .str "c"])]

/-- The last of three letters; zeros in front of the number do not matter. -/
theorem readsIndex_padded :
    ∃ pass, Numbered "LIST" "002" ∧
      run (substitute letters (.str "LIST#002")) pass = (.ok (.str "c"), pass) ∧
      ReadsIndex letters "LIST" "002" pass := by
  have hnumbered : Numbered "LIST" "002" := ⟨by decide, by decide, by decide, by decide⟩
  have hwhole : letters.get? ("LIST" ++ "#" ++ "002") = none := by decide
  have hreads := readsIndex hnumbered hwhole (.start 0 none .strict (.ofSeed 0))
  exact ⟨_, hnumbered, hreads.taken (by decide) _ (.str "c") rfl rfl, hreads⟩

/-- The digits of the first number beyond words. -/
theorem numbered_large : Numbered "LIST" "18446744073709551616" :=
  ⟨by decide, by decide, by decide, by decide⟩

/-- Its text stays, where it ought to be out of the array's range or unresolved. -/
theorem large_index_stays :
    (¬ ∀ (context : Fields) (name digits : String) (items : List Json) (pass : Pass),
      Numbered name digits → context.get? (name ++ "#" ++ digits) = none →
      context.get? name = some (.arr items) → items.length ≤ readDigits digits.toList →
        (run (substitute context (.str (name ++ "#" ++ digits))) pass).1 =
          .error (.indexOutOfRange (name ++ "#" ++ digits) (readDigits digits.toList)
            items.length)) ∧
    ¬ ∀ (context : Fields) (name digits : String) (pass : Pass),
      Numbered name digits → context.get? (name ++ "#" ++ digits) = none →
      context.get? name = none → pass.policy = .strict →
        (run (substitute context (.str (name ++ "#" ++ digits))) pass).1 =
          .error (.unresolvedPlaceholder (name ++ "#" ++ digits)) := by
  have hread : Placeholder.ofText? ("LIST" ++ "#" ++ "18446744073709551616") = none := by
    rw [numbered_large.ofText?, if_neg (by decide)]
  constructor
  · intro hall
    have hwhole : letters.get? ("LIST" ++ "#" ++ "18446744073709551616") = none := by decide
    have hrefused := hall letters _ _ _ (.start 0 none .strict (.ofSeed 0)) numbered_large hwhole
      rfl (by decide)
    rw [run_substitute_of_literal hwhole hread] at hrefused
    cases hrefused
  · intro hall
    have hrefused := hall [] _ _ (.start 0 none .strict (.ofSeed 0)) numbered_large rfl rfl rfl
    rw [run_substitute_of_literal rfl hread] at hrefused
    cases hrefused

end Resolve

end StudySession

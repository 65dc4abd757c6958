import Mathlib.Data.List.Basic
import StudySession.Text.Percent

/-!
# What percent-encoding keeps

A text that holds no escape of its own reads back from its encoded form byte by byte
(`Percent.codes_encode`), so no two such texts are encoded alike. A text with an escape is another
matter: a blank and `%20` are written the same.
-/

namespace StudySession

namespace Percent

/-! ## Bytes -/

theorem toList_loop_eq (bytes : ByteArray) (i : Nat) (gathered : List UInt8) :
    ByteArray.toList.loop bytes i gathered = gathered.reverse ++ bytes.data.toList.drop i := by
  fun_induction ByteArray.toList.loop bytes i gathered with
  | case1 i gathered hlt ih =>
      have hlength : i < bytes.data.toList.length := by simpa using hlt
      have hget : bytes.get! i = bytes.data[i] := getElem!_pos bytes.data i hlt
      rw [ih, List.drop_eq_getElem_cons hlength, hget, List.reverse_cons, List.append_assoc]
      rfl
  | case2 i gathered hle =>
      rw [List.drop_eq_nil_of_le (by simpa using Nat.le_of_not_lt hle), List.append_nil]

/-- A character is encoded by its bytes in UTF-8. -/
theorem ofChar_eq (c : Char) : ofChar c = (String.utf8EncodeChar c).flatMap ofByte := by
  have hbytes : (String.singleton c).toUTF8 = (String.utf8EncodeChar c).toByteArray := by
    rw [String.toUTF8, String.toByteArray_singleton, List.utf8Encode_singleton]
  rw [ofChar, hbytes, ByteArray.toList, toList_loop_eq, List.toList_data_toByteArray]
  rfl

/-- The bytes of a text, as numbers. -/
def bytes (s : List Char) : List Nat :=
  s.flatMap fun c => (String.utf8EncodeChar c).map UInt8.toNat

@[simp] theorem bytes_cons (c : Char) (s : List Char) :
    bytes (c :: s) = (String.utf8EncodeChar c).map UInt8.toNat ++ bytes s := rfl

theorem bytes_injective : Function.Injective bytes := by
  intro s t h
  have hencoded : s.flatMap String.utf8EncodeChar = t.flatMap String.utf8EncodeChar := by
    refine List.map_injective_iff.2 (fun a b hab => UInt8.toNat_inj.1 hab) ?_
    rw [List.map_flatMap, List.map_flatMap]
    exact h
  have hbytes : (String.ofList s).toByteArray = (String.ofList t).toByteArray := by
    rw [String.toByteArray_ofList, String.toByteArray_ofList, List.utf8Encode, List.utf8Encode,
      hencoded]
  exact String.ofList_inj.1 (String.toByteArray_inj.1 hbytes)

theorem utf8EncodeChar_of_ascii {c : Char} (h : c.toNat < 128) :
    (String.utf8EncodeChar c).map UInt8.toNat = [c.toNat] := by
  have hval : c.val.toNat ≤ 127 := Nat.le_of_lt_succ h
  rw [String.utf8EncodeChar, if_pos hval]
  simp only [List.map_cons, List.map_nil, UInt8.toNat_ofNat']
  rw [Nat.mod_eq_of_lt (by omega)]
  rfl

/-! ## Digits -/

theorem digitValue?_hexDigit (n : Nat) : digitValue? (hexDigit n) = some (n % 16) := by
  have hdigits : ∀ d < 16, digitValue? (Nat.digitChar d).toUpper = some d := by decide
  exact hdigits (n % 16) (Nat.mod_lt _ (by decide))

@[simp] theorem digitValue?_percent : digitValue? '%' = none := by decide

theorem codes_ofByte (b : UInt8) (rest : List Char) :
    codes (ofByte b ++ rest) = b.toNat :: codes rest := by
  have hlt : b.toNat < 256 := b.toNat_lt
  rw [ofByte, List.cons_append, List.cons_append, List.cons_append, List.nil_append, codes,
    digitValue?_hexDigit, digitValue?_hexDigit]
  dsimp only
  congr 1
  omega

theorem codes_ofBytes (bs : List UInt8) (rest : List Char) :
    codes (bs.flatMap ofByte ++ rest) = bs.map UInt8.toNat ++ codes rest := by
  induction bs with
  | nil => rfl
  | cons b bs ih =>
      rw [List.flatMap_cons, List.append_assoc, codes_ofByte, ih, List.map_cons, List.cons_append]

/-! ## Escapes -/

/-- Whether a text begins with two hexadecimal digits. -/
def beginsInDigits : List Char → Bool
  | a :: b :: _ => (digitValue? a).isSome && (digitValue? b).isSome
  | _ => false

/-- Whether a `%` of a text has two hexadecimal digits behind it. -/
def hasEscape : List Char → Bool
  | [] => false
  | c :: rest => (c == '%' && beginsInDigits rest) || hasEscape rest

theorem beginsInDigits_of_prefix {s t : List Char} (h : s <+: t) (hs : beginsInDigits s = true) :
    beginsInDigits t = true := by
  match s with
  | [] => cases hs
  | [_] => cases hs
  | a :: b :: s =>
      obtain ⟨rest, rfl⟩ := h
      exact hs

theorem codes_cons_of_not_begins {c : Char} {rest : List Char}
    (h : c = '%' → beginsInDigits rest = false) : codes (c :: rest) = c.toNat :: codes rest := by
  by_cases hc : c = '%'
  · subst hc
    have hnot := h rfl
    match rest with
    | [] => rfl
    | [_] => rfl
    | a :: b :: rest =>
        rw [beginsInDigits] at hnot
        rw [codes]
        cases ha : digitValue? a with
        | none => rfl
        | some x =>
            cases hb : digitValue? b with
            | none => rfl
            | some y => simp [ha, hb] at hnot
  · rw [codes]
    exact fun _ _ _ heq => absurd heq hc

variable {plain : Char → Bool} {s t : List Char} {c : Char}

theorem encode_cons (plain : Char → Bool) (c : Char) (s : List Char) :
    encode plain (c :: s) = (if plain c then [c] else ofChar c) ++ encode plain s := rfl

theorem exists_ofChar_eq_cons (c : Char) : ∃ rest, ofChar c = '%' :: rest := by
  rw [ofChar_eq]
  cases hbytes : String.utf8EncodeChar c with
  | nil => exact absurd hbytes String.utf8EncodeChar_ne_nil
  | cons b bs => exact ⟨_, rfl⟩

/-- What is encoded as something that begins with a digit begins with it. -/
theorem eq_cons_of_encode {d : Char} {rest : List Char} (h : encode plain s = d :: rest)
    (hdigit : (digitValue? d).isSome = true) : ∃ s', s = d :: s' ∧ rest = encode plain s' := by
  cases s with
  | nil => cases h
  | cons c s =>
      rw [encode_cons] at h
      by_cases hc : plain c = true
      · rw [if_pos hc] at h
        obtain ⟨rfl, rfl⟩ := List.cons.inj h
        exact ⟨s, rfl, rfl⟩
      · obtain ⟨more, hmore⟩ := exists_ofChar_eq_cons c
        rw [if_neg hc, hmore] at h
        obtain ⟨rfl, -⟩ := List.cons.inj h
        simp at hdigit

theorem beginsInDigits_encode (h : beginsInDigits (encode plain s) = true) :
    beginsInDigits s = true := by
  cases hcode : encode plain s with
  | nil => rw [hcode] at h; cases h
  | cons a rest =>
      cases rest with
      | nil => rw [hcode] at h; cases h
      | cons b rest =>
          rw [hcode, beginsInDigits, Bool.and_eq_true] at h
          obtain ⟨s', rfl, hrest⟩ := eq_cons_of_encode hcode h.1
          obtain ⟨s'', rfl, -⟩ := eq_cons_of_encode hrest.symm h.2
          rw [beginsInDigits, h.1, h.2]
          rfl

/-- A text without escapes reads back from its encoded form, byte by byte. -/
theorem codes_encode (hplain : ∀ c, plain c = true → c.toNat < 128) (h : hasEscape s = false) :
    codes (encode plain s) = bytes s := by
  induction s with
  | nil => rfl
  | cons c s ih =>
      rw [hasEscape, Bool.or_eq_false_iff] at h
      have hrest := ih h.2
      rw [encode_cons, bytes_cons, ← hrest]
      by_cases hc : plain c = true
      · rw [if_pos hc, utf8EncodeChar_of_ascii (hplain c hc), List.singleton_append,
          List.singleton_append]
        refine codes_cons_of_not_begins fun hpercent => ?_
        have hnot : beginsInDigits s ≠ true := by simpa [hpercent] using h.1
        exact Bool.eq_false_iff.2 fun hbegins => hnot (beginsInDigits_encode hbegins)
      · rw [if_neg hc, ofChar_eq, codes_ofBytes]

theorem encode_injOn (hplain : ∀ c, plain c = true → c.toNat < 128) (hs : hasEscape s = false)
    (ht : hasEscape t = false) (h : encode plain s = encode plain t) : s = t := by
  refine bytes_injective ?_
  rw [← codes_encode hplain hs, ← codes_encode hplain ht, h]

/-! ## Characters of an encoded text -/

/-- A character of an encoded text is one that stands for itself, or part of an escape. -/
theorem mem_encode (h : c ∈ encode plain s) :
    (plain c = true ∧ c ∈ s) ∨ c = '%' ∨ (digitValue? c).isSome = true := by
  obtain ⟨d, hd, hmem⟩ := List.mem_flatMap.1 h
  by_cases hplain : plain d = true
  · rw [if_pos hplain, List.mem_singleton] at hmem
    subst hmem
    exact .inl ⟨hplain, hd⟩
  · rw [if_neg hplain, ofChar_eq] at hmem
    obtain ⟨b, -, hmem⟩ := List.mem_flatMap.1 hmem
    rw [ofByte] at hmem
    simp only [List.mem_cons, List.not_mem_nil, or_false] at hmem
    rcases hmem with rfl | rfl | rfl
    · exact .inr (.inl rfl)
    · exact .inr (.inr (by rw [digitValue?_hexDigit]; rfl))
    · exact .inr (.inr (by rw [digitValue?_hexDigit]; rfl))

/-- A character that neither stands for itself nor belongs to escapes is encoded. -/
theorem not_mem_encode (hc : plain c = false) (hpercent : c ≠ '%') (hdigit : digitValue? c = none)
    (s : List Char) : c ∉ encode plain s := by
  intro hmem
  rcases mem_encode hmem with ⟨hplain, -⟩ | h | h
  · rw [hc] at hplain
    cases hplain
  · exact hpercent h
  · rw [hdigit] at h
    cases h

theorem encode_eq_nil_iff : encode plain s = [] ↔ s = [] := by
  cases s with
  | nil => simp [encode]
  | cons c s =>
      rw [encode_cons]
      by_cases hc : plain c = true
      · simp [hc]
      · obtain ⟨rest, hrest⟩ := exists_ofChar_eq_cons c
        simp [hc, hrest]

end Percent

end StudySession

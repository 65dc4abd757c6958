import Mathlib.Data.List.TakeWhile
import StudySession.Gateway.Url
import StudySession.Proofs.Text.Percent
import StudySession.Proofs.Text.Pieces

/-!
# Addresses under a root

What is read when a text is put behind an address that ends in a slash and has no query:
`Url.parse?_append`. The scheme, the host and the port stay, the segments of the text go on from
those of the address, and its query is the query. So only `resolve` lets a text reach outside the
address, and only what a reader takes for something else (`#`, `?`, `\`, a line break, an escape,
segments of dots) is lost of it.
-/

namespace StudySession

/-! ## Scans of two texts -/

section Scans

variable {α : Type} {p : α → Bool} {x : α} {xs : List α}

/-- A scan that stops in the first text does not see the second. -/
theorem takeWhile_append_of_mem (hx : x ∈ xs) (hp : p x = false) (ys : List α) :
    (xs ++ ys).takeWhile p = xs.takeWhile p := by
  rw [List.takeWhile_append, if_neg]
  intro hlength
  have hall : xs.takeWhile p = xs := (List.takeWhile_prefix p).eq_of_length hlength
  rw [List.takeWhile_eq_self_iff.1 hall x hx] at hp
  cases hp

theorem dropWhile_append_of_mem (hx : x ∈ xs) (hp : p x = false) (ys : List α) :
    (xs ++ ys).dropWhile p = xs.dropWhile p ++ ys := by
  rw [List.dropWhile_append, if_neg]
  intro hempty
  rw [List.dropWhile_eq_nil_iff.1 (List.isEmpty_iff.1 hempty) x hx] at hp
  cases hp

theorem getLast?_dropWhile_of_mem (hx : xs.getLast? = some x) (hp : p x = false) :
    (xs.dropWhile p).getLast? = some x := by
  obtain ⟨before, rfl⟩ := List.getLast?_eq_some_iff.1 hx
  rw [List.dropWhile_append]
  split <;> simp [hp]

theorem trimEnds_append {p : Char → Bool} {s t : List Char} {c d : Char} (hs : s.getLast? = some c)
    (hc : p c = false) (ht : t.getLast? = some d) (hd : p d = false) :
    trimEnds p (s ++ t) = s.dropWhile p ++ t := by
  obtain ⟨before, rfl⟩ := List.getLast?_eq_some_iff.1 ht
  have hmem : c ∈ s := List.mem_of_getLast? hs
  rw [trimEnds, dropWhile_append_of_mem hmem hc, ← List.append_assoc, List.reverse_append]
  simp [hd]

theorem trimEnds_of_getLast? {p : Char → Bool} {s : List Char} {c : Char}
    (hs : s.getLast? = some c) (hc : p c = false) : trimEnds p s = s.dropWhile p := by
  obtain ⟨before, hbefore⟩ := List.getLast?_eq_some_iff.1 (getLast?_dropWhile_of_mem hs hc)
  rw [trimEnds, hbefore]
  simp [hc]

end Scans

/-! ## Pieces of a text -/

section Pieces

variable {isSeparator : Char → Bool} {c : Char}

/-- Pieces of a text without escapes have none. -/
theorem hasEscape_piece {s : List Char} (h : Percent.hasEscape s = false) :
    ∀ piece ∈ piecesBetween isSeparator s, Percent.hasEscape piece = false := by
  induction s with
  | nil =>
      intro piece hpiece
      obtain rfl := List.mem_singleton.1 hpiece
      rfl
  | cons c s ih =>
      rw [Percent.hasEscape, Bool.or_eq_false_iff] at h
      have hrest := ih h.2
      obtain ⟨first, others, hpieces⟩ := exists_piecesBetween isSeparator s
      rw [piecesBetween_cons hpieces]
      rw [hpieces] at hrest
      intro piece hpiece
      split at hpiece
      · rcases List.mem_cons.1 hpiece with rfl | hpiece
        · rfl
        · exact hrest piece hpiece
      · rcases List.mem_cons.1 hpiece with rfl | hpiece
        · rw [Percent.hasEscape, hrest first List.mem_cons_self, Bool.or_false]
          refine Bool.eq_false_iff.2 fun hbegins => ?_
          rw [Bool.and_eq_true] at hbegins
          have hdigits :=
            Percent.beginsInDigits_of_prefix (prefix_of_first_piece hpieces) hbegins.2
          rw [hbegins.1, hdigits] at h
          cases h.1
        · exact hrest piece (List.mem_cons_of_mem _ hpiece)

/-- Put back together, encoded pieces are the encoded text. -/
theorem intercalate_pieces {plain : Char → Bool} (hc : plain c = true) (s : List Char) :
    List.intercalate [c] ((piecesBetween (· == c) s).map (Percent.encode plain)) =
      Percent.encode plain s := by
  induction s with
  | nil => rfl
  | cons d s ih =>
      obtain ⟨piece, rest, hpieces⟩ := exists_piecesBetween (· == c) s
      rw [hpieces] at ih
      rw [piecesBetween_cons hpieces, Percent.encode_cons]
      split
      · next hsame =>
          obtain rfl : d = c := by simpa using hsame
          rw [List.map_cons, List.map_cons, List.intercalate_cons_cons, ← List.map_cons, ih,
            if_pos hc]
          rfl
      · -- the character stays in front of the first piece
        rw [← ih]
        cases rest with
        | nil => simp [Percent.encode_cons]
        | cons next rest =>
            rw [List.map_cons, List.map_cons, List.map_cons, List.map_cons,
              List.intercalate_cons_cons, List.intercalate_cons_cons, Percent.encode_cons]
            simp

theorem intercalate_append {α : Type} (separator : List α) {ys : List (List α)} (hys : ys ≠ [])
    (xs : List (List α)) :
    separator.intercalate (xs ++ ys) =
      (xs.flatMap fun x => x ++ separator) ++ separator.intercalate ys := by
  induction xs with
  | nil => rfl
  | cons x xs ih =>
      obtain ⟨next, rest, hrest⟩ :=
        List.exists_cons_of_ne_nil (List.append_ne_nil_of_right_ne_nil xs hys)
      rw [List.cons_append, hrest, List.intercalate_cons_cons, ← hrest, ih, List.flatMap_cons,
        List.append_assoc (x ++ separator)]

end Pieces

namespace Url

/-! ## Paths -/

theorem segments_ne_nil (s : List Char) : segments s ≠ [] := by
  simpa [segments] using piecesBetween_ne_nil isSlash s

/-- The segments before the next one, in reverse, after one that is not the last. -/
def climb (done : List String) (segment : String) : List String :=
  if isDots 2 segment then done.tail else if isDots 1 segment then done else segment :: done

theorem resolve_append {rest : List String} (hrest : rest ≠ []) (before done : List String) :
    resolve done (before ++ rest) = resolve (before.foldl climb done) rest := by
  induction before generalizing done with
  | nil => rfl
  | cons segment before ih =>
      have hmore : (before ++ rest).isEmpty = false := by simp [hrest]
      rw [List.cons_append, resolve, hmore, List.foldl_cons, ← ih]
      simp only [Bool.false_eq_true, if_false]
      rw [climb]
      split
      · rfl
      · split <;> rfl

/-- Where no segment is made of dots, all of them stay. -/
theorem resolve_of_not_isDots {path : List String}
    (h : ∀ segment ∈ path, isDots 1 segment = false ∧ isDots 2 segment = false)
    (done : List String) : resolve done path = done.reverse ++ path := by
  induction path generalizing done with
  | nil => rw [resolve, List.append_nil]
  | cons segment path ih =>
      obtain ⟨hone, htwo⟩ := h segment List.mem_cons_self
      rw [resolve, if_neg (by simp [htwo]), if_neg (by simp [hone]),
        ih fun other hother => h other (List.mem_cons_of_mem _ hother)]
      simp

/-- The segments of a text that a path goes on with follow those before it. -/
theorem exists_readPath_append {slash : Char} {root : List Char} (hslash : isSlash slash = true)
    (hroot : (slash :: root).getLast? = some '/') :
    ∃ done, ∀ s, readPath (slash :: root ++ s) = resolve done (segments s) := by
  have hread : ∀ s, readPath (slash :: root ++ s) = resolve [] (segments (root ++ s)) := by
    intro s
    rw [List.cons_append, readPath, if_pos hslash]
  cases root with
  | nil => exact ⟨[], hread⟩
  | cons c root =>
      rw [List.getLast?_cons_cons] at hroot
      obtain ⟨before, hbefore⟩ := List.getLast?_eq_some_iff.1 hroot
      refine ⟨(segments before).foldl climb [], fun s => ?_⟩
      have hparts : segments (c :: root ++ s) = segments before ++ segments s := by
        rw [hbefore, segments, List.append_assoc, List.singleton_append,
          piecesBetween_append (by decide), List.map_append]
        rfl
      rw [hread, hparts, resolve_append (segments_ne_nil s)]

/-! ## What follows a root -/

/-- What counts of a text inside an address: it ends at `#`, and line breaks and tabs are left
out. -/
def counted (text : String) : List Char :=
  (text.toList.filter fun c => !isBreak c).takeWhile (· != '#')

variable {root s : List Char} {u : Url}

theorem pathPart_append (h : '?' ∉ root) (s : List Char) :
    pathPart (root ++ s) = root ++ pathPart s := by
  rw [pathPart, List.takeWhile_append_of_pos]
  · rfl
  · intro c hc
    simpa using fun heq : c = '?' => h (heq ▸ hc)

theorem queryPart?_append (h : '?' ∉ root) (s : List Char) :
    queryPart? (root ++ s) = queryPart? s := by
  rw [queryPart?, pathPart_append h, List.length_append, ← List.drop_drop, List.drop_left]
  rfl

/-- A scheme does not depend on what follows it. -/
theorem scheme?_append {scheme : String} {rest : List Char} (h : scheme? root = some (scheme, rest))
    (s : List Char) : scheme? (root ++ s) = some (scheme, rest ++ s) := by
  rw [scheme?] at h
  split at h
  · next rest' hrest =>
      split at h
      · next hletter =>
          obtain ⟨rfl, rfl⟩ := Prod.mk.inj (Option.some.inj h)
          have hmem : ':' ∈ root := List.mem_of_mem_drop (hrest ▸ List.mem_cons_self)
          have hword : (root ++ s).takeWhile isSchemeChar = root.takeWhile isSchemeChar :=
            takeWhile_append_of_mem hmem (by decide) s
          have hlength := (List.takeWhile_prefix (l := root) isSchemeChar).length_le
          have hdrop : (root ++ s).drop (root.takeWhile isSchemeChar).length =
              ':' :: (rest' ++ s) := by
            rw [List.drop_append_of_le_length hlength, hrest, List.cons_append]
          have hhead : (root ++ s).head? = root.head? :=
            List.head?_append_of_ne_nil _ (List.ne_nil_of_mem hmem)
          rw [scheme?, hword, hdrop, hhead]
          exact if_pos hletter
      · cases h
  · cases h

theorem exists_eq_of_scheme? {scheme : String} {rest : List Char}
    (h : scheme? root = some (scheme, rest)) : ∃ before, root = before ++ ':' :: rest := by
  rw [scheme?] at h
  split at h
  · next rest' hrest =>
      split at h
      · obtain ⟨rfl, rfl⟩ := Prod.mk.inj (Option.some.inj h)
        exact ⟨_, by rw [← hrest, List.take_append_drop]⟩
      · cases h
  · cases h

theorem authority?_nil : authority? [] = none := by
  rw [authority?]
  exact if_neg (by decide)

/-- What is read of a root and what follows it. -/
theorem afterScheme?_append {secure : Bool} (h : afterScheme? secure root = some u)
    (hplain : ∀ c ∈ root, c ≠ '?' ∧ c ≠ '#') (hend : root.getLast? = some '/') :
    ∃ done, ∀ s, afterScheme? secure (root ++ s) =
      some { u with
        path := resolve done (segments (pathPart (s.takeWhile (· != '#'))))
        query? := queryPart? (s.takeWhile (· != '#')) } := by
  rw [afterScheme?] at h
  dsimp only at h
  set inner := root.dropWhile isSlash with hinner
  have hsub : ∀ c ∈ inner, c ∈ root := fun c hc => (List.dropWhile_suffix isSlash).mem hc
  have hwhole : inner.takeWhile (· != '#') = inner :=
    List.takeWhile_eq_self_iff.2 fun c hc => by simpa using (hplain c (hsub c hc)).2
  rw [hwhole] at h
  set place := inner.takeWhile fun c => !(isSlash c || c == '?') with hplace
  obtain ⟨⟨host, port?⟩, hauthority, h⟩ := Option.bind_eq_some_iff.1 h
  -- a root without an authority would be no address
  have hne : inner ≠ [] := by
    intro hnil
    rw [hplace, hnil, List.takeWhile_nil, authority?_nil] at hauthority
    cases hauthority
  have hlast : inner.getLast? = some '/' := by
    obtain ⟨before, hbefore⟩ := List.dropWhile_suffix (l := root) isSlash
    rw [← hbefore, List.getLast?_append, Option.or_eq_some_iff] at hend
    rcases hend with hend | ⟨hnone, -⟩
    · exact hend
    · exact absurd (List.getLast?_eq_none_iff.1 hnone) hne
  have hmem : '/' ∈ inner := List.mem_of_getLast? hlast
  obtain ⟨slash, tail, htail, hslash⟩ : ∃ slash tail,
      inner.drop place.length = slash :: tail ∧ isSlash slash = true := by
    have hdrop : inner.drop place.length = inner.dropWhile fun c => !(isSlash c || c == '?') := by
      conv_lhs => rw [← List.takeWhile_append_dropWhile (l := inner)
        (p := fun c => !(isSlash c || c == '?')), ← hplace, List.drop_left]
    have hstop := List.head?_dropWhile_not (fun c => !(isSlash c || c == '?')) inner
    cases hrest : inner.dropWhile fun c => !(isSlash c || c == '?') with
    | nil => exact absurd (List.dropWhile_eq_nil_iff.1 hrest '/' hmem) (by decide)
    | cons slash tail =>
        rw [hrest] at hstop
        have hslash : isSlash slash = true ∨ slash = '?' := by
          simpa [or_iff_not_imp_left] using hstop
        have hin : slash ∈ inner :=
          (List.dropWhile_suffix _).mem (hrest ▸ List.mem_cons_self)
        exact ⟨slash, tail, hdrop.trans hrest,
          hslash.resolve_right (hplain slash (hsub slash hin)).1⟩
  have hafter : '?' ∉ slash :: tail := fun hquery =>
    (hplain '?' (hsub _ (List.mem_of_mem_drop (htail ▸ hquery)))).1 rfl
  have hafterLast : (slash :: tail).getLast? = some '/' := by
    rw [← List.take_append_drop place.length inner, htail, List.getLast?_append_cons] at hlast
    exact hlast
  obtain rfl := Option.some.inj h
  obtain ⟨done, hdone⟩ := exists_readPath_append hslash hafterLast
  refine ⟨done, fun s => ?_⟩
  have hstart : (root ++ s).dropWhile isSlash = inner ++ s := by
    rw [List.dropWhile_append, if_neg (by simpa [← hinner] using hne)]
  have hcut : (inner ++ s).takeWhile (· != '#') = inner ++ s.takeWhile (· != '#') :=
    List.takeWhile_append_of_pos fun c hc => by simpa using (hplain c (hsub c hc)).2
  have hscan : ∀ t, (inner ++ t).takeWhile (fun c => !(isSlash c || c == '?')) = place :=
    takeWhile_append_of_mem hmem (by decide)
  have hlength : place.length ≤ inner.length := (List.takeWhile_prefix _).length_le
  rw [afterScheme?, hstart, hcut]
  dsimp only
  rw [hscan, hauthority, List.drop_append_of_le_length hlength, htail, pathPart_append hafter,
    queryPart?_append hafter, hdone]
  rfl

/-- **Addresses under a root.** What is read when a text that ends in no blank is put behind an
address that ends in a slash and has no query: the segments of the text go on from those of the
address, and the rest of the address stays. -/
theorem parse?_append {root : String} (h : parse? root = some u)
    (hplain : ∀ c ∈ root.toList, c ≠ '?' ∧ c ≠ '#') (hend : root.toList.getLast? = some '/') :
    ∃ done, ∀ (text : String) (c : Char), text.toList.getLast? = some c → isOuter c = false →
      parse? (root ++ text) =
        some { u with
          path := resolve done (segments (pathPart (counted text)))
          query? := queryPart? (counted text) } := by
  obtain ⟨⟨scheme, rest⟩, hscheme, h⟩ := Option.bind_eq_some_iff.1 h
  dsimp only at h
  have hstrip : strip root = (root.toList.dropWhile isOuter).filter fun c => !isBreak c := by
    rw [strip, trimEnds_of_getLast? hend (by decide)]
  obtain ⟨before, hbefore⟩ := exists_eq_of_scheme? hscheme
  have hsub : ∀ c ∈ rest, c ∈ root.toList := by
    intro c hc
    have hmem : c ∈ strip root := hbefore ▸ List.mem_append_right _ (List.mem_cons_of_mem _ hc)
    rw [hstrip] at hmem
    exact (List.dropWhile_suffix _).mem (List.mem_of_mem_filter hmem)
  have hrestLast : rest.getLast? = some '/' := by
    obtain ⟨front, hfront⟩ :=
      List.getLast?_eq_some_iff.1 (getLast?_dropWhile_of_mem (p := isOuter) hend (by decide))
    have hstripped : (strip root).getLast? = some '/' := by
      rw [hstrip, hfront, List.filter_append]
      exact List.getLast?_concat
    rw [hbefore, List.getLast?_append_cons] at hstripped
    cases rest with
    | nil => exact absurd hstripped (by decide)
    | cons c rest => rwa [List.getLast?_cons_cons] at hstripped
  split at h
  · next hweb =>
      obtain ⟨done, hdone⟩ :=
        afterScheme?_append h (fun c hc => hplain c (hsub c hc)) hrestLast
      refine ⟨done, fun text c hlast hc => ?_⟩
      have hwhole :
          strip (root ++ text) = strip root ++ text.toList.filter fun c => !isBreak c := by
        rw [hstrip, strip, String.toList_append, trimEnds_append hend (by decide) hlast hc,
          List.filter_append]
      rw [parse?, hwhole, scheme?_append hscheme]
      exact (if_pos hweb).trans (hdone _)
  · cases h

end Url

end StudySession

import StudySession.Proofs.Study.Indices
import StudySession.Proofs.Study.Journal

/-!
# Literals

`Placeholder.Written` is the grammar of tagged placeholders: a name, a `#` and a selector, which has
no `#` in it. It is what texts are read by (`Placeholder.ofText?_eq_some_iff`). All other texts are
literals, and so are placeholders whose names are not bound under the lenient policy. A document of
literals is substituted by itself and the pass is as it was (`Resolve.leftAlone`); the strict policy
stops at the first placeholder, with the pass as it was.
-/

namespace StudySession

/-! ## The grammar -/

namespace Selector

/-- How a selector is written. -/
inductive Written : Selector → String → Prop
  | rand : Written .rand "RAND"
  | perm : Written .perm "PERM"
  | uniq : Written .uniq "UNIQ"
  /-- Any decimal digits whose number fits a word; those of a larger one select nothing. -/
  | index {digits : String} (hne : digits ≠ "") (hdigits : digits.toList.all Char.isDigit = true)
      (hfits : readDigits digits.toList < 2 ^ 64) : Written (.index (readDigits digits.toList)) digits

variable {selector : Selector} {suffix : String}

theorem Written.hash_notMem (h : selector.Written suffix) : '#' ∉ suffix.toList := by
  cases h with
  | rand | perm | uniq => decide
  | index _ hdigits _ =>
      intro hmem
      exact absurd (List.all_eq_true.1 hdigits _ hmem) (by decide)

end Selector

namespace Placeholder

/-- How a placeholder is written. -/
structure Written (p : Placeholder) (text : String) : Prop where
  name_ne : p.name ≠ ""
  name_chars : p.name.toList.all isNameChar = true
  text_eq : ∃ suffix, p.selector.Written suffix ∧ text = p.name ++ "#" ++ suffix

/-- A text is a tagged placeholder. -/
def IsTagged (text : String) : Prop := ∃ p : Placeholder, p.Written text

variable {text suffix : String} {selector : Selector} {p : Placeholder}

theorem selector?_of_written (h : selector.Written suffix) :
    selector? suffix.toList = some selector := by
  cases h with
  | rand | perm | uniq => rfl
  | index hne hdigits hfits =>
      rw [selector?_of_digits (by simpa using hne) hdigits, if_pos hfits]

theorem written_of_selector? {suffix : List Char} (h : selector? suffix = some selector) :
    selector.Written (String.ofList suffix) := by
  unfold selector? at h
  split at h
  · next hword =>
      obtain rfl := Option.some.inj h
      exact hword ▸ .rand
  · split at h
    · next hword =>
        obtain rfl := Option.some.inj h
        exact hword ▸ .perm
    · split at h
      · next hword =>
          obtain rfl := Option.some.inj h
          exact hword ▸ .uniq
      · split at h
        · next hdigits =>
            split at h
            · next hfits =>
                obtain rfl := Option.some.inj h
                rw [Bool.and_eq_true, Bool.not_eq_true', List.isEmpty_eq_false_iff] at hdigits
                rw [decimal_eq_readDigits] at hfits ⊢
                have hwritten := @Selector.Written.index (String.ofList suffix)
                rw [String.toList_ofList] at hwritten
                exact hwritten (by simpa using hdigits.1) hdigits.2 hfits
            · cases h
        · cases h

/-- A list of characters splits at its last `#`, if it has one. -/
theorem eq_append_of_getLast? {chars suffix before : List Char} {c : Char}
    (hsuffix : suffix = (chars.reverse.takeWhile (· != '#')).reverse)
    (hbefore : before = chars.take (chars.length - suffix.length))
    (hlast : before.getLast? = some c) : chars = before.dropLast ++ '#' :: suffix := by
  have hchars : chars = (chars.reverse.dropWhile (· != '#')).reverse ++ suffix := by
    rw [hsuffix, ← List.reverse_append, List.takeWhile_append_dropWhile, List.reverse_reverse]
  have heq : before = (chars.reverse.dropWhile (· != '#')).reverse := by
    rw [hbefore]
    generalize (chars.reverse.dropWhile (· != '#')).reverse = front at hchars
    rw [hchars, List.length_append, Nat.add_sub_cancel, List.take_left]
  have hc : c = '#' := by
    rw [heq, List.getLast?_reverse] at hlast
    have hstop := List.head?_dropWhile_not (· != '#') chars.reverse
    rw [hlast] at hstop
    simpa using hstop
  rw [← heq] at hchars
  obtain ⟨front, rfl⟩ := List.getLast?_eq_some_iff.1 hlast
  rw [List.dropLast_concat]
  rw [hc] at hchars
  simpa using hchars

/-- Texts are read by the grammar. -/
theorem ofText?_eq_some_iff : ofText? text = some p ↔ p.Written text := by
  constructor
  · intro h
    unfold ofText? at h
    dsimp only at h
    split at h
    · cases h
    · next c hlast =>
        have hsplit := eq_append_of_getLast? rfl rfl hlast
        split at h
        · next hname =>
            obtain ⟨selector, hselector, rfl⟩ := Option.map_eq_some_iff.1 h
            rw [Bool.and_eq_true, Bool.not_eq_true', List.isEmpty_eq_false_iff] at hname
            refine ⟨by simpa using hname.1, by simpa using hname.2, _,
              written_of_selector? hselector, ?_⟩
            rw [← String.toList_inj]
            simpa using hsplit
        · cases h
  · rintro ⟨hne, hchars, suffix, hsuffix, rfl⟩
    rw [ofText?_tagged hne hchars hsuffix.hash_notMem, selector?_of_written hsuffix]
    rfl

theorem isTagged_iff : IsTagged text ↔ (ofText? text).isSome = true := by
  rw [Option.isSome_iff_exists]
  exact exists_congr fun _ => ofText?_eq_some_iff.symm

/-- A blank in front of the `#`, a second one, no name and no selector. -/
example : ["Press #1", "A#B#0", "#0", "X#"].all (fun text => (ofText? text).isNone) = true := by
  decide +kernel

end Placeholder

/-! ## Substitution -/

namespace Resolve

open Placeholder (IsTagged)

/-- A text stands for itself under a context: neither it nor the name of the placeholder that it
might be is bound. -/
structure IsLiteral (context : Fields) (text : String) : Prop where
  whole : context.get? text = none
  name : ∀ p : Placeholder, p.Written text → context.get? p.name = none

/-- What is left as it is, unless the strict policy finds a placeholder among its texts. -/
def stay {α : Type} (policy : PlaceholderPolicy) (texts : List String) (a : α) :
    Except StudyError α :=
  match policy with
  | .lenient => .ok a
  | .strict =>
    match texts.find? fun text => (Placeholder.ofText? text).isSome with
    | none => .ok a
    | some text => .error (.unresolvedPlaceholder text)

section Stay

variable {α β : Type} {context : Fields} {pass : Pass} {texts later : List String} {a : α} {b : β}

theorem stay_nil (policy : PlaceholderPolicy) (a : α) : stay policy [] a = .ok a := by
  cases policy <;> rfl

/-- One step after another. -/
theorem run_bind_of_stay {step : Resolve α} {next : α → Resolve β}
    (hstep : run step pass = (stay pass.policy texts a, pass))
    (hnext : run (next a) pass = (stay pass.policy later b, pass)) :
    run (step >>= next) pass = (stay pass.policy (texts ++ later) b, pass) := by
  rw [run_bind, hstep]
  generalize pass.policy = policy at *
  cases policy with
  | lenient => exact hnext
  | strict =>
      simp only [stay, List.find?_append] at *
      cases texts.find? fun text => (Placeholder.ofText? text).isSome with
      | none => exact hnext
      | some text => rfl

theorem run_bind_pure_of_stay {step : Resolve α} {f : α → β}
    (hstep : run step pass = (stay pass.policy texts a, pass)) :
    run (step >>= fun a => pure (f a)) pass = (stay pass.policy texts (f a), pass) := by
  have hnext : run (pure (f a)) pass = (stay pass.policy [] (f a), pass) := by
    rw [stay_nil, run_pure]
  have hbind : run (step >>= fun a => pure (f a)) pass =
      (stay pass.policy (texts ++ []) (f a), pass) := run_bind_of_stay hstep hnext
  rwa [List.append_nil] at hbind

theorem run_substituteText {text : String} (h : IsLiteral context text) (pass : Pass) :
    run (substituteText context text) pass = (stay pass.policy [text] (.str text), pass) := by
  rw [substituteText, h.whole]
  dsimp only
  cases hread : Placeholder.ofText? text with
  | none =>
      have hstay : stay pass.policy [text] (Json.str text) = .ok (.str text) := by
        cases hpolicy : pass.policy <;> simp [stay, hread]
      rw [hstay]
      rfl
  | some p =>
      dsimp only
      rw [h.name p (Placeholder.ofText?_eq_some_iff.1 hread)]
      dsimp only
      rw [run_get_bind]
      cases hpolicy : pass.policy with
      | lenient => rfl
      | strict => simp [stay, hread]

mutual

theorem run_substitute_of_literals (context : Fields) (pass : Pass) : ∀ value : Json,
    (∀ text ∈ value.texts, IsLiteral context text) →
      run (substitute context value) pass = (stay pass.policy value.texts value, pass)
  | .str text, h => by
      rw [substitute, Json.texts]
      exact run_substituteText (h text (by simp [Json.texts])) pass
  | .arr items, h => by
      rw [substitute, Json.texts]
      rw [Json.texts] at h
      exact run_bind_pure_of_stay (run_substituteItems_of_literals context pass items h)
  | .obj fields, h => by
      rw [substitute, Json.texts]
      rw [Json.texts] at h
      exact run_bind_pure_of_stay (run_substituteFields_of_literals context pass fields h)
  | .null, _ => by simp [substitute, Json.texts, stay_nil]
  | .bool _, _ => by simp [substitute, Json.texts, stay_nil]
  | .int _, _ => by simp [substitute, Json.texts, stay_nil]
  | .float _, _ => by simp [substitute, Json.texts, stay_nil]

theorem run_substituteItems_of_literals (context : Fields) (pass : Pass) : ∀ items : List Json,
    (∀ text ∈ Json.textsOfItems items, IsLiteral context text) →
      run (substituteItems context items) pass =
        (stay pass.policy (Json.textsOfItems items) items, pass)
  | [], _ => by rw [substituteItems, Json.textsOfItems, stay_nil, run_pure]
  | x :: xs, h => by
      rw [Json.textsOfItems, List.forall_mem_append] at h
      rw [substituteItems, Json.textsOfItems]
      exact run_bind_of_stay (run_substitute_of_literals context pass x h.1)
        (run_bind_pure_of_stay (run_substituteItems_of_literals context pass xs h.2))

theorem run_substituteFields_of_literals (context : Fields) (pass : Pass) :
    ∀ fields : List (String × Json),
      (∀ text ∈ Json.textsOfFields fields, IsLiteral context text) →
        run (substituteFields context fields) pass =
          (stay pass.policy (Json.textsOfFields fields) fields, pass)
  | [], _ => by rw [substituteFields, Json.textsOfFields, stay_nil, run_pure]
  | (k, x) :: xs, h => by
      rw [Json.textsOfFields, List.forall_mem_append] at h
      rw [substituteFields, Json.textsOfFields]
      exact run_bind_of_stay (run_substitute_of_literals context pass x h.1)
        (run_bind_pure_of_stay (run_substituteFields_of_literals context pass xs h.2))

end

end Stay

/-- What becomes of a document whose texts stand for themselves. -/
structure LeftAlone (context : Fields) (value : Json) (pass : Pass) : Prop where
  lenient : pass.policy = .lenient → run (substitute context value) pass = (.ok value, pass)
  strict : pass.policy = .strict → (∀ text ∈ value.texts, ¬ IsTagged text) →
    run (substitute context value) pass = (.ok value, pass)
  /-- The first placeholder is named. -/
  refused : pass.policy = .strict → (∃ text ∈ value.texts, IsTagged text) →
    ∃ before text after, value.texts = before ++ text :: after ∧
      (∀ earlier ∈ before, ¬ IsTagged earlier) ∧ IsTagged text ∧
        run (substitute context value) pass = (.error (.unresolvedPlaceholder text), pass)

/-- Literals are left alone, and nothing is drawn for them. -/
theorem leftAlone {context : Fields} {value : Json}
    (hliteral : ∀ text ∈ value.texts, IsLiteral context text) (pass : Pass) :
    LeftAlone context value pass := by
  have hrun := run_substitute_of_literals context pass value hliteral
  refine ⟨fun hlenient => ?_, fun hstrict hnone => ?_, fun hstrict hsome => ?_⟩
  · rw [hrun, hlenient]
    rfl
  · have hfind : value.texts.find? (fun text => (Placeholder.ofText? text).isSome) = none :=
      List.find?_eq_none.2 fun text hmem htagged =>
        hnone text hmem (Placeholder.isTagged_iff.2 htagged)
    rw [hrun, hstrict, stay, hfind]
  · simp only [Placeholder.isTagged_iff] at hsome ⊢
    obtain ⟨text, hfind⟩ := Option.isSome_iff_exists.1 (List.find?_isSome.2 hsome)
    obtain ⟨htagged, before, after, htexts, hbefore⟩ := List.find?_eq_some_iff_append.1 hfind
    refine ⟨before, text, after, htexts, fun earlier hmem => ?_, htagged, ?_⟩
    · simpa using hbefore earlier hmem
    · rw [hrun, hstrict, stay, hfind]

/-- Texts that are nearly placeholders, around one whose name is not bound. -/
def nearMisses : Json :=
  .obj [("A", .str "Press #1"),
    ("list", .arr [.str "A#B#0", .ofNat 7, .obj [("A#0", .str "#0")], .str "STIM#UNIQ", .str "X#"]),
    ("when", .str "OTHER#RAND")]

/-- No text of them is bound, nor is the name of the placeholder. -/
def unrelated : Fields := [("A", .ofNat 3), ("X", .null)]

/-- The strict policy stops at the placeholder among the near misses. -/
theorem leftAlone_nearMisses :
    ∃ pass, pass.policy = .strict ∧ (∀ text ∈ nearMisses.texts, IsLiteral unrelated text) ∧
      run (substitute unrelated nearMisses) pass =
        (.error (.unresolvedPlaceholder "STIM#UNIQ"), pass) ∧
      LeftAlone unrelated nearMisses pass := by
  have hliteral : ∀ text ∈ nearMisses.texts, IsLiteral unrelated text := by
    have hall : nearMisses.texts.all (fun text =>
        (unrelated.get? text).isNone &&
          (Placeholder.ofText? text).all fun p => (unrelated.get? p.name).isNone) = true := by
      decide +kernel
    intro text hmem
    have htext := List.all_eq_true.1 hall text hmem
    rw [Bool.and_eq_true] at htext
    refine ⟨by simpa using htext.1, fun p hp => ?_⟩
    have hname := htext.2
    rw [Placeholder.ofText?_eq_some_iff.2 hp] at hname
    simpa using hname
  exact ⟨.start 0 none .strict (.ofSeed 0), rfl, hliteral, rfl, leftAlone hliteral _⟩

end Resolve

end StudySession

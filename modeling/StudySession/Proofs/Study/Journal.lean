import Mathlib.Data.List.Induction
import StudySession.Proofs.Json.Equality
import StudySession.Proofs.Study.Steps

/-!
# Journals of passes

A pass is worked on by one substitution after the other, each under a context of its own, and by
samplers that draw from its generator in between; a substitution that is refused leaves behind what
was drawn before. The journal of such a run lists the texts that were met, in order, each with the
parameters in scope and the pass at that moment (`Occurrence`), so what every text came to can be
read off. `Journaled` is the same history step by step: what each text and each draw keeps holds of
every run.
-/

namespace StudySession

open Resolve

/-! ## Texts of documents -/

namespace Json

mutual

/-- The texts of a document in the order of traversal; keys of objects are no texts. -/
def texts : Json → List String
  | .str text => [text]
  | .arr items => textsOfItems items
  | .obj fields => textsOfFields fields
  | _ => []

def textsOfItems : List Json → List String
  | [] => []
  | x :: xs => texts x ++ textsOfItems xs

def textsOfFields : List (String × Json) → List String
  | [] => []
  | (_, x) :: xs => texts x ++ textsOfFields xs

end

end Json

/-! ## Arrays under names -/

/-- Whether two arrays are the same under the same name, as far as values are compared. -/
def sameArray (name : String) (items : List Json) (other : String) (bound : List Json) : Bool :=
  name == other && Json.eqvItems items bound

section SameArray

variable {name other : String} {items bound : List Json}

theorem sameArray_iff :
    sameArray name items other bound = true ↔ name = other ∧ Json.eqvItems items bound = true := by
  simp [sameArray]

@[simp] theorem sameArray_self (name : String) (items : List Json) :
    sameArray name items name items = true :=
  sameArray_iff.2 ⟨rfl, Json.eqvItems_refl items⟩

/-- Arrays that are the same are the same as the same arrays. -/
theorem sameArray_congr (h : sameArray name items other bound = true) :
    sameArray name items = sameArray other bound := by
  obtain ⟨rfl, heqv⟩ := sameArray_iff.1 h
  funext name' items'
  rw [sameArray, sameArray, Json.eqvItems_congr_left heqv]

theorem sameArray_comm : sameArray name items other bound = sameArray other bound name items := by
  rw [Bool.eq_iff_iff, sameArray_iff, sameArray_iff]
  exact and_congr eq_comm ⟨Json.eqvItems_symm, Json.eqvItems_symm⟩

theorem sameArray_congr_right (h : sameArray name items other bound = true) (name' : String)
    (items' : List Json) :
    sameArray name' items' name items = sameArray name' items' other bound := by
  rw [sameArray_comm, sameArray_congr h, sameArray_comm]

end SameArray

/-! ## Occurrences -/

/-- A text that substitution comes to, with the parameters in scope and the pass at that moment. -/
structure Occurrence where
  context : Fields
  text : String
  before : Pass

namespace Occurrence

/-- What the text is replaced by, or why it is refused. -/
def outcome (o : Occurrence) : Except StudyError Json :=
  (Resolve.run (substituteText o.context o.text) o.before).1

def after (o : Occurrence) : Pass := (Resolve.run (substituteText o.context o.text) o.before).2

/-- The placeholder that is evaluated and the array its name is bound to. A text that is bound
itself is not read as a placeholder. -/
def selection? (o : Occurrence) : Option (Placeholder × List Json) :=
  match o.context.get? o.text with
  | some _ => none
  | none =>
    (Placeholder.ofText? o.text).bind fun placeholder =>
      match o.context.get? placeholder.name with
      | some (.arr items) => some (placeholder, items)
      | _ => none

/-- Whether a placeholder of a name and a selector is evaluated while the name is bound to an array,
or to an equal one. -/
def selects (o : Occurrence) (name : String) (selector : Selector) (items : List Json) : Bool :=
  o.selection?.any fun s => decide (s.1 = ⟨name, selector⟩) && Json.eqvItems s.2 items

variable {o : Occurrence} {name : String} {selector : Selector} {placeholder : Placeholder}
  {items : List Json}

theorem selects_iff :
    o.selects name selector items = true ↔
      ∃ bound, o.selection? = some (⟨name, selector⟩, bound) ∧
        Json.eqvItems bound items = true := by
  unfold selects
  rw [Option.any_eq_true]
  constructor
  · rintro ⟨⟨placeholder, bound⟩, hselection, h⟩
    obtain ⟨rfl, heqv⟩ : placeholder = ⟨name, selector⟩ ∧ Json.eqvItems bound items = true := by
      simpa using h
    exact ⟨bound, hselection, heqv⟩
  · rintro ⟨bound, hselection, heqv⟩
    exact ⟨_, hselection, by simpa using heqv⟩

/-- Equal arrays are selected from alike. -/
theorem selects_congr {other : List Json} (h : Json.eqvItems items other = true) :
    o.selects name selector items = o.selects name selector other := by
  rw [Bool.eq_iff_iff, selects_iff, selects_iff]
  refine exists_congr fun bound => and_congr_right fun _ => ?_
  exact ⟨fun heqv => Json.eqvItems_trans heqv h,
    fun heqv => Json.eqvItems_trans heqv (Json.eqvItems_symm h)⟩

theorem run_of_selection? (h : o.selection? = some (placeholder, items)) :
    Resolve.run (substituteText o.context o.text) o.before =
      Resolve.run (select o.text placeholder items) o.before := by
  unfold selection? at h
  split at h
  · cases h
  · next hnone =>
      obtain ⟨placeholder', hread, h⟩ := Option.bind_eq_some_iff.1 h
      split at h
      · next items' hbound =>
          obtain ⟨rfl, rfl⟩ := Prod.mk.inj (Option.some.inj h)
          unfold substituteText
          rw [hnone]
          dsimp only
          rw [hread]
          dsimp only
          rw [hbound]
      · cases h

/-- A text from which no array is selected leaves the pass as it is. -/
theorem after_of_selection?_eq_none (h : o.selection? = none) : o.after = o.before := by
  unfold selection? at h
  unfold after substituteText
  cases hbound : o.context.get? o.text with
  | some value => rfl
  | none =>
      rw [hbound] at h
      dsimp only at h ⊢
      split
      · rfl
      · next placeholder hread =>
          rw [hread, Option.bind_some] at h
          split
          · -- left in place or refused, as the policy says
            rw [run_get_bind]
            split <;> rfl
          · next items hitems => rw [hitems] at h; cases h
          · rfl

/-- What an occurrence does with its pass. -/
inductive Effect (o : Occurrence) : Prop where
  /-- Numbers are drawn at most: no array is put in an order, and no item is taken. -/
  | aside (g : Generator) (after : o.after = { o.before with generator := g })
      (unordered : ∀ name items, o.selection? ≠ some (⟨name, .perm⟩, items))
      (untaken : ∀ name items, o.selection? = some (⟨name, .uniq⟩, items) → items = [])
  | order {name : String} {items : List Json}
      (selection : o.selection? = some (⟨name, .perm⟩, items))
      (outcome : o.outcome = .ok (.arr (o.before.order name items).1))
      (after : o.after = (o.before.order name items).2)
  | take {name : String} {items : List Json}
      (selection : o.selection? = some (⟨name, .uniq⟩, items))
      (nonempty : items ≠ [])
      (run : Resolve.run (nextUnique name items) o.before = (o.outcome, o.after))

theorem effect_of_selection? (h : o.selection? = some (placeholder, items)) : o.Effect := by
  have hrun := run_of_selection? h
  obtain ⟨name, selector⟩ := placeholder
  cases selector with
  | index n =>
      refine .aside o.before.generator ?_ (by simp [h]) (by simp [h])
      rw [after, hrun, select]
      dsimp only
      split <;> rfl
  | rand =>
      have hafter : ∃ g, o.after = { o.before with generator := g } := by
        rw [after, hrun, select]
        dsimp only
        split
        · exact ⟨o.before.generator, rfl⟩
        · exact ⟨_, rfl⟩
      obtain ⟨g, hafter⟩ := hafter
      exact .aside g hafter (by simp [h]) (by simp [h])
  | perm =>
      have hordered : Resolve.run (substituteText o.context o.text) o.before =
          (.ok (.arr (o.before.order name items).1), (o.before.order name items).2) := by
        rw [hrun, select]
        dsimp only
        rw [run_bind, run_permutation]
        rfl
      exact .order h (congrArg Prod.fst hordered) (congrArg Prod.snd hordered)
  | uniq =>
      by_cases hitems : items = []
      · refine .aside o.before.generator ?_ (by simp [h]) (by simp [h, hitems])
        rw [after, hrun, select, hitems]
        rfl
      · refine .take h hitems ?_
        rw [outcome, after, hrun, select]
        dsimp only
        rw [if_neg (by simpa using hitems)]

theorem effect (o : Occurrence) : o.Effect := by
  cases h : o.selection? with
  | none =>
      exact .aside o.before.generator (after_of_selection?_eq_none h) (by simp [h]) (by simp [h])
  | some s => exact effect_of_selection? h

end Occurrence

/-! ## Runs -/

namespace Resolve

mutual

/-- The texts that substitution comes to in a document, in order: all up to the first refused. -/
def occurrences (context : Fields) : Json → Pass → List Occurrence
  | .str text, pass => [⟨context, text, pass⟩]
  | .arr items, pass => occurrencesInItems context items pass
  | .obj fields, pass => occurrencesInFields context fields pass
  | _, _ => []

def occurrencesInItems (context : Fields) : List Json → Pass → List Occurrence
  | [], _ => []
  | x :: xs, pass =>
    occurrences context x pass ++
      match Resolve.run (substitute context x) pass with
      | (.ok _, between) => occurrencesInItems context xs between
      | (.error _, _) => []

def occurrencesInFields (context : Fields) : List (String × Json) → Pass → List Occurrence
  | [], _ => []
  | (_, x) :: xs, pass =>
    occurrences context x pass ++
      match Resolve.run (substitute context x) pass with
      | (.ok _, between) => occurrencesInFields context xs between
      | (.error _, _) => []

end

end Resolve

/-- Something that is done with a pass. -/
inductive PassStep where
  | substitute (context : Fields) (value : Json)
  /-- A sampler draws. -/
  | draw (f : Generator → Generator)

namespace Pass

/-- The pass after a step, whether that succeeded or was refused. -/
def perform (pass : Pass) : PassStep → Pass
  | .substitute context value => (Resolve.run (Resolve.substitute context value) pass).2
  | .draw f => { pass with generator := f pass.generator }

/-- The texts that some steps come to, in order. -/
def journal (pass : Pass) : List PassStep → List Occurrence
  | [] => []
  | .substitute context value :: rest =>
    occurrences context value pass ++ journal (pass.perform (.substitute context value)) rest
  | .draw f :: rest => journal (pass.perform (.draw f)) rest

end Pass

/-- One pass comes to another, with a journal. -/
inductive Journaled (first : Pass) : List Occurrence → Pass → Prop where
  | start : Journaled first [] first
  | met {journal : List Occurrence} {pass : Pass} (sofar : Journaled first journal pass)
      (context : Fields) (text : String) :
      Journaled first (journal ++ [⟨context, text, pass⟩]) (Occurrence.after ⟨context, text, pass⟩)
  | drawn {journal : List Occurrence} {pass : Pass} (sofar : Journaled first journal pass)
      (f : Generator → Generator) :
      Journaled first journal { pass with generator := f pass.generator }

namespace Journaled

variable {first : Pass}

mutual

theorem substitute (context : Fields) : ∀ (value : Json) {journal : List Occurrence} {pass : Pass},
    Journaled first journal pass →
      Journaled first (journal ++ occurrences context value pass)
        (Resolve.run (Resolve.substitute context value) pass).2
  | .str text, _, _, h => by
      rw [occurrences, Resolve.substitute]
      exact h.met context text
  | .arr items, _, _, h => by
      have hitems := substituteItems context items h
      rw [occurrences, Resolve.substitute, run_bind]
      split <;> next heq => rw [heq] at hitems; exact hitems
  | .obj fields, _, _, h => by
      have hfields := substituteFields context fields h
      rw [occurrences, Resolve.substitute, run_bind]
      split <;> next heq => rw [heq] at hfields; exact hfields
  | .null, _, _, h => by rwa [occurrences, List.append_nil] <;> simp
  | .bool _, _, _, h => by rwa [occurrences, List.append_nil] <;> simp
  | .int _, _, _, h => by rwa [occurrences, List.append_nil] <;> simp
  | .float _, _, _, h => by rwa [occurrences, List.append_nil] <;> simp

theorem substituteItems (context : Fields) :
    ∀ (items : List Json) {journal : List Occurrence} {pass : Pass},
      Journaled first journal pass →
        Journaled first (journal ++ occurrencesInItems context items pass)
          (Resolve.run (Resolve.substituteItems context items) pass).2
  | [], _, _, h => by rwa [occurrencesInItems, List.append_nil]
  | x :: xs, journal, pass, h => by
      have hx := substitute context x h
      rw [occurrencesInItems, Resolve.substituteItems, run_bind]
      rcases hrun : Resolve.run (Resolve.substitute context x) pass with ⟨_ | value, between⟩
      · rw [hrun] at hx
        rwa [List.append_nil]
      · rw [hrun] at hx
        have hxs := substituteItems context xs hx
        rw [List.append_assoc] at hxs
        dsimp only
        rw [run_bind]
        split <;> next heq => rw [heq] at hxs; exact hxs

theorem substituteFields (context : Fields) :
    ∀ (fields : List (String × Json)) {journal : List Occurrence} {pass : Pass},
      Journaled first journal pass →
        Journaled first (journal ++ occurrencesInFields context fields pass)
          (Resolve.run (Resolve.substituteFields context fields) pass).2
  | [], _, _, h => by rwa [occurrencesInFields, List.append_nil]
  | (k, x) :: xs, journal, pass, h => by
      have hx := substitute context x h
      rw [occurrencesInFields, Resolve.substituteFields, run_bind]
      rcases hrun : Resolve.run (Resolve.substitute context x) pass with ⟨_ | value, between⟩
      · rw [hrun] at hx
        rwa [List.append_nil]
      · rw [hrun] at hx
        have hxs := substituteFields context xs hx
        rw [List.append_assoc] at hxs
        dsimp only
        rw [run_bind]
        split <;> next heq => rw [heq] at hxs; exact hxs

end

/-- Any steps with a pass are journaled. -/
theorem perform {journal : List Occurrence} {pass : Pass} (h : Journaled first journal pass)
    (steps : List PassStep) :
    Journaled first (journal ++ pass.journal steps) (steps.foldl Pass.perform pass) := by
  induction steps generalizing journal pass with
  | nil => rwa [Pass.journal, List.append_nil]
  | cons step rest ih =>
      cases step with
      | substitute context value =>
          have hrest := ih (substitute context value h)
          rwa [List.append_assoc] at hrest
      | draw f => exact ih (h.drawn f)

/-- Whatever a text of a journal came to, the texts before it are the journal of its pass. -/
theorem split {before later : List Occurrence} {o : Occurrence} {pass : Pass}
    (h : Journaled first (before ++ o :: later) pass) : Journaled first before o.before := by
  generalize hall : before ++ o :: later = all at h
  induction h generalizing later with
  | start => simp at hall
  | @met journal pass sofar context text ih =>
      cases later using List.reverseRecOn with
      | nil =>
          obtain ⟨rfl, hlast⟩ := List.append_inj' hall rfl
          obtain rfl := (List.cons.inj hlast).1
          exact sofar
      | append_singleton later last =>
          rw [← List.cons_append, ← List.append_assoc] at hall
          exact ih (List.append_inj' hall rfl).1
  | drawn sofar f ih => exact ih hall

end Journaled

/-! ## What a journal holds -/

namespace Resolve

mutual

/-- In a document that is not refused every text is come to. -/
theorem texts_of_run_substitute (context : Fields) : ∀ (value : Json) {pass : Pass},
    (∃ w, (Resolve.run (substitute context value) pass).1 = .ok w) →
      (occurrences context value pass).map (·.text) = value.texts
  | .str text, _, _ => rfl
  | .arr items, _, h => by
      rw [occurrences, Json.texts]
      refine texts_of_run_substituteItems context items ?_
      obtain ⟨w, h⟩ := h
      rw [substitute, run_bind] at h
      split at h
      · next items' _ heq => exact ⟨items', by rw [heq]⟩
      · cases h
  | .obj fields, _, h => by
      rw [occurrences, Json.texts]
      refine texts_of_run_substituteFields context fields ?_
      obtain ⟨w, h⟩ := h
      rw [substitute, run_bind] at h
      split at h
      · next fields' _ heq => exact ⟨fields', by rw [heq]⟩
      · cases h
  | .null, _, _ => rfl
  | .bool _, _, _ => rfl
  | .int _, _, _ => rfl
  | .float _, _, _ => rfl

theorem texts_of_run_substituteItems (context : Fields) : ∀ (items : List Json) {pass : Pass},
    (∃ w, (Resolve.run (substituteItems context items) pass).1 = .ok w) →
      (occurrencesInItems context items pass).map (·.text) = Json.textsOfItems items
  | [], _, _ => rfl
  | x :: xs, pass, ⟨w, h⟩ => by
      rw [occurrencesInItems, List.map_append, Json.textsOfItems]
      rw [substituteItems, run_bind] at h
      rcases hrun : Resolve.run (substitute context x) pass with ⟨_ | value, between⟩
      · rw [hrun] at h
        cases h
      · rw [texts_of_run_substitute context x ⟨value, by rw [hrun]⟩]
        refine congrArg _ (texts_of_run_substituteItems context xs ?_)
        rw [hrun] at h
        dsimp only at h
        rw [run_bind] at h
        split at h
        · next items' _ heq => exact ⟨items', by rw [heq]⟩
        · cases h

theorem texts_of_run_substituteFields (context : Fields) :
    ∀ (fields : List (String × Json)) {pass : Pass},
      (∃ w, (Resolve.run (substituteFields context fields) pass).1 = .ok w) →
        (occurrencesInFields context fields pass).map (·.text) = Json.textsOfFields fields
  | [], _, _ => rfl
  | (k, x) :: xs, pass, ⟨w, h⟩ => by
      rw [occurrencesInFields, List.map_append, Json.textsOfFields]
      rw [substituteFields, run_bind] at h
      rcases hrun : Resolve.run (substitute context x) pass with ⟨_ | value, between⟩
      · rw [hrun] at h
        cases h
      · rw [texts_of_run_substitute context x ⟨value, by rw [hrun]⟩]
        refine congrArg _ (texts_of_run_substituteFields context xs ?_)
        rw [hrun] at h
        dsimp only at h
        rw [run_bind] at h
        split at h
        · next fields' _ heq => exact ⟨fields', by rw [heq]⟩
        · cases h

end

end Resolve

end StudySession

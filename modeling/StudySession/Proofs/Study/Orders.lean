import StudySession.Proofs.Random.Draw
import StudySession.Proofs.Study.Journal

/-!
# Orders

`NAME#PERM` puts an array in a random order once in a pass. The first text that asks for the order
of an array has the array shuffled; every later one gets the order that the first got and leaves the
pass as it is, however many other arrays the name was bound to in between. The invariant is that a
pass keeps exactly the orders that its journal gave (`Given`).
-/

namespace StudySession

open Resolve

namespace Pass

variable {pass : Pass} {name other : String} {items bound : List Json}

/-- The order that an array was given under a name. -/
def order? (pass : Pass) (name : String) (items : List Json) : Option Permutation :=
  pass.permutations.find? fun p => sameArray p.name p.source name items

/-- Arrays that are the same have the same order. -/
theorem order?_congr (h : sameArray name items other bound = true) :
    pass.order? name items = pass.order? other bound := by
  simp only [order?, sameArray_congr_right h]

theorem order_of_some {p : Permutation} (h : pass.order? name items = some p) :
    pass.order name items = (p.shuffled, pass) := by
  have hfind : (pass.permutations.find? fun p => p.name == name && Json.eqvItems p.source items) =
      some p := h
  rw [order, hfind]

theorem order_of_none (h : pass.order? name items = none) :
    pass.order name items =
      let (shuffled, generator) := pass.generator.shuffle items
      (shuffled,
        { pass with
          generator
          permutations := pass.permutations ++ [⟨name, items, shuffled⟩] }) := by
  have hfind : (pass.permutations.find? fun p => p.name == name && Json.eqvItems p.source items) =
      none := h
  rw [order, hfind]

/-- Giving an order to one array gives none to the others. -/
theorem order?_order_of_not (h : sameArray name items other bound = false) :
    (pass.order name items).2.order? other bound = pass.order? other bound := by
  cases hfound : pass.order? name items with
  | some p => rw [order_of_some hfound]
  | none =>
      rw [order_of_none hfound]
      change (pass.permutations ++ [_]).find?
        (fun p : Permutation => sameArray p.name p.source other bound) = _
      simp [List.find?_append, h, order?]

theorem order?_order (pass : Pass) (name : String) (items : List Json) :
    ∃ p, (pass.order name items).2.order? name items = some p ∧
      (pass.order name items).1 = p.shuffled := by
  cases hfound : pass.order? name items with
  | some p => exact ⟨p, by rw [order_of_some hfound]; exact ⟨hfound, rfl⟩⟩
  | none =>
      have hnone : (pass.permutations.find? fun p => sameArray p.name p.source name items) = none :=
        hfound
      rw [order_of_none hfound]
      refine ⟨⟨name, items, (pass.generator.shuffle items).1⟩, ?_, rfl⟩
      change (pass.permutations ++ [_]).find?
        (fun p : Permutation => sameArray p.name p.source name items) = _
      rw [List.find?_append, hnone]
      simp

/-- Taking an item gives no array an order. -/
theorem permutations_nextUnique (pass : Pass) (name : String) (items : List Json) :
    (Resolve.run (nextUnique name items) pass).2.permutations = pass.permutations := by
  have hopened : (pass.openCursor name items).2.permutations = pass.permutations := by
    unfold openCursor
    split <;> rfl
  rw [run_nextUnique]
  dsimp only
  unfold takeNext
  split <;> exact hopened

end Pass

/-- The order that a pass keeps of an array is the one that its journal gave, each time. -/
def Given (name : String) (items : List Json) (journal : List Occurrence) (pass : Pass) : Prop :=
  match pass.order? name items with
  | none => ∀ o ∈ journal, o.selects name .perm items = false
  | some p =>
    Json.Rearranges p.shuffled items ∧ (∃ o ∈ journal, o.selects name .perm items = true) ∧
      ∀ o ∈ journal, o.selects name .perm items = true → o.outcome = .ok (.arr p.shuffled)

namespace Given

variable {name : String} {items bound : List Json} {journal : List Occurrence}
  {pass after : Pass} {o : Occurrence}

theorem start (hpermutations : pass.permutations = []) : Given name items [] pass := by
  have hnone : pass.order? name items = none := by rw [Pass.order?, hpermutations]; rfl
  rw [Given, hnone]
  simp

/-- A text that does not ask for the array's order leaves it. -/
theorem aside (h : Given name items journal pass) (hother : o.selects name .perm items = false)
    (horder : after.order? name items = pass.order? name items) :
    Given name items (journal ++ [o]) after := by
  rw [Given, horder]
  rw [Given] at h
  split at h
  · exact List.forall_mem_append.2 ⟨h, List.forall_mem_singleton.2 hother⟩
  · obtain ⟨hperm, ⟨first, hfirst, hasked⟩, hall⟩ := h
    refine ⟨hperm, ⟨first, List.mem_append_left _ hfirst, hasked⟩, ?_⟩
    refine List.forall_mem_append.2 ⟨hall, List.forall_mem_singleton.2 fun hselects => ?_⟩
    rw [hother] at hselects
    cases hselects

/-- The first text that asks for the order of an array has it shuffled. -/
theorem order_of_first (h : Given name items journal pass)
    (hsame : sameArray name bound name items = true)
    (hfirst : ∀ o ∈ journal, o.selects name .perm items = false) :
    pass.order? name bound = none := by
  rw [Pass.order?_congr hsame]
  rw [Given] at h
  split at h
  · next hnone => exact hnone
  · obtain ⟨-, ⟨o, ho, hasked⟩, -⟩ := h
    rw [hfirst o ho] at hasked
    cases hasked

/-- A later text gets the order that was given, and leaves the pass as it is. -/
theorem order_of_later (h : Given name items journal pass)
    (hsame : sameArray name bound name items = true) {earlier : Occurrence} (ho : earlier ∈ journal)
    (hasked : earlier.selects name .perm items = true) :
    .ok (.arr (pass.order name bound).1) = earlier.outcome ∧
      (pass.order name bound).2 = pass := by
  rw [Given] at h
  split at h
  · rw [h earlier ho] at hasked
    cases hasked
  · next p hfound =>
      rw [← Pass.order?_congr hsame] at hfound
      rw [Pass.order_of_some hfound]
      exact ⟨(h.2.2 earlier ho hasked).symm, rfl⟩

/-- Whatever an array is given as its order holds its items. -/
theorem rearranges_order (h : Given name items journal pass)
    (hsame : sameArray name bound name items = true) :
    Json.Rearranges (pass.order name bound).1 items := by
  rw [Given, ← Pass.order?_congr hsame] at h
  split at h
  · next hnone =>
      rw [Pass.order_of_none hnone]
      exact (Json.Rearranges.of_perm (Generator.shuffle_perm _ _)).congr (sameArray_iff.1 hsame).2
  · next p hfound =>
      rw [Pass.order_of_some hfound]
      exact h.1

/-- Every text keeps the orders. -/
theorem met (h : Given name items journal pass) (context : Fields) (text : String) :
    Given name items (journal ++ [⟨context, text, pass⟩])
      (Occurrence.after ⟨context, text, pass⟩) := by
  generalize ho : Occurrence.mk context text pass = o
  obtain rfl : o.before = pass := by rw [← ho]
  cases o.effect with
  | aside g hafter unordered untaken =>
      refine h.aside (Bool.eq_false_iff.2 fun hselects => ?_) (by rw [hafter]; rfl)
      obtain ⟨bound, hselection, -⟩ := Occurrence.selects_iff.1 hselects
      exact unordered name bound hselection
  | @take name' bound selection _ run =>
      refine h.aside (by simp [Occurrence.selects, selection]) ?_
      have hkept := o.before.permutations_nextUnique name' bound
      rw [run] at hkept
      exact congrArg (List.find? _) hkept
  | @order name' bound selection houtcome hafter =>
      by_cases hsame : sameArray name' bound name items = true
      · obtain ⟨rfl, heqv⟩ := sameArray_iff.1 hsame
        have hselects : o.selects name' .perm items = true :=
          Occurrence.selects_iff.2 ⟨bound, selection, heqv⟩
        obtain ⟨p, hp, hshuffled⟩ := o.before.order?_order name' bound
        rw [hafter, Given, ← Pass.order?_congr hsame, hp]
        rw [hshuffled] at houtcome
        refine ⟨hshuffled ▸ h.rearranges_order hsame,
          ⟨o, List.mem_append_right _ List.mem_cons_self, hselects⟩, ?_⟩
        refine List.forall_mem_append.2 ⟨fun earlier hearlier hasked => ?_,
          List.forall_mem_singleton.2 fun _ => houtcome⟩
        rw [← (h.order_of_later hsame hearlier hasked).1, hshuffled]
      · refine h.aside (by simpa [Occurrence.selects, selection, sameArray] using hsame) ?_
        rw [hafter]
        exact Pass.order?_order_of_not (Bool.eq_false_iff.2 hsame)

end Given

/-- Along every journal of a new pass the orders are kept. -/
theorem Journaled.given {first pass : Pass} {journal : List Occurrence}
    (hfirst : first.permutations = []) (h : Journaled first journal pass) (name : String)
    (items : List Json) : Given name items journal pass := by
  induction h with
  | start => exact .start hfirst
  | met _ context text ih => exact ih.met context text
  | drawn _ f ih => exact ih

/-- **An array has one order in a pass.** In a new pass, whatever is substituted under whatever
contexts, refused or not, and whatever samplers draw in between: a text that asks for the order of
an array gets the array itself in some order. If a text before it asked for the order of this array
under the same name, it gets just what that text got, and the pass stays as it is, its generator and
its cursors included. If none did, it gets the shuffle of the array that it is bound to, whatever
orders were given to other arrays, and all cursors stay. Arrays are the same as values are equal. -/
theorem Pass.order_is_fixed {index : Nat} {key : Option String} {policy : PlaceholderPolicy}
    {g : Generator} {steps : List PassStep} {before later : List Occurrence} {o : Occurrence}
    {name : String} {items : List Json}
    (hjournal : (Pass.start index key policy g).journal steps = before ++ o :: later)
    (hselection : o.selection? = some (⟨name, .perm⟩, items)) :
    (∃ order, o.outcome = .ok (.arr order) ∧ Json.Rearranges order items) ∧
      (∀ earlier ∈ before, earlier.selects name .perm items = true →
        o.outcome = earlier.outcome ∧ o.after = o.before) ∧
      ((∀ earlier ∈ before, earlier.selects name .perm items = false) →
        o.outcome = .ok (.arr (o.before.generator.shuffle items).1) ∧
          o.after.cursors = o.before.cursors) := by
  have hjournaled : Journaled (Pass.start index key policy g) (before ++ o :: later) _ :=
    hjournal ▸ Journaled.start.perform steps
  have hgiven := hjournaled.split.given rfl name items
  have hself := sameArray_self name items
  obtain ⟨houtcome, hafter⟩ : o.outcome = .ok (.arr (o.before.order name items).1) ∧
      o.after = (o.before.order name items).2 := by
    cases o.effect with
    | aside _ _ unordered _ => exact (unordered _ _ hselection).elim
    | take selection => simp [hselection] at selection
    | @order name' bound selection houtcome hafter =>
        obtain ⟨rfl, rfl⟩ : name = name' ∧ items = bound := by simpa [hselection] using selection
        exact ⟨houtcome, hafter⟩
  refine ⟨⟨_, houtcome, hgiven.rearranges_order hself⟩, fun earlier hearlier hasked => ?_,
    fun hfirst => ?_⟩
  · obtain ⟨hsame, hkept⟩ := hgiven.order_of_later hself hearlier hasked
    exact ⟨houtcome.trans hsame, hafter.trans hkept⟩
  · rw [houtcome, hafter, Pass.order_of_none (hgiven.order_of_first hself hfirst)]
    exact ⟨rfl, rfl⟩

/-! An inner scope binds the name to another array, and then the outer one is seen again. -/

def shadowedSteps : List PassStep :=
  [.substitute [("A", .arr [.str "cat", .float (.zero false), .str "dog"])] (.str "A#PERM"),
    .draw fun g => (g.below 5 .word64).2,
    .substitute [("A", .arr [.str "dog", .str "cat"])] (.arr [.str "A#PERM", .str "A#2"]),
    .substitute [("A", .arr [.str "cat", .float (.zero true), .str "dog"])]
      (.obj [("order", .str "A#PERM")])]

theorem Pass.order_is_fixed_shadowed :
    ∃ first inner refused last bound,
      (Pass.start 0 none .lenient (.ofSeed 7)).journal shadowedSteps =
        [first, inner, refused] ++ last :: [] ∧
      last.selection? = some (⟨"A", .perm⟩, bound) ∧
      first.selects "A" .perm bound = true ∧ inner.selects "A" .perm bound = false ∧
      last.outcome = first.outcome ∧ last.after = last.before := by
  have hasked : ((Pass.start 0 none .lenient (.ofSeed 7)).journal shadowedSteps).map
      (·.selects "A" .perm [.str "cat", .float (.zero true), .str "dog"]) =
        [true, false, false, true] := by decide +kernel
  obtain ⟨first, inner, refused, last, hjournal⟩ : ∃ first inner refused last,
      (Pass.start 0 none .lenient (.ofSeed 7)).journal shadowedSteps =
        [first, inner, refused] ++ last :: [] := by
    generalize (Pass.start 0 none .lenient (.ofSeed 7)).journal shadowedSteps = journal at hasked
    match journal, congrArg List.length hasked with
    | [first, inner, refused, last], _ => exact ⟨first, inner, refused, last, rfl⟩
  rw [hjournal] at hasked
  obtain ⟨hfirst, hinner, -, hlast⟩ : _ ∧ _ ∧ _ ∧ _ := by simpa using hasked
  obtain ⟨bound, hselection, heqv⟩ := Occurrence.selects_iff.1 hlast
  rw [← Occurrence.selects_congr heqv] at hfirst hinner
  obtain ⟨-, hlater, -⟩ := Pass.order_is_fixed hjournal hselection
  exact ⟨first, inner, refused, last, bound, hjournal, hselection, hfirst, hinner,
    hlater first List.mem_cons_self hfirst⟩

end StudySession

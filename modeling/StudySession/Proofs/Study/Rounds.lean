import StudySession.Proofs.Random.Draw
import StudySession.Proofs.Study.Journal

/-!
# Rounds

An array whose items are taken one by one is gone through in rounds: `NAME#UNIQ` gives every item
once before it gives any item again, however many other texts come in between. The cursor of an
array carries this: its order is a permutation of the places, what was taken before the present
round makes up whole rounds, and the present round is the part of the order before the cursor
(`Drawn`). Only a text that takes from the array moves its cursor, so the invariant holds along
every journal, and what was taken from the first item on falls into blocks (`Pass.takes_in_rounds`).
-/

namespace StudySession

open Resolve

/-! ## Cursors by their arrays -/

section First

variable {α : Type} {p q : α → Bool} {xs : List α} {i : Nat} {x y : α}

/-- The first item of its kind may be replaced by another of that kind. -/
theorem find?_set_of_findIdx? (h : xs.findIdx? p = some i) (hy : p y = true) :
    (xs.set i y).find? p = some y := by
  induction xs generalizing i with
  | nil => simp at h
  | cons z zs ih =>
      rw [List.findIdx?_cons] at h
      split at h
      · obtain rfl := Option.some.inj h
        simp [hy]
      · next hz =>
          obtain ⟨j, hj, rfl⟩ := Option.map_eq_some_iff.1 h
          rw [List.set_cons_succ, List.find?_cons_of_neg hz]
          exact ih hj

/-- Replacing items of other kinds does not change which is the first of a kind. -/
theorem find?_set_of_not (h : xs[i]? = some x) (hx : q x = false) (hy : q y = false) :
    (xs.set i y).find? q = xs.find? q := by
  induction xs generalizing i with
  | nil => rfl
  | cons z zs ih =>
      cases i with
      | zero =>
          obtain rfl := Option.some.inj h
          simp [hx, hy]
      | succ i => simp only [List.set_cons_succ, List.find?_cons, ih h]

end First

/-- The cursor of an array under a name. -/
def Pass.cursor? (pass : Pass) (name : String) (items : List Json) : Option Cursor :=
  pass.cursors.find? fun c => sameArray c.name c.source name items

namespace Resolve

variable (c : Cursor) (g : Generator)

/-- Before its end, a cursor comes to the next place of its order. -/
theorem advance_of_lt (h : c.next < c.order.length) :
    advance c g = (c.order[c.next]?, { c with next := c.next + 1 }, g) := by
  unfold advance
  rw [if_neg (by omega)]

/-- At its end, its order is shuffled, and it comes to the first place. -/
theorem advance_of_le (h : c.order.length ≤ c.next) :
    advance c g =
      ((g.shuffle c.order).1[0]?, { c with order := (g.shuffle c.order).1, next := 1 },
        (g.shuffle c.order).2) := by
  unfold advance
  rw [if_pos h]

@[simp] theorem name_advance : (advance c g).2.1.name = c.name := by
  rcases Nat.lt_or_ge c.next c.order.length with h | h
  · rw [advance_of_lt c g h]
  · rw [advance_of_le c g h]

@[simp] theorem source_advance : (advance c g).2.1.source = c.source := by
  rcases Nat.lt_or_ge c.next c.order.length with h | h
  · rw [advance_of_lt c g h]
  · rw [advance_of_le c g h]

end Resolve

/-- A cursor for an array from which nothing was taken yet. -/
def Cursor.FreshFor (c : Cursor) (name : String) (items : List Json) : Prop :=
  ∃ g : Generator, c = ⟨name, items, (g.shuffle (List.range items.length)).1, 0⟩

/-- How the next item of an array is taken: its cursor, or a fresh one where it has none yet, is
advanced, and every other array keeps the cursor it had. -/
structure Taking (pass : Pass) (name : String) (items : List Json) (cursor : Cursor)
    (outcome : Except StudyError Json) (after : Pass) : Prop where
  opened : (pass.openCursor name items).2.cursors[(pass.openCursor name items).1]? = some cursor
  origin : pass.cursor? name items = some cursor ∨
    pass.cursor? name items = none ∧ cursor.FreshFor name items
  outcome : outcome =
    .ok (((advance cursor (pass.openCursor name items).2.generator).1.bind (items[·]?)).getD .null)
  moved : ∀ other bound, after.cursor? other bound =
    if sameArray name items other bound then
      some (advance cursor (pass.openCursor name items).2.generator).2.1
    else pass.cursor? other bound

namespace Pass

variable {pass : Pass} {name other : String} {items bound : List Json}

/-- Arrays that are the same have the same cursor. -/
theorem cursor?_congr (h : sameArray name items other bound = true) :
    pass.cursor? name items = pass.cursor? other bound := by
  simp only [cursor?, sameArray_congr_right h]

/-- The cursor of an array is the first of its kind, and no other array gets one with it. -/
theorem opened_cursor (pass : Pass) (name : String) (items : List Json) :
    ∃ cursor : Cursor, sameArray cursor.name cursor.source name items = true ∧
      ((pass.openCursor name items).2.cursors.findIdx? fun c =>
        sameArray c.name c.source name items) = some (pass.openCursor name items).1 ∧
      (pass.openCursor name items).2.cursors[(pass.openCursor name items).1]? = some cursor ∧
      (pass.cursor? name items = some cursor ∨
        pass.cursor? name items = none ∧ cursor.FreshFor name items) ∧
      ∀ other bound, sameArray name items other bound = false →
        (pass.openCursor name items).2.cursor? other bound = pass.cursor? other bound := by
  unfold openCursor
  cases hplace : pass.cursors.findIdx? fun c => c.name == name && Json.eqvItems c.source items with
  | some place =>
      obtain ⟨hlt, hfor, hfirst⟩ := List.findIdx?_eq_some_iff_getElem.1 hplace
      refine ⟨pass.cursors[place], hfor, hplace, List.getElem?_eq_getElem hlt, .inl ?_,
        fun _ _ _ => rfl⟩
      refine List.find?_eq_some_iff_getElem.2 ⟨hfor, place, hlt, rfl, fun j hj => ?_⟩
      rw [Bool.not_eq_true']
      exact Bool.eq_false_iff.2 (hfirst j hj)
  | none =>
      have hbefore : (pass.cursors.findIdx? fun c => sameArray c.name c.source name items) = none :=
        hplace
      have hnone : pass.cursor? name items = none :=
        List.find?_eq_none.2 fun c hc =>
          Bool.eq_false_iff.1 (List.findIdx?_eq_none_iff.1 hbefore c hc)
      refine ⟨⟨name, items, _, 0⟩, sameArray_self name items, ?_, List.getElem?_concat_length ..,
        .inr ⟨hnone, _, rfl⟩, ?_⟩
      · rw [List.findIdx?_append, hbefore]
        simp
      · intro other bound hother
        change (pass.cursors ++ [_]).find?
          (fun c : Cursor => sameArray c.name c.source other bound) = _
        simp [List.find?_append, hother, cursor?]

theorem taking_nextUnique (pass : Pass) (name : String) (items : List Json) :
    ∃ cursor, Taking pass name items cursor (Resolve.run (nextUnique name items) pass).1
      (Resolve.run (nextUnique name items) pass).2 := by
  obtain ⟨cursor, hfor, hfirst, hopened, horigin, hothers⟩ := pass.opened_cursor name items
  rw [run_nextUnique]
  dsimp only
  unfold takeNext
  rw [hopened]
  refine ⟨cursor, hopened, horigin, rfl, fun other bound => ?_⟩
  generalize (pass.openCursor name items).2 = opened at hfirst hopened hothers ⊢
  have hmoved : sameArray (advance cursor opened.generator).2.1.name
      (advance cursor opened.generator).2.1.source = sameArray name items := by
    rw [name_advance, source_advance]
    exact sameArray_congr hfor
  rw [cursor?]
  dsimp only
  split
  · next hsame =>
      simp only [← sameArray_congr_right hsame]
      exact find?_set_of_findIdx? hfirst (by rw [hmoved, sameArray_self])
  · next hother =>
      have hother := Bool.eq_false_iff.2 hother
      rw [find?_set_of_not hopened (by rw [sameArray_congr hfor, hother]) (by rw [hmoved, hother])]
      exact hothers other bound hother

theorem cursors_order (pass : Pass) (name : String) (items : List Json) :
    (pass.order name items).2.cursors = pass.cursors := by
  unfold order
  split <;> rfl

end Pass

/-! ## Rounds of one array -/

/-- A cursor goes through the places of an array in some order. -/
structure Cursor.Placed (c : Cursor) (items : List Json) : Prop where
  order : c.order.Perm (List.range items.length)
  next_le : c.next ≤ items.length

/-- What was taken from an array so far: whole rounds, and of the present round the items at the
places that the cursor has left behind. -/
structure Drawn (items : List Json) (c : Cursor) (values : List Json) : Prop extends
    Cursor.Placed c items where
  rounds : ∃ (whole : List (List Json)) (part : List Json), values = whole.flatten ++ part ∧
    (∀ round ∈ whole, Json.Rearranges round items) ∧
    List.Forall₂ (fun value i => ∃ item, items[i]? = some item ∧ Json.eqv value item = true) part
      (c.order.take c.next)

section Places

variable {items part : List Json} {places : List Nat}

/-- Items at distinct places are among the items. -/
theorem among_of_places
    (h : List.Forall₂ (fun value i => ∃ item, items[i]? = some item ∧ Json.eqv value item = true)
      part places)
    (hplaces : places.Subperm (List.range items.length)) : Json.Among part items := by
  have hall : (List.range items.length).map (fun i => items.getD i .null) = items := by
    refine List.ext_getElem (by simp) fun i hi hi' => ?_
    simp [hi']
  refine ⟨places.map fun i => items.getD i .null, ?_, ?_⟩
  · obtain ⟨chosen, hperm, hsub⟩ := hplaces
    have hmapped := hsub.map fun i => items.getD i .null
    rw [hall] at hmapped
    exact ⟨_, hperm.map _, hmapped⟩
  · refine List.forall₂_map_right_iff.2 (h.imp fun value i hvalue => ?_)
    obtain ⟨item, hitem, heqv⟩ := hvalue
    simpa [List.getD, hitem] using heqv

/-- Items at all places are the items in some order. -/
theorem rearranges_of_places
    (h : List.Forall₂ (fun value i => ∃ item, items[i]? = some item ∧ Json.eqv value item = true)
      part places)
    (hplaces : places.Perm (List.range items.length)) : Json.Rearranges part items := by
  refine (among_of_places h hplaces.subperm).rearranges ?_
  rw [h.length_eq, hplaces.length_eq, List.length_range]

end Places

namespace Drawn

variable {items bound values : List Json} {c : Cursor} {name : String}

theorem fresh (h : c.FreshFor name bound) (heqv : Json.eqvItems bound items = true) :
    Drawn items c [] := by
  obtain ⟨g, rfl⟩ := h
  refine ⟨⟨?_, Nat.zero_le _⟩, [], [], rfl, by simp, by simp⟩
  rw [← Json.length_eq_of_eqvItems heqv]
  exact g.shuffle_perm _

/-- The place that a cursor comes to is one of the array, and the item there is one that the round
has not come to yet; after the last one a new round begins. -/
theorem advance (h : Drawn items c values) (hne : items ≠ []) (g : Generator)
    (heqv : Json.eqvItems bound items = true) :
    ∃ i item, (Resolve.advance c g).1 = some i ∧ bound[i]? = some item ∧
      Drawn items (Resolve.advance c g).2.1 (values ++ [item]) := by
  obtain ⟨⟨horder, hnext⟩, whole, part, rfl, hwhole, hpart⟩ := h
  have hlength : c.order.length = items.length := by rw [horder.length_eq, List.length_range]
  -- what is found at a place of an order of the array
  have hfind : ∀ (order : List Nat) (k : Nat), order.Perm (List.range items.length) →
      k < order.length → ∃ i item item', order[k]? = some i ∧ bound[i]? = some item ∧
        items[i]? = some item' ∧ Json.eqv item item' = true := by
    intro order k hperm hk
    have hi : order[k] < items.length :=
      List.mem_range.1 (hperm.mem_iff.1 (List.getElem_mem hk))
    have hb : order[k] < bound.length := by rwa [Json.length_eq_of_eqvItems heqv]
    exact ⟨order[k], bound[order[k]], items[order[k]], List.getElem?_eq_getElem hk,
      List.getElem?_eq_getElem hb, List.getElem?_eq_getElem hi,
      (List.forall₂_iff_get.1 (Json.eqvItems_iff.1 heqv)).2 order[k] hb hi⟩
  rcases Nat.lt_or_ge c.next c.order.length with hlt | hge
  · obtain ⟨i, item, item', hi, hitem, hitem', heq⟩ := hfind c.order c.next horder hlt
    rw [advance_of_lt c g hlt]
    refine ⟨i, item, hi, hitem, ⟨horder, by dsimp only; omega⟩, whole, part ++ [item],
      List.append_assoc .., hwhole, ?_⟩
    dsimp only
    rw [List.take_add_one, hi]
    exact List.rel_append hpart (.cons ⟨item', hitem', heq⟩ .nil)
  · -- the round is complete
    have hcomplete : Json.Rearranges part items := by
      rw [List.take_of_length_le hge] at hpart
      exact rearranges_of_places hpart horder
    have hshuffled := (g.shuffle_perm c.order).trans horder
    have hpos : 0 < (g.shuffle c.order).1.length := by
      rw [hshuffled.length_eq, List.length_range]
      exact List.length_pos_of_ne_nil hne
    obtain ⟨i, item, item', hi, hitem, hitem', heq⟩ := hfind _ 0 hshuffled hpos
    rw [advance_of_le c g hge]
    refine ⟨i, item, hi, hitem, ⟨hshuffled, List.length_pos_of_ne_nil hne⟩, whole ++ [part], [item],
      by simp, ?_, ?_⟩
    · intro round hround
      rcases List.mem_append.1 hround with hround | hround
      · exact hwhole round hround
      · rwa [List.mem_singleton.1 hround]
    · dsimp only
      rw [List.take_add_one, List.take_zero, hi]
      exact .cons ⟨item', hitem', heq⟩ .nil

/-- Every block as long as the array, counted from the first item taken, is among its items. -/
theorem block_among (h : Drawn items c values) (k : Nat) :
    Json.Among ((values.drop (k * items.length)).take items.length) items := by
  obtain ⟨⟨horder, -⟩, whole, part, rfl, hwhole, hpart⟩ := h
  have hrest : Json.Among part items :=
    among_of_places hpart (((List.take_sublist _ _).subperm).trans horder.subperm)
  induction whole generalizing k with
  | nil => exact (hrest.drop _).take _
  | cons round whole ih =>
      obtain ⟨hround, hwhole⟩ := List.forall_mem_cons.1 hwhole
      have hlength := hround.length_eq
      rw [List.flatten_cons, List.append_assoc]
      cases k with
      | zero =>
          rw [Nat.zero_mul, List.drop_zero, List.take_left' hlength]
          exact hround.among
      | succ k =>
          rw [Nat.succ_mul, Nat.add_comm, ← List.drop_drop, List.drop_left' hlength]
          exact ih k hwhole

end Drawn

/-! ## Journals -/

/-- What the texts that take from an array came to. -/
def takings (journal : List Occurrence) (name : String) (items : List Json) :
    List (Except StudyError Json) :=
  (journal.filter (·.selects name .uniq items)).map (·.outcome)

theorem takings_snoc (journal : List Occurrence) (o : Occurrence) (name : String)
    (items : List Json) :
    takings (journal ++ [o]) name items =
      takings journal name items ++ if o.selects name .uniq items then [o.outcome] else [] := by
  rw [takings, List.filter_append, List.map_append, takings, List.filter_singleton]
  cases o.selects name .uniq items <;> rfl

/-- What a journal took from an array, and how far the array's cursor has come. -/
def Kept (name : String) (items : List Json) (journal : List Occurrence) (pass : Pass) : Prop :=
  ∃ values : List Json, takings journal name items = values.map .ok ∧
    match pass.cursor? name items with
    | none => values = []
    | some c => Drawn items c values

/-- The next item is there: the cursor of the array comes to a place of its order, the array has an
item at that place, and this is what the text is replaced by. -/
def Occurrence.TakesInBounds (o : Occurrence) (name : String) (items : List Json) : Prop :=
  ∃ cursor i item,
    (o.before.openCursor name items).2.cursors[(o.before.openCursor name items).1]? =
        some cursor ∧
      (advance cursor (o.before.openCursor name items).2.generator).1 = some i ∧
      items[i]? = some item ∧ o.outcome = .ok item

namespace Kept

variable {name : String} {items bound : List Json} {journal : List Occurrence} {pass after : Pass}
  {cursor : Cursor} {outcome : Except StudyError Json}

theorem start (hcursors : pass.cursors = []) : Kept name items [] pass :=
  ⟨[], rfl, by rw [Pass.cursor?, hcursors]; rfl⟩

/-- Whatever the cursor comes to next is there, and goes on with the rounds. -/
theorem taking (h : Kept name items journal pass) (hne : items ≠ [])
    (heqv : Json.eqvItems bound items = true) (ht : Taking pass name bound cursor outcome after) :
    ∃ values i item, takings journal name items = values.map .ok ∧
      (advance cursor (pass.openCursor name bound).2.generator).1 = some i ∧
      bound[i]? = some item ∧ outcome = .ok item ∧
      ∃ c, after.cursor? name items = some c ∧ Drawn items c (values ++ [item]) := by
  obtain ⟨values, htakings, hvalues⟩ := h
  have hdrawn : Drawn items cursor values := by
    have horigin := ht.origin
    rw [Pass.cursor?_congr (sameArray_iff.2 ⟨rfl, heqv⟩)] at horigin
    rcases horigin with hfound | ⟨hnone, hfresh⟩
    · rwa [hfound] at hvalues
    · rw [hnone] at hvalues
      rw [hvalues]
      exact .fresh hfresh heqv
  obtain ⟨i, item, hi, hitem, hnext⟩ := hdrawn.advance hne _ heqv
  refine ⟨values, i, item, htakings, hi, hitem, ?_, _, ?_, hnext⟩
  · rw [ht.outcome, hi, Option.bind_some, hitem, Option.getD_some]
  · rw [ht.moved, if_pos (sameArray_iff.2 ⟨rfl, heqv⟩)]

/-- A text that does not take from the array leaves its cursor. -/
theorem aside (h : Kept name items journal pass) {o : Occurrence}
    (hother : o.selects name .uniq items = false)
    (hcursor : after.cursor? name items = pass.cursor? name items) :
    Kept name items (journal ++ [o]) after := by
  obtain ⟨values, htakings, hvalues⟩ := h
  exact ⟨values, by rw [takings_snoc, hother, htakings]; simp, by rwa [hcursor]⟩

/-- Every text keeps the rounds. -/
theorem met (h : Kept name items journal pass) (hne : items ≠ []) (context : Fields)
    (text : String) :
    Kept name items (journal ++ [⟨context, text, pass⟩])
      (Occurrence.after ⟨context, text, pass⟩) := by
  generalize ho : Occurrence.mk context text pass = o
  obtain rfl : o.before = pass := by rw [← ho]
  cases o.effect with
  | aside g hafter unordered untaken =>
      refine h.aside (Bool.eq_false_iff.2 fun hselects => ?_) (by rw [hafter]; rfl)
      obtain ⟨bound, hselection, heqv⟩ := Occurrence.selects_iff.1 hselects
      rw [untaken name bound hselection] at heqv
      exact hne (List.length_eq_zero_iff.1 (Json.length_eq_of_eqvItems heqv).symm)
  | order selection _ hafter =>
      refine h.aside ?_ (by rw [hafter, Pass.cursor?, Pass.cursors_order]; rfl)
      simp [Occurrence.selects, selection]
  | @take name' bound selection _ run =>
      obtain ⟨cursor, htaking⟩ := o.before.taking_nextUnique name' bound
      rw [run] at htaking
      by_cases hsame : name' = name ∧ Json.eqvItems bound items = true
      · obtain ⟨rfl, heqv⟩ := hsame
        obtain ⟨values, _, item, htakings, -, -, houtcome, c, hc, hdrawn⟩ :=
          h.taking hne heqv htaking
        have houtcome : o.outcome = .ok item := houtcome
        have hselects : o.selects name' .uniq items = true :=
          Occurrence.selects_iff.2 ⟨bound, selection, heqv⟩
        refine ⟨values ++ [item], ?_, by rw [hc]; exact hdrawn⟩
        rw [takings_snoc, if_pos hselects, htakings, houtcome, List.map_append]
        rfl
      · refine h.aside ?_ ?_
        · simpa [Occurrence.selects, selection] using hsame
        · rw [htaking.moved, if_neg (by rwa [sameArray_iff])]

end Kept

/-- Along every journal of a new pass the rounds of every array are kept. -/
theorem Journaled.kept {first pass : Pass} {journal : List Occurrence} (hfirst : first.cursors = [])
    (h : Journaled first journal pass) {items : List Json} (hne : items ≠ []) (name : String) :
    Kept name items journal pass := by
  induction h with
  | start => exact .start hfirst
  | met _ context text ih => exact ih.met hne context text
  | drawn _ f ih => exact ih

/-- **What is taken goes in rounds.** In a new pass, whatever is substituted under whatever
contexts, refused or not, and whatever samplers draw in between: the texts that take from an array
by a name all come to items, and of these, counted from the first, every block as long as the array
holds the items of the array in some order, and a shorter last block some of them, none twice.
Arrays are the same and items are alike as values are equal. No cursor ever comes to a place out of
bounds. -/
theorem Pass.takes_in_rounds (index : Nat) (key : Option String) (policy : PlaceholderPolicy)
    (g : Generator) (steps : List PassStep) (name : String) {items : List Json} (hne : items ≠ []) :
    let journal := (Pass.start index key policy g).journal steps
    (∃ values : List Json,
      (journal.filter (·.selects name .uniq items)).map (·.outcome) = values.map .ok ∧
      ∀ k, let block := (values.drop (k * items.length)).take items.length
        (block.length = items.length → Json.Rearranges block items) ∧ Json.Among block items) ∧
    ∀ o ∈ journal, ∀ name' bound, o.selection? = some (⟨name', .uniq⟩, bound) → bound ≠ [] →
      o.TakesInBounds name' bound := by
  intro journal
  have hjournaled : Journaled (Pass.start index key policy g) journal _ :=
    Journaled.start.perform steps
  constructor
  · obtain ⟨values, htakings, hvalues⟩ := hjournaled.kept rfl hne name
    refine ⟨values, htakings, fun k => ?_⟩
    have hamong : Json.Among ((values.drop (k * items.length)).take items.length) items := by
      split at hvalues
      · rw [hvalues]
        exact ⟨[], List.nil_subperm, by simp⟩
      · exact hvalues.block_among k
    exact ⟨fun hlength => hamong.rearranges (Nat.le_of_eq hlength.symm), hamong⟩
  · intro o ho name' bound hselection hbound
    obtain ⟨before, later, hsplit⟩ := List.append_of_mem ho
    rw [hsplit] at hjournaled
    have hkept := hjournaled.split.kept rfl hbound name'
    -- the journal up to the text says where the cursor stands
    cases o.effect with
    | aside _ _ _ untaken => exact (hbound (untaken _ _ hselection)).elim
    | order selection => simp [hselection] at selection
    | @take name'' bound' selection _ run =>
        obtain ⟨rfl, rfl⟩ : name' = name'' ∧ bound = bound' := by
          simpa [hselection] using selection
        obtain ⟨cursor, htaking⟩ := o.before.taking_nextUnique name' bound
        rw [run] at htaking
        obtain ⟨_, i, item, -, hi, hitem, houtcome, -⟩ :=
          hkept.taking hbound (Json.eqvItems_refl bound) htaking
        exact ⟨cursor, i, item, htaking.opened, hi, hitem, houtcome⟩

/-! Four items are taken from an array of three, though a text is refused between the second and the
third, an inner scope binds the name to another array, and a sampler draws. -/

def threeStimuli : List Json := [.str "cat", .float (.zero false), .str "dog"]

def stimuliSteps : List PassStep :=
  [.substitute [("A", .arr threeStimuli)] (.arr [.str "A#UNIQ", .str "A#UNIQ", .str "A#7"]),
    .substitute [("A", .arr [.str "bird"])] (.str "A#UNIQ"),
    .draw fun g => (g.below 5 .word64).2,
    .substitute [("A", .arr [.str "cat", .float (.zero true), .str "dog"])]
      (.obj [("first", .str "A#UNIQ"), ("second", .str "A#UNIQ"), ("third", .str "B#UNIQ")])]

theorem Pass.takes_in_rounds_refused :
    threeStimuli ≠ [] ∧
    ∃ values : List Json,
      (((Pass.start 0 none .strict (.ofSeed 7)).journal stimuliSteps).filter
        (·.selects "A" .uniq threeStimuli)).map (·.outcome) = values.map .ok ∧
      values.length = 4 ∧ Json.Rearranges (values.take 3) threeStimuli ∧
      Json.Among (values.drop 3) threeStimuli := by
  have hne : threeStimuli ≠ [] := List.cons_ne_nil _ _
  refine ⟨hne, ?_⟩
  obtain ⟨⟨values, hvalues, hblocks⟩, -⟩ :=
    Pass.takes_in_rounds 0 none .strict (.ofSeed 7) stimuliSteps "A" hne
  have hlength : values.length = 4 := by
    have hcount : (((Pass.start 0 none .strict (.ofSeed 7)).journal stimuliSteps).filter
        (·.selects "A" .uniq threeStimuli)).length = 4 := by decide +kernel
    have hmapped := congrArg List.length hvalues
    rw [List.length_map, List.length_map, hcount] at hmapped
    exact hmapped.symm
  refine ⟨values, hvalues, hlength, ?_, ?_⟩
  · have hfirst := (hblocks 0).1 (by simp [hlength, threeStimuli])
    simpa [threeStimuli] using hfirst
  · have hlast := (hblocks 1).2
    rwa [List.take_of_length_le (by simp [hlength, threeStimuli])] at hlast

end StudySession

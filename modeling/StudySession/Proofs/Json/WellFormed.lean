import Mathlib.Algebra.Ring.Int.Defs
import StudySession.Json.Parser
import StudySession.Proofs.Dict
import StudySession.Study.Node
import StudySession.Study.Session

/-!
# Well-formed documents

The type of documents has room for more than a document can hold: an integer beyond 64 bits, or
fields out of order or twice. `Json.WellFormed` leaves these out. Every document that was read is
well formed (`Json.wellFormed_of_parse?`), and so is every node that expansion builds from parts of
one.
-/

namespace StudySession

namespace Json

mutual

/-- Integers fit 64 bits, and the fields of every object are in order. -/
def WellFormed : Json → Prop
  | .int i => -(2 ^ 63) ≤ i ∧ i < 2 ^ 64
  | .arr items => WellFormedItems items
  | .obj fields => Dict.Sorted fields ∧ WellFormedFields fields
  | _ => True

/-- Every item is well formed. -/
def WellFormedItems : List Json → Prop
  | [] => True
  | x :: xs => x.WellFormed ∧ WellFormedItems xs

/-- The value of every field is well formed. -/
def WellFormedFields : List (String × Json) → Prop
  | [] => True
  | (_, x) :: xs => x.WellFormed ∧ WellFormedFields xs

end

mutual

/-- Whether a document is well formed. -/
def decideWellFormed : (j : Json) → Decidable j.WellFormed
  | .null => .isTrue trivial
  | .bool _ => .isTrue trivial
  | .int i => inferInstanceAs (Decidable (-(2 ^ 63) ≤ i ∧ i < 2 ^ 64))
  | .float _ => .isTrue trivial
  | .str _ => .isTrue trivial
  | .arr items => decideWellFormedItems items
  | .obj fields =>
    have := decideWellFormedFields fields
    inferInstanceAs (Decidable (Dict.Sorted fields ∧ WellFormedFields fields))

/-- `Json.decideWellFormed` on every item. -/
def decideWellFormedItems : (items : List Json) → Decidable (WellFormedItems items)
  | [] => .isTrue trivial
  | x :: xs =>
    have := decideWellFormed x
    have := decideWellFormedItems xs
    inferInstanceAs (Decidable (x.WellFormed ∧ WellFormedItems xs))

/-- `Json.decideWellFormed` on every field. -/
def decideWellFormedFields : (fields : List (String × Json)) → Decidable (WellFormedFields fields)
  | [] => .isTrue trivial
  | (_, x) :: xs =>
    have := decideWellFormed x
    have := decideWellFormedFields xs
    inferInstanceAs (Decidable (x.WellFormed ∧ WellFormedFields xs))

end

instance (j : Json) : Decidable j.WellFormed := decideWellFormed j

theorem wellFormedItems_iff {items : List Json} :
    WellFormedItems items ↔ ∀ item ∈ items, item.WellFormed := by
  induction items with
  | nil => simp [WellFormedItems]
  | cons x xs ih => simp [WellFormedItems, ih]

theorem wellFormedFields_iff {fields : List (String × Json)} :
    WellFormedFields fields ↔ ∀ entry ∈ fields, entry.2.WellFormed := by
  induction fields with
  | nil => simp [WellFormedFields]
  | cons entry rest ih => simp [WellFormedFields, ih]

theorem wellFormed_arr {items : List Json} :
    (Json.arr items).WellFormed ↔ ∀ item ∈ items, item.WellFormed := by
  rw [WellFormed, wellFormedItems_iff]

theorem wellFormed_obj {fields : Fields} :
    (Json.obj fields).WellFormed ↔ fields.Sorted ∧ ∀ entry ∈ fields, entry.2.WellFormed := by
  rw [WellFormed, wellFormedFields_iff]

theorem WellFormed.get? {fields : Fields} (h : (Json.obj fields).WellFormed) {key : String}
    {value : Json} (found : fields.get? key = some value) : value.WellFormed :=
  (wellFormed_obj.1 h).2 _ (Dict.mem_of_get?_eq_some found)

/-- Merging well-formed fields gives well-formed fields. -/
theorem WellFormed.mergeOver {base top : Fields} (hbase : (Json.obj base).WellFormed)
    (htop : (Json.obj top).WellFormed) : (Json.obj (base.mergeOver top)).WellFormed := by
  obtain ⟨hsorted, hvalues⟩ := wellFormed_obj.1 hbase
  refine wellFormed_obj.2 ⟨hsorted.mergeOver top, fun entry hentry => ?_⟩
  rcases Dict.mem_mergeOver hentry with h | h
  · exact hvalues entry h
  · exact (wellFormed_obj.1 htop).2 entry h

/-- A non-negative integer of a well-formed document fits 64 bits. -/
theorem WellFormed.nat?_lt {j : Json} (h : j.WellFormed) {n : Nat} (hn : j.nat? = some n) :
    n < 2 ^ 64 := by
  cases j with
  | int i =>
      simp only [nat?] at hn
      split at hn
      · rw [WellFormed] at h
        obtain rfl := Option.some.inj hn
        omega
      · simp at hn
  | _ => simp [nat?] at hn

/-! ## Reading -/

theorem gatherDigits_lt {n : Nat} (h : n < 2 ^ 64) (digits : List Char) :
    (gatherDigits n digits).1 < 2 ^ 64 := by
  induction digits generalizing n with
  | nil => exact h
  | cons c rest ih =>
      rw [gatherDigits]
      split
      · next hlt => exact ih hlt
      · exact h

theorem wellFormed_ofDigits (negative : Bool) {n : Nat} (h : n < 2 ^ 64) :
    (ofDigits negative n).WellFormed := by
  unfold ofDigits
  split
  · split
    · next hn =>
        rw [WellFormed]
        have : Nat.pow 2 63 = 2 ^ 63 := rfl
        omega
    · trivial
  · rw [WellFormed]
    omega

/-- The end of a number: with an exponent or without, what it comes to is a float or the integer of
its digits. -/
theorem wellFormed_exponent {negative : Bool} {isFloat : Prop} [Decidable isFloat] {n : Nat}
    {places : Int} {s rest : List Char} {j : Json} (hn : n < 2 ^ 64)
    (h : (match s with
      | c :: tail =>
        if c = 'e' ∨ c = 'E' then
          ((exponent? tail).map fun x => (places + x.1, true, x.2)).bind fun x =>
            if x.2.1 = true then (Double.ofDecimal? negative n x.1).bind fun y => some (.float y, x.2.2)
            else some (ofDigits negative n, x.2.2)
        else
          if isFloat then (Double.ofDecimal? negative n places).bind fun y => some (.float y, s)
          else some (ofDigits negative n, s)
      | [] =>
        if isFloat then (Double.ofDecimal? negative n places).bind fun y => some (.float y, s)
        else some (ofDigits negative n, s)) = some (j, rest)) : j.WellFormed := by
  -- both ways, a number is read from the digits with no exponent left
  have number : ∀ {isFloat : Prop} [Decidable isFloat] {places : Int} {after : List Char},
      (if isFloat then (Double.ofDecimal? negative n places).bind fun y => some (.float y, after)
        else some (ofDigits negative n, after)) = some (j, rest) → j.WellFormed := by
    intro isFloat _ places after h
    split at h
    · obtain ⟨y, -, hy⟩ := Option.bind_eq_some_iff.1 h
      obtain ⟨rfl, -⟩ := Prod.mk.inj (Option.some.inj hy)
      trivial
    · obtain ⟨rfl, -⟩ := Prod.mk.inj (Option.some.inj h)
      exact wellFormed_ofDigits negative hn
  split at h
  · split at h
    · obtain ⟨x, -, hx⟩ := Option.bind_eq_some_iff.1 h
      exact number hx
    · exact number h
  · exact number h

theorem wellFormed_unsigned? {negative : Bool} {s rest : List Char} {j : Json}
    (h : unsigned? negative s = some (j, rest)) : j.WellFormed := by
  have hwhole := gatherDigits_lt (n := 0) (by decide) (s.takeWhile Char.isDigit)
  unfold unsigned? at h
  dsimp only at h
  split at h
  · simp at h
  · split at h
    · split at h
      · simp at h
      · simp only [Option.bind_eq_bind, Option.bind_some] at h
        exact wellFormed_exponent (gatherDigits_lt hwhole _) h
    · simp only [Option.bind_eq_bind, Option.bind_some] at h
      exact wellFormed_exponent hwhole h

theorem wellFormed_scalar? {s rest : List Char} {j : Json} (h : scalar? s = some (j, rest)) :
    j.WellFormed := by
  unfold scalar? at h
  split at h
  · obtain ⟨_, -, hx⟩ := Option.map_eq_some_iff.1 h
    obtain ⟨rfl, -⟩ := Prod.mk.inj hx
    trivial
  · exact wellFormed_unsigned? h
  · obtain ⟨_, -, hx⟩ := Option.map_eq_some_iff.1 h
    obtain ⟨rfl, -⟩ := Prod.mk.inj hx
    trivial
  · obtain ⟨_, -, hx⟩ := Option.map_eq_some_iff.1 h
    obtain ⟨rfl, -⟩ := Prod.mk.inj hx
    trivial
  · obtain ⟨_, -, hx⟩ := Option.map_eq_some_iff.1 h
    obtain ⟨rfl, -⟩ := Prod.mk.inj hx
    trivial
  · exact wellFormed_unsigned? h

/-- Fields of any order make a well-formed object. -/
theorem wellFormed_ofFields {fields : List (String × Json)}
    (h : ∀ entry ∈ fields, entry.2.WellFormed) : (ofFields fields).WellFormed := by
  have hsorted : Dict.Sorted (Dict.ofList fields) :=
    @Dict.Sorted.mergeOver _ [] .nil fields
  refine wellFormed_obj.2 ⟨hsorted, fun entry hentry => ?_⟩
  rcases Dict.mem_mergeOver hentry with hentry | hentry
  · cases hentry
  · exact h entry hentry

theorem wellFormed_value?_items?_fields? (fuel : Nat) :
    (∀ room s j rest, value? fuel room s = some (j, rest) → j.WellFormed) ∧
      (∀ room s items rest, items? fuel room s = some (items, rest) →
        ∀ item ∈ items, item.WellFormed) ∧
      ∀ room s fields rest, fields? fuel room s = some (fields, rest) →
        ∀ entry ∈ fields, entry.2.WellFormed := by
  induction fuel with
  | zero => simp [value?, items?, fields?]
  | succ fuel ih =>
      obtain ⟨ihValue, ihItems, ihFields⟩ := ih
      refine ⟨?_, ?_, ?_⟩
      · intro room s j rest h
        rw [value?] at h
        split at h
        · split at h
          · simp at h
          · split at h
            · obtain ⟨rfl, -⟩ := Prod.mk.inj (Option.some.inj h)
              exact wellFormed_arr.2 (by simp)
            · obtain ⟨⟨items, after⟩, hitems, hx⟩ := Option.map_eq_some_iff.1 h
              obtain ⟨rfl, -⟩ := Prod.mk.inj hx
              exact wellFormed_arr.2 (ihItems _ _ _ _ hitems)
        · split at h
          · simp at h
          · split at h
            · obtain ⟨rfl, -⟩ := Prod.mk.inj (Option.some.inj h)
              exact wellFormed_obj.2 ⟨.nil, by simp⟩
            · obtain ⟨⟨fields, after⟩, hfields, hx⟩ := Option.map_eq_some_iff.1 h
              obtain ⟨rfl, -⟩ := Prod.mk.inj hx
              exact wellFormed_ofFields (ihFields _ _ _ _ hfields)
        · exact wellFormed_scalar? h
      · intro room s items rest h
        rw [items?] at h
        obtain ⟨⟨item, after⟩, hitem, h⟩ := Option.bind_eq_some_iff.1 h
        have hfirst := ihValue _ _ _ _ hitem
        dsimp only at h
        split at h
        · obtain ⟨⟨others, after'⟩, hothers, h⟩ := Option.bind_eq_some_iff.1 h
          obtain ⟨rfl, -⟩ := Prod.mk.inj (Option.some.inj h)
          exact List.forall_mem_cons.2 ⟨hfirst, ihItems _ _ _ _ hothers⟩
        · obtain ⟨rfl, -⟩ := Prod.mk.inj (Option.some.inj h)
          exact List.forall_mem_cons.2 ⟨hfirst, by simp⟩
        · simp at h
      · intro room s fields rest h
        rw [fields?] at h
        split at h
        · obtain ⟨⟨key, after⟩, -, h⟩ := Option.bind_eq_some_iff.1 h
          dsimp only at h
          split at h
          · obtain ⟨⟨value, after'⟩, hvalue, h⟩ := Option.bind_eq_some_iff.1 h
            have hfirst := ihValue _ _ _ _ hvalue
            dsimp only at h
            split at h
            · obtain ⟨⟨others, after''⟩, hothers, h⟩ := Option.bind_eq_some_iff.1 h
              obtain ⟨rfl, -⟩ := Prod.mk.inj (Option.some.inj h)
              exact List.forall_mem_cons.2 ⟨hfirst, ihFields _ _ _ _ hothers⟩
            · obtain ⟨rfl, -⟩ := Prod.mk.inj (Option.some.inj h)
              exact List.forall_mem_cons.2 ⟨hfirst, by simp⟩
            · simp at h
          · simp at h
        · simp at h

/-- Every document that was read is well formed. -/
theorem wellFormed_of_parse? {text : String} {j : Json} (h : parse? text = some j) :
    j.WellFormed := by
  unfold parse? at h
  dsimp only at h
  split at h
  · next found =>
      split at h
      · obtain rfl := Option.some.inj h
        exact (wellFormed_value?_items?_fields? _).1 _ _ _ _ found
      · simp at h
  · simp at h

/-- The fields of a well-formed record are well formed. -/
theorem WellFormed.record? {j : Json} (hj : j.WellFormed) {names : List String}
    {fields : Fields} (h : j.record? names = some fields) : (Json.obj fields).WellFormed := by
  cases j with
  | obj fields' =>
      obtain rfl := Option.some.inj h
      exact hj
  | arr items =>
      simp only [Json.record?] at h
      split at h
      · obtain rfl := Option.some.inj h
        refine Json.wellFormed_ofFields fun entry hentry => ?_
        exact Json.wellFormed_arr.1 hj entry.2 (List.of_mem_zip hentry).2
      · simp at h
  | _ => simp [Json.record?] at h

end Json

/-! ## Nodes -/

namespace Node

/-- The members that a node of a well-formed document names are well formed. -/
theorem wellFormed_of_mem_membersOf {node : Fields} (h : (Json.obj node).WellFormed)
    {property : String} {member : Json} (hmem : member ∈ membersOf node property) :
    member.WellFormed := by
  unfold membersOf at hmem
  split at hmem
  · next items found => exact Json.wellFormed_arr.1 (h.get? found) member hmem
  · simp at hmem

/-- A member with the common properties under its own is well formed. -/
theorem wellFormed_underlay {node own : Fields} (hnode : (Json.obj node).WellFormed)
    (hown : (Json.obj own).WellFormed) :
    (Json.obj (underlay (commonOf node) own)).WellFormed := by
  unfold underlay commonOf
  split
  · next common heq =>
      split at heq
      · next fields found =>
          obtain rfl := Option.some.inj heq
          exact (hnode.get? found).mergeOver hown
      · simp at heq
  · exact hown

end Node

/-- The nodes of a study are well formed. -/
def Protocol.WellFormed (protocol : Protocol) : Prop := (Json.obj protocol.frames).WellFormed

instance (protocol : Protocol) : Decidable protocol.WellFormed :=
  inferInstanceAs (Decidable (Json.obj protocol.frames).WellFormed)

/-- The nodes of a study that was read from a well-formed document are well formed. -/
theorem Protocol.wellFormed_of_ofJson? {j : Json} {protocol : Protocol} (hj : j.WellFormed)
    (h : Protocol.ofJson? j = some protocol) : protocol.WellFormed := by
  unfold Protocol.ofJson? at h
  obtain ⟨fields, hfields, h⟩ := Option.bind_eq_some_iff.1 h
  obtain ⟨frames, hframes, h⟩ := Option.bind_eq_some_iff.1 h
  obtain ⟨sequence, -, h⟩ := Option.bind_eq_some_iff.1 h
  obtain rfl := Option.some.inj h
  unfold Json.fieldOr at hframes
  split at hframes
  · obtain rfl := Option.some.inj hframes
    exact Json.wellFormed_obj.2 ⟨.nil, by simp⟩
  · next value found =>
      have hvalue := (hj.record? hfields).get? found
      cases value with
      | obj frames' =>
          obtain rfl := Option.some.inj hframes
          exact hvalue
      | _ => simp [Json.obj?] at hframes

end StudySession

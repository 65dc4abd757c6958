import StudySession.Study.Error
import StudySession.Json

/-!
# Frame nodes

A frame node is an object of the study: a leaf that shows one frame, a group of members, or a
sampler that chooses among members. The functions here read the parts of a node. `listProperty` and
`commonProperties` refuse parts of a wrong type; `membersOf` and `commonOf` are the parts
themselves, taken as absent where they are of a wrong type, and are bounded in depth by the node.
-/

namespace StudySession

namespace Node

/-- What a node is. -/
inductive Kind where
  | leaf
  | group
  | sampler (name : String)
  deriving DecidableEq, Repr

/-- A node with a sampler is one, a node with a member list is a group, and a node with a kind is a
leaf. -/
def classify (key : String) (node : Fields) : Except StudyError Kind :=
  match node.get? "sampler" with
  | some (.str name) => .ok (.sampler name)
  | some _ => .error (.malformedFrame key .samplerNotAString)
  | none =>
    if node.has "frameList" then .ok .group
    else if node.has "kind" then .ok .leaf
    else .error (.malformedFrame key .unclassified)

/-- The parameters in scope at a node: its own over the inherited ones. -/
def scope (key : String) (node inherited : Fields) : Except StudyError Fields :=
  match node.get? "parameters" with
  | none | some .null => .ok inherited
  | some (.obj own) => .ok (inherited.mergeOver own)
  | some _ => .error (.malformedFrame key (.propertyNotAnObject "parameters"))

/-- A property that has to be an array if it is there. -/
def listProperty (key : String) (node : Fields) (property : String) :
    Except StudyError (Option (List Json)) :=
  match node.get? property with
  | none => .ok none
  | some (.arr items) => .ok (some items)
  | some _ => .error (.malformedFrame key (.propertyNotAnArray property))

/-- The properties common to a node's members, an object if they are there. -/
def commonProperties (key : String) (node : Fields) : Except StudyError (Option Fields) :=
  match node.get? "commonFrameProperties" with
  | none | some .null => .ok none
  | some (.obj common) => .ok (some common)
  | some _ => .error (.malformedFrame key (.propertyNotAnObject "commonFrameProperties"))

/-- The items of a list property, none where it is not an array. -/
def membersOf (node : Fields) (property : String) : List Json :=
  match node.get? property with
  | some (.arr items) => items
  | _ => []

/-- The common properties, none where they are not an object. -/
def commonOf (node : Fields) : Option Fields :=
  match node.get? "commonFrameProperties" with
  | some (.obj common) => some common
  | _ => none

/-- The key of a member: its own `id`, or its place after the parent's key. -/
def memberKey (parent : String) (index : Nat) (member : Fields) : String :=
  match member.get? "id" with
  | some (.str id) => id
  | _ => parent ++ "-" ++ toString index

/-- A member with the common properties under its own. -/
def underlay (common : Option Fields) (own : Fields) : Fields :=
  match common with
  | some common => common.mergeOver own
  | none => own

/-- How deep the definitions among some members nest, the common properties counted with them. -/
def memberDepth (members : List Json) (common : Option Fields) : Nat :=
  max (Json.depthItems members) (common.elim 0 fun fields => Json.depthFields fields + 1)

end Node

open Json in
/-- The value found under a key nests no deeper than the fields it was found in. -/
theorem Dict.depth_get?_le {fields : Fields} {key : String} {value : Json}
    (h : fields.get? key = some value) : value.depth ≤ depthFields fields := by
  induction fields with
  | nil => simp [Dict.get?] at h
  | cons entry rest ih =>
    obtain ⟨k, v⟩ := entry
    simp only [Dict.get?, List.lookup_cons] at h
    simp only [depthFields]
    by_cases hk : key == k
    · simp only [hk, Option.some.injEq] at h
      subst h
      omega
    · simp only [hk] at h
      have := ih h
      omega

/-- Putting a value in makes fields no deeper than both were. -/
theorem Dict.depthFields_insert_le (fields : Fields) (key : String) (value : Json) :
    Json.depthFields (fields.insert key value) ≤ max (Json.depthFields fields) value.depth := by
  induction fields with
  | nil => simp [Dict.insert, Json.depthFields]
  | cons entry rest ih =>
    obtain ⟨k, v⟩ := entry
    simp only [Dict.insert]
    split
    · simp only [Json.depthFields]; omega
    · split
      · simp only [Json.depthFields]; omega
      · simp only [Json.depthFields]; omega

/-- Merged fields are no deeper than both parts. -/
theorem Dict.depthFields_mergeOver_le (base top : Fields) :
    Json.depthFields (base.mergeOver top) ≤ max (Json.depthFields base) (Json.depthFields top) := by
  induction top generalizing base with
  | nil => simp [Dict.mergeOver, Json.depthFields]
  | cons entry rest ih =>
    obtain ⟨k, v⟩ := entry
    have step := ih (base.insert k v)
    have inserted := Dict.depthFields_insert_le base k v
    simp only [Dict.mergeOver, List.foldl_cons, Json.depthFields] at step ⊢
    omega

/-- An item of a list is no deeper than the list. -/
theorem Json.depth_le_depthItems {item : Json} {items : List Json} (h : item ∈ items) :
    item.depth ≤ Json.depthItems items := by
  induction items with
  | nil => simp at h
  | cons x xs ih =>
    simp only [Json.depthItems]
    rcases List.mem_cons.1 h with rfl | h
    · omega
    · have := ih h
      omega

/-- A list of some of the items is no deeper than the items. -/
theorem Json.depthItems_le_of_subset {some all : List Json} (h : ∀ item ∈ some, item ∈ all) :
    Json.depthItems some ≤ Json.depthItems all := by
  induction some with
  | nil => simp [Json.depthItems]
  | cons x xs ih =>
    have first := Json.depth_le_depthItems (h x List.mem_cons_self)
    have rest := ih fun item hi => h item (List.mem_cons_of_mem x hi)
    simp only [Json.depthItems]
    omega

namespace Node

/-- Some members of a node's list, with its common properties, nest no deeper than the node. -/
theorem memberDepth_le {node : Fields} {property : String} {members : List Json}
    (h : ∀ member ∈ members, member ∈ membersOf node property) :
    memberDepth members (commonOf node) ≤ Json.depthFields node := by
  have items : Json.depthItems members ≤ Json.depthFields node := by
    refine Nat.le_trans (Json.depthItems_le_of_subset h) ?_
    unfold membersOf
    split
    · next items found =>
      have := Dict.depth_get?_le found
      simp only [Json.depth] at this
      omega
    · simp [Json.depthItems]
  have common : ((commonOf node).elim 0 fun fields => Json.depthFields fields + 1) ≤
      Json.depthFields node := by
    unfold commonOf
    split
    · next common found =>
      have := Dict.depth_get?_le found
      simpa only [Json.depth, Option.elim] using this
    · simp
  simp only [memberDepth]
  omega

/-- A member with the common properties under it nests less deep than the members do. -/
theorem depthFields_underlay_lt {own : Fields} {rest : List Json} {common : Option Fields} :
    Json.depthFields (underlay common own) < memberDepth (.obj own :: rest) common := by
  cases common with
  | none => simp only [underlay, memberDepth, Json.depthItems, Json.depth, Option.elim]; omega
  | some common =>
    have := Dict.depthFields_mergeOver_le common own
    simp only [underlay, memberDepth, Json.depthItems, Json.depth, Option.elim]
    omega

/-- Fewer members nest no deeper. -/
theorem memberDepth_tail_le (member : Json) (rest : List Json) (common : Option Fields) :
    memberDepth rest common ≤ memberDepth (member :: rest) common := by
  simp only [memberDepth, Json.depthItems]
  omega

end Node

end StudySession

import Mathlib
import StudySession.Proofs.MapM
import StudySession.Proofs.Study.Visits

/-!
# Flat frames

A frame is written as one object, its properties beside its id, so a property of the name `id` would
take the id's place. No frame of a resolved study has one, nor one of the name `parameters`
(`Study.plain_of_resolve`): a frame has the properties of a leaf that expansion came to
(`Resolver.exists_visit_of_mem_frames`), whatever these were merged from, but for the parameters,
which the leaf leaves out, and the id, which the numbering of the entry does. So what is written is
read back as it was (`Study.survives`).
-/

namespace StudySession

open Resolve

/-- Substitution keeps the keys of fields. -/
theorem Resolve.keys_substituteFields {context fields out : Fields} {pass after : Pass}
    (h : run (substituteFields context fields) pass = (.ok out, after)) : out.keys = fields.keys := by
  induction fields generalizing out pass after with
  | nil =>
      rw [substituteFields, run_pure] at h
      obtain rfl := Except.ok.inj (Prod.mk.inj h).1
      rfl
  | cons entry rest ih =>
      obtain ⟨k, x⟩ := entry
      rw [substituteFields] at h
      obtain ⟨y, between, -, h⟩ := run_bind_eq_ok_iff.1 h
      obtain ⟨ys, last, hrest, h⟩ := run_bind_eq_ok_iff.1 h
      obtain rfl := Except.ok.inj (Prod.mk.inj h).1
      exact congrArg (k :: ·) (ih hrest)

/-! ## Where frames come from -/

namespace Resolver

variable {r : Resolver}

/-- A frame has the properties of a visited node but for the parameters. -/
def Shows (v : Visit) (frame : Fields) : Prop := frame.keys = (v.node.erase "parameters").keys

theorem shows_of_expandLeaf {v : Visit} {e : Expansion} {after : Pass}
    (h : (expandLeaf v.key v.node v.context).run v.pass = (.ok e, after)) :
    ∀ frame ∈ e.frames, Shows v frame := by
  obtain ⟨context, -, h⟩ := run_check_bind_eq_ok_iff.1 h
  obtain ⟨out, between, hout, h⟩ := run_bind_eq_ok_iff.1 h
  obtain rfl := Except.ok.inj (Prod.mk.inj h).1
  intro frame hframe
  obtain rfl := List.mem_singleton.1 hframe
  exact keys_substituteFields hout

/-- The frames of an expansion, or of that of some members, are shown at visits below. -/
theorem exists_visit_of_mem_frames :
    (∀ key node context pass e after, (r.expand key node context).run pass = (.ok e, after) →
        ∀ frame ∈ e.frames, ∃ v, r.Reaches ⟨key, node, context, pass⟩ v ∧ Shows v frame) ∧
      ∀ parent members common context pass e after,
        (r.expandMembers parent members common context).run pass = (.ok e, after) →
        ∀ frame ∈ e.frames, ∃ w, r.EntersMember parent common context members pass w ∧
          ∃ v, r.Reaches w v ∧ Shows v frame := by
  refine exists_visit_of_holds ?_ ?_ ?_ ?_
  · intro frame hframe
    simp [Expansion.empty] at hframe
  · intro e e' frame hframe
    exact List.mem_append.1 hframe
  · intro v e after run
    exact shows_of_expandLeaf run
  · intro v context choice after chosen made frame hframe
    exact .inr hframe

end Resolver

/-! ## Plain properties -/

/-- Properties in order, among which there is neither an id nor parameters. -/
structure Fields.Plain (properties : Fields) : Prop where
  sorted : properties.Sorted
  id : properties.get? "id" = none
  parameters : properties.get? "parameters" = none

namespace ResolvedFrame

variable {f : ResolvedFrame}

/-- What the object of a frame has under a name: the property, or else the id. -/
theorem field?_toJson (h : f.properties.Sorted) (name : String) :
    f.toJson.field? name =
      (f.properties.get? name).or (if name = "id" then some (.str f.id) else none) := by
  show (Dict.mergeOver [("id", Json.str f.id)] f.properties).get? name = _
  rw [Dict.get?_mergeOver h.nodup_keys, Dict.get?_cons]
  rfl

/-- The id is no property, so it is read back and the properties beside it. -/
theorem ofJson?_toJson (h : Fields.Plain f.properties) : ofJson? f.toJson = some f := by
  have hid : f.toJson.field? "id" = some (.str f.id) := by
    rw [field?_toJson h.sorted, h.id, if_pos rfl]
    rfl
  have hsorted : (Dict.mergeOver [("id", Json.str f.id)] f.properties).Sorted :=
    Dict.Sorted.mergeOver (List.pairwise_singleton ..) _
  have hrest : (Dict.mergeOver [("id", Json.str f.id)] f.properties).erase "id" = f.properties := by
    refine (hsorted.erase "id").ext h.sorted fun name => ?_
    by_cases hname : name = "id"
    · rw [hname, Dict.get?_erase_self, h.id]
    · have hfield := field?_toJson h.sorted name
      rw [if_neg hname, Option.or_none] at hfield
      rw [Dict.get?_erase_of_ne hname]
      exact hfield
  have hget : (Dict.mergeOver [("id", Json.str f.id)] f.properties).get? "id" =
      some (.str f.id) := hid
  simp only [ofJson?, toJson, Json.obj?, Option.bind_eq_bind, Option.bind_some, hget, hrest]
  rfl

/-- With an `id` among its properties, another frame would be read back. -/
example : ofJson? (toJson ⟨"0-a", [("id", .str "b")]⟩) = some ⟨"b", []⟩ := rfl

end ResolvedFrame

theorem Resolution.ofJson?_toJson {r : Resolution}
    (h : ∀ f ∈ r.frames, Fields.Plain f.properties) : ofJson? r.toJson = some r := by
  have hframes : (r.frames.map (·.toJson)).mapM ResolvedFrame.ofJson? = some r.frames := by
    rw [mapM_eq_some_iff, List.forall₂_map_left_iff, List.forall₂_same]
    exact fun f hf => ResolvedFrame.ofJson?_toJson (h f hf)
  show ((r.frames.map (·.toJson)).mapM ResolvedFrame.ofJson?).bind _ = _
  rw [hframes]
  rfl

/-! ## The frames of a study -/

namespace Study

variable {study : Study} {g g' : Generator} {r : Resolution} {es : List Expansion}
  {keys : List String} {index : Nat}

theorem exists_mem_of_mem_framesFrom {f : ResolvedFrame} (h : f ∈ framesFrom index keys es) :
    ∃ e ∈ es, ∃ frame ∈ e.frames, f.properties = frame.erase "id" := by
  induction keys generalizing index es with
  | nil => simp [framesFrom] at h
  | cons key keys ih =>
      cases es with
      | nil => simp [framesFrom] at h
      | cons e es =>
          rcases List.mem_append.1 h with h | h
          · obtain ⟨⟨frame, number⟩, hmem, rfl⟩ := List.mem_map.1 h
            exact ⟨e, List.mem_cons_self, frame, List.fst_mem_of_mem_zipIdx hmem, rfl⟩
          · obtain ⟨e', he', hframe⟩ := ih h
            exact ⟨e', List.mem_cons_of_mem _ he', hframe⟩

/-- Each expansion is that of a node of the study. -/
theorem Expands.exists_node (h : study.Expands index keys g es g') {e : Expansion} (he : e ∈ es) :
    ∃ key node pass after, study.protocol.frames.get? key = some (.obj node) ∧
      (study.resolver.expand key node []).run pass = (.ok e, after) := by
  induction h with
  | nil => cases he
  | @cons index key keys e' es g g₁ g₂ first rest ih =>
      rcases List.mem_cons.1 he with rfl | he
      · obtain ⟨node, after, found, hrun, -⟩ := expandEntry_eq_ok_iff.1 first
        exact ⟨key, node, _, after, found, hrun⟩
      · exact ih he

/-- No frame of a resolved study has an id or parameters among its properties. -/
theorem plain_of_resolve (hwf : study.protocol.WellFormed) (h : study.resolve g = (.ok r, g')) :
    ∀ f ∈ r.frames, Fields.Plain f.properties := by
  obtain ⟨es, hes, rfl⟩ := resolve_eq_ok_iff.1 h
  rw [addEntries_frames, List.nil_append]
  intro f hf
  obtain ⟨e, he, frame, hframe, hproperties⟩ := exists_mem_of_mem_framesFrom hf
  obtain ⟨key, node, pass, after, found, hrun⟩ := hes.exists_node he
  obtain ⟨v, hv, shows⟩ := Resolver.exists_visit_of_mem_frames.1 _ _ _ _ _ _ hrun frame hframe
  -- the frame has the keys of a well-formed node, so they are in order
  have hnode : v.node.Sorted :=
    (Json.wellFormed_obj.1 (hv.wellFormed_node (Json.WellFormed.get? hwf found))).1
  have hparameters : frame.get? "parameters" = none := by
    rw [Dict.get?_eq_none_iff, shows, ← Dict.get?_eq_none_iff]
    exact Dict.get?_erase_self _ _
  rw [hproperties]
  refine ⟨((hnode.erase "parameters").of_keys_eq shows).erase "id", Dict.get?_erase_self _ _, ?_⟩
  rw [Dict.get?_erase_of_ne (by decide)]
  exact hparameters

/-- What is written of a resolution is what it says. -/
structure Survives (r : Resolution) : Prop where
  /-- No frame has a property of the name of its id, or the parameters that it was made with. -/
  unauthored : ∀ f ∈ r.frames, "id" ∉ f.properties.keys ∧ "parameters" ∉ f.properties.keys
  /-- The object of a frame has the id that was given to it -/
  id : ∀ f ∈ r.frames, f.toJson.field? "id" = some (.str f.id)
  /-- and the frame's properties, -/
  properties : ∀ f ∈ r.frames, ∀ name, name ≠ "id" →
    f.toJson.field? name = f.properties.get? name
  /-- and all is read back. -/
  readBack : Resolution.ofJson? r.toJson = some r

/-- A resolution survives its written form. -/
theorem survives (hwf : study.protocol.WellFormed) (h : study.resolve g = (.ok r, g')) :
    Survives r := by
  have hplain := plain_of_resolve hwf h
  refine ⟨fun f hf => ?_, fun f hf => ?_, fun f hf name hname => ?_,
    Resolution.ofJson?_toJson hplain⟩
  · obtain ⟨-, hid, hparameters⟩ := hplain f hf
    exact ⟨Dict.get?_eq_none_iff.1 hid, Dict.get?_eq_none_iff.1 hparameters⟩
  · rw [ResolvedFrame.field?_toJson (hplain f hf).sorted, (hplain f hf).id, if_pos rfl]
    rfl
  · rw [ResolvedFrame.field?_toJson (hplain f hf).sorted, if_neg hname, Option.or_none]

/-- A sampler whose common properties give the members of its options an id and parameters. -/
def overlaidStudy : Study where
  protocol :=
    { frames :=
        [("a", .obj
            [("commonFrameProperties", .obj [("commonFrameProperties", .obj
                [("id", .str "x"), ("kind", .str "k"), ("parameters", .obj [("P", .ofNat 1)])])]),
              ("frameOptions", .arr
                [.obj [("frameList", .arr [.obj [("text", .str "P")], .obj [("id", .str "y")]])]]),
              ("sampler", .str "select"), ("whichFrames", .ofNat 0)])]
      sequence := ["a"] }
  resolver := ⟨.builtins, [], none⟩
  policy := .lenient

/-- What it resolves to. -/
def overlaidResolution : Resolution where
  frames :=
    [⟨"0-a-0", [("kind", .str "k"), ("text", .ofNat 1)]⟩, ⟨"0-a-1", [("kind", .str "k")]⟩]
  conditions := [("0_a", .obj [("whichFrames", .ofNat 0)])]

theorem survives_overlaid :
    overlaidStudy.protocol.WellFormed ∧
      overlaidStudy.resolve (.ofSeed 0) = (.ok overlaidResolution, .ofSeed 0) ∧
      Survives overlaidResolution := by
  have hwf : overlaidStudy.protocol.WellFormed := by decide +kernel
  have hrun : overlaidStudy.resolve (.ofSeed 0) = (.ok overlaidResolution, .ofSeed 0) := by cbv
  exact ⟨hwf, hrun, survives hwf hrun⟩

end Study

end StudySession

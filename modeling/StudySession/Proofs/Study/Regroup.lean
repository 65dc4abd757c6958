import StudySession.Proofs.Study.Lexical
import StudySession.Proofs.Study.ParameterSets
import StudySession.Proofs.Study.Replay

/-!
# Parameter samplers as groups

`random-parameter-set` and `increment-conditions` expand every member of their node's list under the
parameters that they choose. A group does the same under parameters of its own: `Node.grouping` puts
the chosen ones over those that the node has. The sampler merges the node's own parameters over the
inherited ones and the chosen over both, the group merges own and chosen first, and it does not
matter which is done first (`Dict.mergeOver_assoc`).
-/

namespace StudySession

open Resolve

/-! ## The group of a node -/

namespace Node

variable {key : String} {node inherited context parameters : Fields}

/-- The node as a group, with further parameters over its own. -/
def grouping (node parameters : Fields) : Fields :=
  (node.erase "sampler").insert "parameters" (.obj ((ownParameters node).mergeOver parameters))

theorem get?_grouping {property : String} (hsampler : property ≠ "sampler")
    (hparameters : property ≠ "parameters") :
    (grouping node parameters).get? property = node.get? property := by
  rw [grouping, Dict.get?_insert_of_ne hparameters, Dict.get?_erase_of_ne hsampler]

theorem classify_grouping {members : List Json}
    (hmembers : node.get? "frameList" = some (.arr members)) :
    classify key (grouping node parameters) = .ok .group := by
  have hsampler : (grouping node parameters).get? "sampler" = none := by
    rw [grouping, Dict.get?_insert_of_ne (by decide), Dict.get?_erase_self]
  have hlist : (grouping node parameters).has "frameList" = true := by
    rw [Dict.has, get?_grouping (by decide) (by decide), hmembers]
    rfl
  rw [classify, hsampler]
  simp [hlist]

/-- Its parameters are in scope as if they were merged over those in scope at the node. -/
theorem scope_grouping (hnode : (Json.obj node).WellFormed) (hinherited : inherited.Sorted)
    (hparameters : parameters.keys.Nodup) (hscope : scope key node inherited = .ok context) :
    scope key (grouping node parameters) inherited = .ok (context.mergeOver parameters) := by
  have hfound : (grouping node parameters).get? "parameters" =
      some (.obj ((ownParameters node).mergeOver parameters)) := Dict.get?_insert_self ..
  have hown : (ownParameters node).Sorted ∧ context = inherited.mergeOver (ownParameters node) := by
    unfold scope at hscope
    unfold ownParameters
    split at hscope
    · next hnone =>
        rw [hnone]
        exact ⟨List.Pairwise.nil, (Except.ok.inj hscope).symm⟩
    · next hnull =>
        rw [hnull]
        exact ⟨List.Pairwise.nil, (Except.ok.inj hscope).symm⟩
    · next own hobj =>
        rw [hobj]
        exact ⟨(Json.wellFormed_obj.1 (hnode.get? hobj)).1, (Except.ok.inj hscope).symm⟩
    · cases hscope
  obtain ⟨hsorted, rfl⟩ := hown
  rw [scope, hfound]
  exact congrArg Except.ok (Dict.mergeOver_assoc hinherited hsorted hparameters)

end Node

/-! ## Every member of a list -/

/-- All the places of a list, taken in order, give every item with its place. -/
theorem filterMap_range_eq_zipIdx {α : Type} (items : List α) :
    (List.range items.length).filterMap (fun i => items[i]?.map (·, i)) = items.zipIdx := by
  induction items using List.reverseRecOn with
  | nil => rfl
  | append_singleton items item ih =>
      have hinit : (List.range items.length).filterMap
          (fun i => (items ++ [item])[i]?.map (·, i)) = items.zipIdx := by
        rw [← ih]
        refine List.filterMap_congr fun i hi => ?_
        rw [List.getElem?_append_left (List.mem_range.1 hi)]
      rw [List.length_append, List.length_singleton, List.range_succ, List.filterMap_append, hinit,
        List.zipIdx_append]
      simp

namespace Resolver

variable {r : Resolver} {v : Visit} {e : Expansion} {after : Pass}

/-- A sampler node that chose some parameters and recorded a condition comes to the same as the
group with these parameters does from the pass in which they were chosen: to the same frames, to the
same records, the sampler's own apart, and to the same pass afterwards. -/
def Regroups (r : Resolver) (v : Visit) (parameters : Fields) (condition : Json) (e : Expansion)
    (after : Pass) : Prop :=
  ∃ context choice drawn nested, r.Chooses v context choice drawn ∧
    choice.parameters = parameters ∧ choice.condition = condition ∧
    e = ⟨nested.frames, nested.conditions.insert v.key condition⟩ ∧
    (r.expand v.key (Node.grouping v.node parameters) v.context).run drawn = (.ok nested, after)

/-- A choice of every member of the node's list is that of a group. -/
theorem run_expand_grouping (hnode : (Json.obj v.node).WellFormed) (hcontext : v.context.Sorted)
    {context parameters : Fields} {choice : Choice} {members : List Json} {common : Option Fields}
    {drawn : Pass} {nested : Expansion}
    (hscope : Node.scope v.key v.node v.context = .ok context)
    (hmembers : (r.request v.pass v.key v.node context).frameList = .ok members)
    (hcommon : (r.request v.pass v.key v.node context).common = .ok common)
    (hproperty : choice.property = "frameList") (hpicks : choice.picks = List.range members.length)
    (hparameters : parameters.keys.Nodup)
    (hrun : (r.expandMembers v.key (choice.members v.node) (Node.commonOf v.node)
      (context.mergeOver parameters)).run drawn = (.ok nested, after)) :
    (r.expand v.key (Node.grouping v.node parameters) v.context).run drawn = (.ok nested, after) := by
  have hlist : v.node.get? "frameList" = some (.arr members) := Request.get?_of_frameList hmembers
  have hlooked : ∀ property, property ≠ "sampler" → property ≠ "parameters" →
      (Node.grouping v.node parameters).get? property = v.node.get? property :=
    fun _ => Node.get?_grouping
  have hmembersOf : Node.membersOf (Node.grouping v.node parameters) "frameList" = members := by
    rw [Node.membersOf, hlooked _ (by decide) (by decide), hlist]
  have hchosen : choice.members v.node = members.zipIdx := by
    have hitems : Node.membersOf v.node choice.property = members := by
      rw [hproperty, Node.membersOf, hlist]
    rw [Choice.members, hitems, hpicks, filterMap_range_eq_zipIdx]
  have hcommonOf : Node.commonOf (Node.grouping v.node parameters) = Node.commonOf v.node :=
    Node.commonOf_congr (hlooked _ (by decide) (by decide))
  have hitems : Node.listProperty v.key (Node.grouping v.node parameters) "frameList" =
      .ok (some members) := by
    rw [Node.listProperty, hlooked _ (by decide) (by decide), hlist]
  have hproperties : Node.commonProperties v.key (Node.grouping v.node parameters) = .ok common := by
    rw [← hcommon]
    exact Node.commonProperties_congr (hlooked _ (by decide) (by decide))
  refine Expanded.run (v := ⟨v.key, Node.grouping v.node parameters, v.context, drawn⟩)
    (.group (Node.classify_grouping hlist)
      (Node.scope_grouping hnode hcontext hparameters hscope) hitems hproperties ?_)
  dsimp only
  rw [hmembersOf, hcommonOf, ← hchosen]
  exact hrun

/-- **A parameter sampler is a group with the recorded parameters.** Let a `random-parameter-set` or
an `increment-conditions` node expand, whatever it inherits, in whatever pass. The first recorded one
of the node's parameter sets and its number among them, the other a condition; and from the pass in
which it was chosen, the group that has the recorded parameters over the node's own comes to the same
frames, the same records below and the same pass. -/
theorem parameters_regroup (hsets : r.registry.get? "random-parameter-set" = some .randomParameterSet)
    (hincrement : r.registry.get? "increment-conditions" = some .incrementConditions)
    (hnode : (Json.obj v.node).WellFormed) (hcontext : v.context.Sorted)
    (hrun : (r.expand v.key v.node v.context).run v.pass = (.ok e, after)) :
    (v.node.get? "sampler" = some (.str "random-parameter-set") →
      ∃ number parameters,
        (Node.membersOf v.node "parameterSets")[number]? = some (.obj parameters) ∧
        r.Regroups v parameters (.obj
          [("conditionNum", .ofNat number), ("parameterSet", .obj parameters)]) e after) ∧
    (v.node.get? "sampler" = some (.str "increment-conditions") →
      ∃ condition, r.Regroups v condition (.obj condition) e after) := by
  constructor
  case left =>
    intro hname
    obtain ⟨context, choice, drawn, nested, hscope, hchosen, hmembers, rfl⟩ :=
      exists_choice_of_run hname hsets hrun
    obtain ⟨number, parameters, hoffers, members, hlist, rfl⟩ :=
      ParameterSet.chosen_of_run hchosen
    obtain ⟨⟨sets, hofsets, hset⟩, -, ⟨common, hcommon⟩⟩ := hoffers
    have hsetsOf := ParameterSet.membersOf_of_sets hofsets
    have hmem : .obj parameters ∈ Node.membersOf v.node "parameterSets" :=
      List.mem_of_getElem? (hsetsOf ▸ hset)
    have hwellFormed := Node.wellFormed_of_mem_membersOf hnode hmem
    refine ⟨number, parameters, hsetsOf ▸ hset, context, _, drawn, nested,
      ⟨hscope, _, _, Node.classify_of_sampler hname, hsets, hchosen⟩, rfl, rfl, rfl, ?_⟩
    exact run_expand_grouping hnode hcontext hscope hlist hcommon rfl rfl
      (Json.wellFormed_obj.1 hwellFormed).1.nodup_keys hmembers
  case right =>
    intro hname
    obtain ⟨context, choice, drawn, nested, hscope, hchosen, hmembers, rfl⟩ :=
      exists_choice_of_run hname hincrement hrun
    obtain ⟨moduli, condition, htaken⟩ := Counterbalance.chosen_of_run hchosen
    obtain ⟨members, hlist, rfl⟩ := htaken.members
    obtain ⟨common, hcommon⟩ := htaken.common
    have hvalid := Counterbalance.validTable_of_moduli hnode htaken.table
    have hkeys : condition.keys.Nodup := by
      obtain ⟨fields, hfields, hkeys, -⟩ := htaken.fits hvalid
      obtain rfl := Json.obj.inj hfields
      exact hkeys ▸ hvalid.sorted.nodup_keys
    refine ⟨condition, context, _, drawn, nested,
      ⟨hscope, _, _, Node.classify_of_sampler hname, hincrement, hchosen⟩, rfl, rfl, rfl, ?_⟩
    exact run_expand_grouping hnode hcontext hscope hlist hcommon rfl rfl hkeys hmembers

/-! A set that rebinds one of the node's own parameters, which in turn rebind an inherited one, and a
condition drawn without earlier sessions, which stands in the frame. -/

def paintNode : Fields :=
  [("frameList", .arr [.obj [("kind", .str "word"), ("room", .str "ROOM"), ("size", .str "SIZE"),
      ("text", .str "COLOR")]]),
    ("parameterSets", .arr [.obj [("COLOR", .str "red")], .obj [("COLOR", .str "blue")]]),
    ("parameters", .obj [("COLOR", .str "green"), ("SIZE", .str "small")]),
    ("sampler", .str "random-parameter-set")]

def paintContext : Fields := [("ROOM", .str "hall"), ("SIZE", .str "large")]

def paintExpansion : Expansion where
  frames := [[("kind", .str "word"), ("room", .str "hall"), ("size", .str "small"),
    ("text", .str "blue")]]
  conditions := [("paint", .obj
    [("conditionNum", .ofNat 1), ("parameterSet", .obj [("COLOR", .str "blue")])])]

def turnNode : Fields :=
  [("conditionModuli", .obj [("side", .int 2)]),
    ("frameList", .arr [.obj [("kind", .str "word"), ("side", .str "side")]]),
    ("parameters", .null), ("sampler", .str "increment-conditions")]

def turnExpansion : Expansion where
  frames := [[("kind", .str "word"), ("side", .ofNat 1)]]
  conditions := [("turn", .obj [("side", .ofNat 1)])]

theorem run_expand_paintNode :
    ((⟨.builtins, [], none⟩ : Resolver).expand "paint" paintNode paintContext).run (mixPass 1) =
      (.ok paintExpansion, mixPass 3) := by
  have hchooses : Resolver.Chooses ⟨.builtins, [], none⟩
      ⟨"paint", paintNode, paintContext, mixPass 1⟩
      [("COLOR", .str "green"), ("ROOM", .str "hall"), ("SIZE", .str "small")]
      (ParameterSet.choiceOf (Node.membersOf paintNode "frameList") 1 [("COLOR", .str "blue")])
      (mixPass 3) := by
    refine ⟨rfl, "random-parameter-set", .randomParameterSet, rfl, rfl, ?_⟩
    refine run_check_bind_eq_ok_iff.2 ⟨_, rfl, ?_⟩
    refine run_bind_eq_ok_iff.2 ⟨1, mixPass 3, ?_, ?_⟩
    · show ((Except.ok ((mixPass 1).generator.below 2 .word64).1,
        { mixPass 1 with generator := ((mixPass 1).generator.below 2 .word64).2 }) : _ × _) = _
      rw [below_mixPass]
      rfl
    · refine run_check_bind_eq_ok_iff.2 ⟨_, rfl, ?_⟩
      exact run_check_bind_eq_ok_iff.2 ⟨_, rfl, rfl⟩
  exact hchooses.run_expand (run_expandMembers_cons_eq_ok_iff.2
    ⟨⟨paintExpansion.frames, []⟩, mixPass 3, .empty,
      Expanded.run (v := ⟨_, _, _, _⟩) (.leaf rfl rfl), run_expandMembers_nil .., rfl⟩)

theorem run_expand_turnNode :
    ((⟨.builtins, [], none⟩ : Resolver).expand "turn" turnNode []).run (mixPass 1) =
      (.ok turnExpansion, mixPass 3) := by
  have hchooses : Resolver.Chooses ⟨.builtins, [], none⟩ ⟨"turn", turnNode, [], mixPass 1⟩ []
      (Counterbalance.choiceOf (Node.membersOf turnNode "frameList") [("side", .ofNat 1)])
      (mixPass 3) := by
    refine ⟨rfl, "increment-conditions", .incrementConditions, rfl, rfl, ?_⟩
    refine run_check_bind_eq_ok_iff.2 ⟨[("side", .scalar 2)], rfl, ?_⟩
    refine run_bind_eq_ok_iff.2 ⟨[("side", .ofNat 1)], mixPass 3, ?_, ?_⟩
    · show ((Except.ok [("side", Json.ofNat ((mixPass 1).generator.below 2 .word64).1)],
        { mixPass 1 with generator := ((mixPass 1).generator.below 2 .word64).2 }) : _ × _) = _
      rw [below_mixPass]
      rfl
    · refine run_check_bind_eq_ok_iff.2 ⟨_, rfl, ?_⟩
      exact run_check_bind_eq_ok_iff.2 ⟨_, rfl, rfl⟩
  exact hchooses.run_expand (run_expandMembers_cons_eq_ok_iff.2
    ⟨⟨turnExpansion.frames, []⟩, mixPass 3, .empty,
      Expanded.run (v := ⟨_, _, _, _⟩) (.leaf rfl rfl), run_expandMembers_nil .., rfl⟩)

theorem parameters_regroup_paint :
    (Json.obj paintNode).WellFormed ∧ paintContext.Sorted ∧
      ((⟨.builtins, [], none⟩ : Resolver).expand "paint" paintNode paintContext).run (mixPass 1) =
        (.ok paintExpansion, mixPass 3) ∧
      (∃ number parameters,
        (Node.membersOf paintNode "parameterSets")[number]? = some (.obj parameters) ∧
        (⟨.builtins, [], none⟩ : Resolver).Regroups ⟨"paint", paintNode, paintContext, mixPass 1⟩
          parameters (.obj [("conditionNum", .ofNat number), ("parameterSet", .obj parameters)])
          paintExpansion (mixPass 3)) ∧
      ∃ condition, (⟨.builtins, [], none⟩ : Resolver).Regroups ⟨"turn", turnNode, [], mixPass 1⟩
        condition (.obj condition) turnExpansion (mixPass 3) := by
  have hpaint : (Json.obj paintNode).WellFormed := by decide +kernel
  have hturn : (Json.obj turnNode).WellFormed := by decide +kernel
  have hcontext : paintContext.Sorted := by decide +kernel
  refine ⟨hpaint, hcontext, run_expand_paintNode, ?_, ?_⟩
  · exact (parameters_regroup (v := ⟨"paint", paintNode, paintContext, mixPass 1⟩) rfl rfl hpaint
      hcontext run_expand_paintNode).1 rfl
  · exact (parameters_regroup (v := ⟨"turn", turnNode, [], mixPass 1⟩) rfl rfl hturn
      List.Pairwise.nil run_expand_turnNode).2 rfl

end Resolver

end StudySession

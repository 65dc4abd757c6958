import Mathlib.Logic.Relation
import StudySession.Proofs.Json.WellFormed
import StudySession.Proofs.Study.Entries
import StudySession.Proofs.Study.Samplers

/-!
# Visits

What a sampler chooses is decided in the midst of expansion, in a run that may yet fail. A `Visit`
is a node that expansion has come to, and `Resolver.Enters` says which members it comes to from
there; `Resolver.Reaches` is any number of such steps. A visit anywhere below an entry of the
sequence belongs to the pass of that entry, and its node is well formed where the study is.

`Resolver.exists_visit_of_holds` is the converse: what an expansion holds comes from a visit. So what
it recorded was chosen at one (`Resolver.exists_visit_of_mem_conditions`).
-/

namespace StudySession

open Resolve

/-- The entry of the sequence that a pass belongs to. -/
def Pass.entry (pass : Pass) : Nat × Option String := (pass.sequenceIndex, pass.sequenceKey)

theorem Pass.entry_order (pass : Pass) (name : String) (items : List Json) :
    (pass.order name items).2.entry = pass.entry := by
  unfold Pass.order
  split <;> rfl

theorem Pass.entry_openCursor (pass : Pass) (name : String) (items : List Json) :
    (pass.openCursor name items).2.entry = pass.entry := by
  unfold Pass.openCursor
  split <;> rfl

theorem Pass.entry_takeNext (pass : Pass) (place : Nat) (items : List Json) :
    (pass.takeNext place items).2.entry = pass.entry := by
  unfold Pass.takeNext
  split <;> rfl

/-- No composed step leaves the entry of its pass. -/
theorem Resolve.Composed.entry_run {α : Type} {step : Resolve α} (h : Composed step) (pass : Pass) :
    (Resolve.run step pass).2.entry = pass.entry := by
  induction h generalizing pass with
  | answer a => rfl
  | refuse _ => rfl
  | bind _ _ ihFirst ihRest =>
      rw [run_bind]
      split
      · next a after hrun =>
          have hfirst := ihFirst pass
          rw [hrun] at hfirst
          rw [ihRest, hfirst]
      · next e after hrun =>
          have hfirst := ihFirst pass
          rwa [hrun] at hfirst
  | look _ _ ih =>
      rw [run_get_bind]
      exact ih pass pass
  | draw f => rfl
  | order name items =>
      rw [run_permutation]
      exact pass.entry_order name items
  | take name _ =>
      rw [run_nextUnique]
      dsimp only
      rw [Pass.entry_takeNext, Pass.entry_openCursor]
  | leave text =>
      unfold leaveOrRefuse
      rw [run_get_bind]
      cases pass.policy <;> rfl

theorem Resolve.Composed.entry_eq {α : Type} {step : Resolve α} (h : Composed step)
    {pass after : Pass} {outcome : Except StudyError α} (hrun : step.run pass = (outcome, after)) :
    after.entry = pass.entry := by
  rw [← h.entry_run pass, hrun]

/-- A node that expansion has come to. -/
structure Visit where
  /-- The node's key. -/
  key : String
  /-- The node, the common properties of its parent under its own. -/
  node : Fields
  /-- The parameters it inherits. -/
  context : Fields
  /-- The pass by then. -/
  pass : Pass

namespace Resolver

variable {r : Resolver}

/-- The sampler of a visited node makes a choice; `context` are the parameters in scope, and `after`
is the pass that the choice leaves. -/
structure Chooses (r : Resolver) (v : Visit) (context : Fields) (choice : Choice) (after : Pass) :
    Prop where
  /-- The parameters are those in scope. -/
  scope : Node.scope v.key v.node v.context = .ok context
  /-- The node names the sampler. -/
  made : ∃ name sampler, Node.classify v.key v.node = .ok (.sampler name) ∧
    r.registry.get? name = some sampler ∧
    (sampler.choose (r.request v.pass v.key v.node context)).run v.pass = (.ok choice, after)

/-- A visit is decided: there is one choice at most. -/
theorem Chooses.unique {v : Visit} {context context' : Fields} {choice choice' : Choice}
    {after after' : Pass} (h : r.Chooses v context choice after)
    (h' : r.Chooses v context' choice' after') : choice = choice' ∧ after = after' := by
  obtain rfl := Except.ok.inj (h.scope.symm.trans h'.scope)
  obtain ⟨name, sampler, hkind, hfound, hrun⟩ := h.made
  obtain ⟨name', sampler', hkind', hfound', hrun'⟩ := h'.made
  obtain rfl := Node.Kind.sampler.inj (Except.ok.inj (hkind.symm.trans hkind'))
  obtain rfl := Option.some.inj (hfound.symm.trans hfound')
  obtain ⟨hchoice, rfl⟩ := Prod.mk.inj (hrun.symm.trans hrun')
  exact ⟨Except.ok.inj hchoice, rfl⟩

/-- Members in order, entered one by one as long as those before them expand. -/
inductive EntersMember (r : Resolver) (parent : String) (common : Option Fields)
    (context : Fields) : List (Json × Nat) → Pass → Visit → Prop where
  | here {own : Fields} {index : Nat} {rest : List (Json × Nat)} {pass : Pass} :
      EntersMember r parent common context ((.obj own, index) :: rest) pass
        ⟨Node.memberKey parent index (Node.underlay common own), Node.underlay common own,
          context, pass⟩
  | later {own : Fields} {index : Nat} {rest : List (Json × Nat)} {pass between : Pass}
      {first : Expansion} {v : Visit}
      (expanded : (r.expand (Node.memberKey parent index (Node.underlay common own))
        (Node.underlay common own) context).run pass = (.ok first, between))
      (others : EntersMember r parent common context rest between v) :
      EntersMember r parent common context ((.obj own, index) :: rest) pass v

/-- From a visited node, expansion comes to a member of it. -/
inductive Enters (r : Resolver) (v : Visit) : Visit → Prop where
  | group {context : Fields} {items : Option (List Json)} {common : Option Fields} {w : Visit}
      (kind : Node.classify v.key v.node = .ok .group)
      (scope : Node.scope v.key v.node v.context = .ok context)
      (list : Node.listProperty v.key v.node "frameList" = .ok items)
      (properties : Node.commonProperties v.key v.node = .ok common)
      (member : r.EntersMember v.key (Node.commonOf v.node) context
        (Node.membersOf v.node "frameList").zipIdx v.pass w) :
      Enters r v w
  | sampler {context : Fields} {choice : Choice} {after : Pass} {w : Visit}
      (chosen : r.Chooses v context choice after)
      (member : r.EntersMember v.key (Node.commonOf v.node) (context.mergeOver choice.parameters)
        (choice.members v.node) after w) :
      Enters r v w

/-- From one visit, expansion comes to another. -/
abbrev Reaches (r : Resolver) : Visit → Visit → Prop := Relation.ReflTransGen r.Enters

/-! ## What holds at every visit -/

theorem EntersMember.entry_pass (h : r.registry.IsComposed) {parent : String}
    {common : Option Fields} {context : Fields} {members : List (Json × Nat)} {pass : Pass}
    {v : Visit} (hv : r.EntersMember parent common context members pass v) :
    v.pass.entry = pass.entry := by
  induction hv with
  | here => rfl
  | later expanded _ ih =>
      rw [ih, ((composed_expand_and_members h).1 _ _ _).entry_eq expanded]

theorem Enters.entry_pass (h : r.registry.IsComposed) {v w : Visit} (hw : r.Enters v w) :
    w.pass.entry = v.pass.entry := by
  cases hw with
  | group _ _ _ _ member => exact member.entry_pass h
  | sampler chosen member =>
      obtain ⟨name, sampler, -, found, hrun⟩ := chosen.made
      rw [member.entry_pass h, (h name sampler found _).entry_eq hrun]

/-- Every visit below another belongs to the same entry. -/
theorem Reaches.entry_pass (h : r.registry.IsComposed) {v w : Visit} (hw : r.Reaches v w) :
    w.pass.entry = v.pass.entry := by
  induction hw with
  | refl => rfl
  | tail _ step ih => rw [step.entry_pass h, ih]

theorem EntersMember.wellFormed_node {node : Fields} (hnode : (Json.obj node).WellFormed)
    {parent : String} {context : Fields} {members : List (Json × Nat)} {pass : Pass} {v : Visit}
    (hv : r.EntersMember parent (Node.commonOf node) context members pass v)
    (hmembers : ∀ member ∈ members, member.1.WellFormed) : (Json.obj v.node).WellFormed := by
  induction hv with
  | here => exact Node.wellFormed_underlay hnode (hmembers _ List.mem_cons_self)
  | later _ _ ih => exact ih fun member hmem => hmembers member (List.mem_cons_of_mem _ hmem)

theorem Enters.wellFormed_node {v w : Visit} (hv : (Json.obj v.node).WellFormed)
    (hw : r.Enters v w) : (Json.obj w.node).WellFormed := by
  cases hw with
  | group _ _ _ _ member =>
      refine member.wellFormed_node hv fun item hitem => ?_
      exact Node.wellFormed_of_mem_membersOf hv (List.fst_mem_of_mem_zipIdx hitem)
  | sampler chosen member =>
      refine member.wellFormed_node hv fun item hitem => ?_
      exact Node.wellFormed_of_mem_membersOf hv
        (Choice.mem_membersOf _ (List.mem_map_of_mem hitem))

/-- Every node below a well-formed one is well formed. -/
theorem Reaches.wellFormed_node {v w : Visit} (hv : (Json.obj v.node).WellFormed)
    (hw : r.Reaches v w) : (Json.obj w.node).WellFormed := by
  induction hw with
  | refl => exact hv
  | tail _ step ih => exact step.wellFormed_node ih

/-! ## What an expansion recorded -/

/-- How a visited node came to its expansion. -/
inductive Expanded (r : Resolver) (v : Visit) (e : Expansion) (after : Pass) : Prop where
  | leaf (kind : Node.classify v.key v.node = .ok .leaf)
      (run : (expandLeaf v.key v.node v.context).run v.pass = (.ok e, after))
  | group {context : Fields} {items : Option (List Json)} {common : Option Fields}
      (kind : Node.classify v.key v.node = .ok .group)
      (scope : Node.scope v.key v.node v.context = .ok context)
      (list : Node.listProperty v.key v.node "frameList" = .ok items)
      (properties : Node.commonProperties v.key v.node = .ok common)
      (run : (r.expandMembers v.key (Node.membersOf v.node "frameList").zipIdx
        (Node.commonOf v.node) context).run v.pass = (.ok e, after))
  | sampler {context : Fields} {choice : Choice} {between : Pass} {chosen : Expansion}
      (made : r.Chooses v context choice between)
      (run : (r.expandMembers v.key (choice.members v.node) (Node.commonOf v.node)
        (context.mergeOver choice.parameters)).run between = (.ok chosen, after))
      (record : e = ⟨chosen.frames, chosen.conditions.insert v.key choice.condition⟩)

theorem expanded_of_run {v : Visit} {e : Expansion} {after : Pass}
    (h : (r.expand v.key v.node v.context).run v.pass = (.ok e, after)) : r.Expanded v e after := by
  rw [expand] at h
  obtain ⟨kind, hkind, h⟩ := run_check_bind_eq_ok_iff.1 h
  cases kind with
  | leaf => exact .leaf hkind h
  | group =>
      obtain ⟨context, hscope, h⟩ := run_check_bind_eq_ok_iff.1 h
      obtain ⟨items, hitems, h⟩ := run_check_bind_eq_ok_iff.1 h
      obtain ⟨common, hcommon, h⟩ := run_check_bind_eq_ok_iff.1 h
      exact .group hkind hscope hitems hcommon h
  | sampler name =>
      dsimp only at h
      split at h
      · simp at h
      · next sampler found =>
          obtain ⟨context, hscope, h⟩ := run_check_bind_eq_ok_iff.1 h
          rw [run_get_bind] at h
          obtain ⟨choice, between, hchoice, h⟩ := run_bind_eq_ok_iff.1 h
          obtain ⟨chosen, p, hchosen, h⟩ := run_bind_eq_ok_iff.1 h
          obtain ⟨he, rfl⟩ := Prod.mk.inj h
          exact .sampler ⟨hscope, name, sampler, hkind, found, hchoice⟩ hchosen
            (Except.ok.inj he).symm

theorem Expanded.run {v : Visit} {e : Expansion} {after : Pass} (h : r.Expanded v e after) :
    (r.expand v.key v.node v.context).run v.pass = (.ok e, after) := by
  rw [expand]
  cases h with
  | leaf kind run => exact run_check_bind_eq_ok_iff.2 ⟨_, kind, run⟩
  | group kind scope list properties run =>
      refine run_check_bind_eq_ok_iff.2 ⟨_, kind, ?_⟩
      refine run_check_bind_eq_ok_iff.2 ⟨_, scope, ?_⟩
      refine run_check_bind_eq_ok_iff.2 ⟨_, list, ?_⟩
      exact run_check_bind_eq_ok_iff.2 ⟨_, properties, run⟩
  | sampler made run record =>
      obtain ⟨name, sampler, kind, found, hchoice⟩ := made.made
      refine run_check_bind_eq_ok_iff.2 ⟨_, kind, ?_⟩
      dsimp only
      rw [found]
      refine run_check_bind_eq_ok_iff.2 ⟨_, made.scope, ?_⟩
      rw [run_get_bind]
      refine run_bind_eq_ok_iff.2 ⟨_, _, hchoice, ?_⟩
      refine run_bind_eq_ok_iff.2 ⟨_, _, run, ?_⟩
      rw [record]
      rfl

/-- A visited node expands exactly in these ways. -/
theorem run_expand_eq_ok_iff {v : Visit} {e : Expansion} {after : Pass} :
    (r.expand v.key v.node v.context).run v.pass = (.ok e, after) ↔ r.Expanded v e after :=
  ⟨expanded_of_run, Expanded.run⟩

@[simp] theorem run_expandMembers_nil (parent : String) (common : Option Fields)
    (context : Fields) (pass : Pass) :
    (r.expandMembers parent [] common context).run pass = (.ok .empty, pass) := by
  rw [expandMembers]
  rfl

theorem run_expandMembers_cons_eq_ok_iff {parent : String} {own : Fields} {index : Nat}
    {rest : List (Json × Nat)} {common : Option Fields} {context : Fields} {pass after : Pass}
    {e : Expansion} :
    (r.expandMembers parent ((.obj own, index) :: rest) common context).run pass = (.ok e, after) ↔
      ∃ first between others,
        (r.expand (Node.memberKey parent index (Node.underlay common own))
          (Node.underlay common own) context).run pass = (.ok first, between) ∧
        (r.expandMembers parent rest common context).run between = (.ok others, after) ∧
        e = first.append others := by
  rw [expandMembers]
  constructor
  · intro h
    obtain ⟨first, between, hfirst, h⟩ := run_bind_eq_ok_iff.1 h
    obtain ⟨others, after', hothers, h⟩ := run_bind_eq_ok_iff.1 h
    obtain ⟨he, rfl⟩ := Prod.mk.inj h
    exact ⟨first, between, others, hfirst, hothers, (Except.ok.inj he).symm⟩
  · rintro ⟨first, between, others, hfirst, hothers, rfl⟩
    refine run_bind_eq_ok_iff.2 ⟨first, between, hfirst, ?_⟩
    exact run_bind_eq_ok_iff.2 ⟨others, after, hothers, rfl⟩

/-- A condition was chosen at a visit of a node of its key. -/
def Chose (r : Resolver) (v : Visit) (entry : String × Json) : Prop :=
  ∃ context choice after, r.Chooses v context choice after ∧ (v.key, choice.condition) = entry

theorem conditions_expandLeaf {key : String} {node context : Fields} {pass after : Pass}
    {e : Expansion} (h : (expandLeaf key node context).run pass = (.ok e, after)) :
    e.conditions = [] := by
  obtain ⟨_, _, _, h⟩ := run_bind_eq_ok_iff.1 h
  obtain ⟨_, _, _, h⟩ := run_bind_eq_ok_iff.1 h
  obtain rfl := Except.ok.inj (Prod.mk.inj h).1
  rfl

section Origins

variable {α : Type} {holds : Expansion → α → Prop} {origin : Visit → α → Prop}

/-- What an expansion holds, or that of some members, comes from a visit below: the expansions of
members bring no more than each of them, so it was there at a leaf or a sampler brought it. -/
theorem exists_visit_of_holds (hempty : ∀ a, ¬ holds .empty a)
    (happend : ∀ e e' a, holds (e.append e') a → holds e a ∨ holds e' a)
    (hleaf : ∀ v e after, (expandLeaf v.key v.node v.context).run v.pass = (.ok e, after) →
      ∀ a, holds e a → origin v a)
    (hsampler : ∀ v context choice after chosen, r.Chooses v context choice after →
      ∀ a, holds ⟨chosen.frames, chosen.conditions.insert v.key choice.condition⟩ a →
        origin v a ∨ holds chosen a) :
    (∀ key node context pass e after, (r.expand key node context).run pass = (.ok e, after) →
        ∀ a, holds e a → ∃ v, r.Reaches ⟨key, node, context, pass⟩ v ∧ origin v a) ∧
      ∀ parent members common context pass e after,
        (r.expandMembers parent members common context).run pass = (.ok e, after) →
        ∀ a, holds e a → ∃ w, r.EntersMember parent common context members pass w ∧
          ∃ v, r.Reaches w v ∧ origin v a := by
  apply expand.mutual_induct
  case case1 =>
    intro key node context ihGroup ihSampler pass e after h a ha
    cases expanded_of_run (v := ⟨key, node, context, pass⟩) h with
    | leaf _ run => exact ⟨_, .refl, hleaf _ _ _ run a ha⟩
    | group kind scope list properties run =>
        obtain ⟨w, hw, v, hv, horigin⟩ := ihGroup _ _ _ _ run a ha
        exact ⟨v, .head (.group kind scope list properties hw) hv, horigin⟩
    | sampler made run record =>
        subst record
        rcases hsampler _ _ _ _ _ made a ha with horigin | ha
        · exact ⟨_, .refl, horigin⟩
        · obtain ⟨w, hw, v, hv, horigin⟩ := ihSampler _ _ _ _ _ run a ha
          exact ⟨v, .head (.sampler made hw) hv, horigin⟩
  case case2 =>
    intro parent common context pass e after h a ha
    rw [run_expandMembers_nil] at h
    obtain rfl := Except.ok.inj (Prod.mk.inj h).1
    exact absurd ha (hempty a)
  case case3 =>
    intro parent common context own index rest member ihFirst ihRest pass e after h a ha
    obtain ⟨first, between, others, hfirst, hothers, rfl⟩ := run_expandMembers_cons_eq_ok_iff.1 h
    rcases happend _ _ a ha with ha | ha
    · obtain ⟨v, hv, horigin⟩ := ihFirst _ _ _ hfirst a ha
      exact ⟨_, .here, v, hv, horigin⟩
    · obtain ⟨w, hw, v, hv, horigin⟩ := ihRest _ _ _ hothers a ha
      exact ⟨w, .later hfirst hw, v, hv, horigin⟩
  case case4 =>
    intro parent common context member index rest hmember pass e after h
    rw [expandMembers] at h
    · simp at h
    · exact hmember

end Origins

/-- What an expansion recorded, or that of some members, was chosen at a visit below. -/
theorem exists_visit_of_mem_conditions :
    (∀ key node context pass e after, (r.expand key node context).run pass = (.ok e, after) →
        ∀ entry ∈ e.conditions, ∃ v, r.Reaches ⟨key, node, context, pass⟩ v ∧ r.Chose v entry) ∧
      ∀ parent members common context pass e after,
        (r.expandMembers parent members common context).run pass = (.ok e, after) →
        ∀ entry ∈ e.conditions, ∃ w, r.EntersMember parent common context members pass w ∧
          ∃ v, r.Reaches w v ∧ r.Chose v entry := by
  refine exists_visit_of_holds ?_ ?_ ?_ ?_
  · intro entry hentry
    simp [Expansion.empty] at hentry
  · intro e e' entry hentry
    exact Dict.mem_mergeOver hentry
  · intro v e after run entry hentry
    rw [conditions_expandLeaf run] at hentry
    simp at hentry
  · intro v context choice after chosen made entry hentry
    -- the sampler's own entry, or one of a member it picked
    rcases Dict.mem_insert hentry with rfl | hentry
    · exact .inl ⟨_, _, _, made, rfl⟩
    · exact .inr hentry

end Resolver

/-! ## Visits of a study -/

namespace Study

theorem expandEntry_eq_ok_iff {study : Study} {index : Nat} {key : String} {g g' : Generator}
    {e : Expansion} :
    study.expandEntry index key g = (.ok e, g') ↔
      ∃ node after, study.protocol.frames.get? key = some (.obj node) ∧
        (study.resolver.expand key node []).run (.start index (some key) study.policy g) =
          (.ok e, after) ∧ after.generator = g' := by
  unfold expandEntry
  constructor
  · intro h
    split at h
    · simp at h
    · next value found =>
        cases value with
        | obj node =>
            obtain ⟨houtcome, rfl⟩ := Prod.mk.inj h
            exact ⟨node, _, found, Prod.ext houtcome rfl, rfl⟩
        | _ => simp [Resolver.expandValue] at h
  · rintro ⟨node, after, found, hrun, rfl⟩
    rw [found]
    dsimp only [Resolver.expandValue]
    rw [hrun]

/-- Resolving a study comes to a visit below the entry at a place of the sequence, once the entries
before it have expanded. -/
inductive Visits (study : Study) (g : Generator) (index : Nat) (v : Visit) : Prop where
  | below {key : String} {node : Fields} {before : List Expansion} {g₁ : Generator}
      (key_eq : study.protocol.sequence[index]? = some key)
      (found : study.protocol.frames.get? key = some (.obj node))
      (expanded : study.Expands 0 (study.protocol.sequence.take index) g before g₁)
      (reaches : study.resolver.Reaches
        ⟨key, node, [], .start index (some key) study.policy g₁⟩ v)

variable {study : Study} {g : Generator} {index : Nat} {v : Visit}

/-- The pass of a visit belongs to the entry that the visit is below. -/
theorem Visits.entry_pass (h : study.Visits g index v)
    (hcomposed : study.resolver.registry.IsComposed) :
    ∃ key, study.protocol.sequence[index]? = some key ∧ v.pass.entry = (index, some key) := by
  obtain ⟨key_eq, -, -, reaches⟩ := h
  exact ⟨_, key_eq, reaches.entry_pass hcomposed⟩

theorem Visits.wellFormed_node (h : study.Visits g index v) (hwf : study.protocol.WellFormed) :
    (Json.obj v.node).WellFormed := by
  obtain ⟨-, found, -, reaches⟩ := h
  exact reaches.wellFormed_node (Json.WellFormed.get? hwf found)

end Study

end StudySession

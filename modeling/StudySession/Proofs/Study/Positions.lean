import StudySession.Proofs.Study.Conditions
import StudySession.Proofs.Study.ParameterSets

/-!
# The samplers of a node

`Node.samplersOf` lists the sampler nodes at and below a node, each with its key, whatever is chosen
in a session. Expansion comes to no other sampler (`Resolver.Reaches.samplersOf_subset`), so where the
keys of the list are distinct, a key says which node recorded under it.

What a sampler that was come to chose is in the log of its entry (`Resolver.Reaches.mem_log`). So
the conditions of a resolved study tell, under the key of a sampler and the place of an entry, what
was chosen at a visit (`Study.exists_visit_of_get?`), and tell something where there was a visit
(`Study.isSome_get?_of_visits`).
-/

namespace StudySession

open Resolve

namespace Node

/-- The list property from which a built-in sampler of a name chooses. -/
def choiceProperty? (name : String) (node : Fields) : Option String :=
  match name with
  | "permute" | "random" | "select" =>
    some (if node.has "frameOptions" then "frameOptions" else "frameList")
  | "increment-conditions" | "random-parameter-set" => some "frameList"
  | _ => none

mutual

/-- The sampler nodes at and below a node, each with its key. -/
def samplersOf (key : String) (node : Fields) : List (String × Fields) :=
  match classify key node with
  | .ok .group => samplersAmong key (membersOf node "frameList").zipIdx (commonOf node)
  | .ok (.sampler name) =>
    match choiceProperty? name node with
    | some property =>
      (key, node) :: samplersAmong key (membersOf node property).zipIdx (commonOf node)
    | none => []
  | _ => []
termination_by (Json.depthFields node, 1, 0)
decreasing_by
  · exact Resolver.lex_of_le_of_lt (memberDepth_le fun member h => by simpa using h)
      (.left _ _ Nat.zero_lt_one)
  · exact Resolver.lex_of_le_of_lt (memberDepth_le fun member h => by simpa using h)
      (.left _ _ Nat.zero_lt_one)

/-- The sampler nodes at and below some members, each with the common properties under its own. -/
def samplersAmong (parent : String) (members : List (Json × Nat)) (common : Option Fields) :
    List (String × Fields) :=
  match members with
  | [] => []
  | (.obj own, index) :: rest =>
    samplersOf (memberKey parent index (underlay common own)) (underlay common own) ++
      samplersAmong parent rest common
  | _ :: rest => samplersAmong parent rest common
termination_by (memberDepth (members.map (·.1)) common, 0, members.length)
decreasing_by
  · exact .left _ _ depthFields_underlay_lt
  · exact Resolver.lex_of_le_of_lt (memberDepth_tail_le _ _ _) (.right _ (by simp))
  · exact Resolver.lex_of_le_of_lt (memberDepth_tail_le _ _ _) (.right _ (by simp))

end

/-- Each member's samplers are among those of the members. -/
theorem samplersOf_subset_samplersAmong {parent : String} {common : Option Fields} {own : Fields}
    {index : Nat} {members : List (Json × Nat)} (h : (.obj own, index) ∈ members) :
    samplersOf (memberKey parent index (underlay common own)) (underlay common own) ⊆
      samplersAmong parent members common := by
  induction members with
  | nil => cases h
  | cons first rest ih =>
      rcases List.mem_cons.1 h with rfl | h
      · rw [samplersAmong]
        exact List.subset_append_left _ _
      · have hrest : samplersAmong parent rest common ⊆
            samplersAmong parent (first :: rest) common := by
          obtain ⟨member, place⟩ := first
          cases member with
          | obj fields =>
              rw [samplersAmong]
              exact List.subset_append_right _ _
          | _ => simp [samplersAmong]
        exact List.Subset.trans (ih h) hrest

end Node

/-- The property that a built-in sampler chooses from is settled by its name and the node. -/
theorem Sampler.property_of_run {name : String} {sampler : Sampler} {request : Request}
    {pass after : Pass} {choice : Choice} (hfound : Registry.builtins.get? name = some sampler)
    (hrun : (sampler.choose request).run pass = (.ok choice, after)) :
    Node.choiceProperty? name request.node = some choice.property := by
  have hmem := Dict.mem_of_get?_eq_some hfound
  simp only [Registry.builtins_eq, List.mem_cons, Prod.mk.injEq, List.not_mem_nil, or_false]
    at hmem
  obtain ⟨rfl, rfl⟩ | ⟨rfl, rfl⟩ | ⟨rfl, rfl⟩ | ⟨rfl, rfl⟩ | ⟨rfl, rfl⟩ := hmem
  · obtain ⟨moduli, condition, hchosen⟩ := Counterbalance.chosen_of_run hrun
    obtain ⟨members, -, rfl⟩ := hchosen.members
    rfl
  · obtain ⟨options, -, hrun⟩ := run_check_bind_eq_ok_iff.1 hrun
    obtain ⟨common, -, hrun⟩ := run_check_bind_eq_ok_iff.1 hrun
    obtain ⟨order, between, -, hrun⟩ := run_bind_eq_ok_iff.1 hrun
    obtain rfl := Except.ok.inj (Prod.mk.inj hrun).1
    rfl
  · obtain ⟨options, -, hrun⟩ := run_check_bind_eq_ok_iff.1 hrun
    obtain ⟨common, -, hrun⟩ := run_check_bind_eq_ok_iff.1 hrun
    obtain ⟨place, between, -, hrun⟩ := run_bind_eq_ok_iff.1 hrun
    obtain rfl := Except.ok.inj (Prod.mk.inj hrun).1
    rfl
  · obtain ⟨number, parameters, hchosen⟩ := ParameterSet.chosen_of_run hrun
    obtain ⟨members, -, rfl⟩ := hchosen.choice_eq
    rfl
  · obtain ⟨options, -, hrun⟩ := run_check_bind_eq_ok_iff.1 hrun
    obtain ⟨common, -, hrun⟩ := run_check_bind_eq_ok_iff.1 hrun
    split at hrun
    · cases hrun
    · obtain ⟨which, between, -, hrun⟩ := run_bind_eq_ok_iff.1 hrun
      obtain ⟨picks, -, hrun⟩ := run_check_bind_eq_ok_iff.1 hrun
      obtain rfl := Except.ok.inj (Prod.mk.inj hrun).1
      rfl

/-- The members that a choice picks are members of the list it picks from. -/
theorem Choice.members_subset (choice : Choice) (node : Fields) :
    choice.members node ⊆ (Node.membersOf node choice.property).zipIdx := by
  intro member hmem
  obtain ⟨i, -, hi⟩ := List.mem_filterMap.1 hmem
  obtain ⟨item, hitem, rfl⟩ := Option.map_eq_some_iff.1 hi
  exact List.mem_zipIdx_iff_getElem?.2 hitem

namespace Resolver

variable {r : Resolver} {v w : Visit} {context : Fields} {choice : Choice} {after : Pass}

/-! ## Visits and positions -/

theorem EntersMember.exists_mem {parent : String} {common : Option Fields}
    {members : List (Json × Nat)} {pass : Pass}
    (h : r.EntersMember parent common context members pass w) :
    ∃ own index, (.obj own, index) ∈ members ∧
      w.key = Node.memberKey parent index (Node.underlay common own) ∧
      w.node = Node.underlay common own := by
  induction h with
  | @here own index rest pass => exact ⟨own, index, List.mem_cons_self, rfl, rfl⟩
  | later expanded others ih =>
      obtain ⟨own, index, hmem, hkey, hnode⟩ := ih
      exact ⟨own, index, List.mem_cons_of_mem _ hmem, hkey, hnode⟩

/-- A member that is come to has its samplers among those of the members. -/
theorem EntersMember.samplersOf_subset {parent : String} {common : Option Fields}
    {members all : List (Json × Nat)} {pass : Pass}
    (h : r.EntersMember parent common context members pass w) (hsubset : members ⊆ all) :
    Node.samplersOf w.key w.node ⊆ Node.samplersAmong parent all common := by
  obtain ⟨own, index, hmem, hkey, hnode⟩ := h.exists_mem
  rw [hkey, hnode]
  exact Node.samplersOf_subset_samplersAmong (hsubset hmem)

/-- A sampler that chooses is one of the samplers of its node, and so are those of the members it
chooses from. -/
theorem Chooses.samplersOf_eq (hbuiltins : r.registry = .builtins)
    (h : r.Chooses v context choice after) :
    Node.samplersOf v.key v.node = (v.key, v.node) ::
      Node.samplersAmong v.key (Node.membersOf v.node choice.property).zipIdx
        (Node.commonOf v.node) := by
  obtain ⟨name, sampler, hkind, hfound, hrun⟩ := h.made
  rw [hbuiltins] at hfound
  have hproperty := Sampler.property_of_run hfound hrun
  rw [Node.samplersOf, hkind]
  dsimp only
  rw [show Node.choiceProperty? name v.node = some choice.property from hproperty]

theorem Enters.samplersOf_subset (hbuiltins : r.registry = .builtins) (h : r.Enters v w) :
    Node.samplersOf w.key w.node ⊆ Node.samplersOf v.key v.node := by
  cases h with
  | group kind scope list properties member =>
      rw [Node.samplersOf.eq_def v.key, kind]
      exact member.samplersOf_subset (List.Subset.refl _)
  | @sampler context choice after _ chosen member =>
      rw [chosen.samplersOf_eq hbuiltins]
      exact List.Subset.trans (member.samplersOf_subset (choice.members_subset v.node))
        (List.subset_cons_self _ _)

theorem Reaches.samplersOf_subset (hbuiltins : r.registry = .builtins) (h : r.Reaches v w) :
    Node.samplersOf w.key w.node ⊆ Node.samplersOf v.key v.node := by
  induction h with
  | refl => exact List.Subset.refl _
  | tail _ step ih => exact List.Subset.trans (step.samplersOf_subset hbuiltins) ih

theorem Chooses.mem_samplersOf (hbuiltins : r.registry = .builtins)
    (h : r.Chooses v context choice after) : (v.key, v.node) ∈ Node.samplersOf v.key v.node := by
  rw [h.samplersOf_eq hbuiltins]
  exact List.mem_cons_self

/-! ## Visits and logs -/

/-- A visited node expands, and its samplers leave some of what a log holds. -/
def Logs (r : Resolver) (w : Visit) (log : List (String × Json)) : Prop :=
  ∃ own after, r.Invokes (.node w.key w.node w.context) w.pass own after ∧ own ⊆ log

theorem Logs.mono {log log' : List (String × Json)} (h : r.Logs w log) (hsubset : log ⊆ log') :
    r.Logs w log' := by
  obtain ⟨own, after, hinvokes, hown⟩ := h
  exact ⟨own, after, hinvokes, List.Subset.trans hown hsubset⟩

theorem EntersMember.logs {parent : String} {common : Option Fields}
    {members : List (Json × Nat)} {pass : Pass} {log : List (String × Json)}
    (h : r.EntersMember parent common context members pass w)
    (hinvokes : r.Invokes (.members parent members common context) pass log after) :
    r.Logs w log := by
  induction h generalizing log after with
  | here =>
      cases hinvokes with
      | cons first others => exact ⟨_, _, first, List.subset_append_left _ _⟩
  | later expanded others ih =>
      cases hinvokes with
      | cons first rest =>
          -- the member before expands in one way only
          obtain ⟨own, hown, -⟩ := exists_invokes.1 _ _ _ _ _ _ expanded
          obtain ⟨rfl, rfl⟩ := first.unique hown
          exact (ih rest).mono (List.subset_append_right _ _)

theorem Enters.logs {log : List (String × Json)} (h : r.Enters v w) (hlogs : r.Logs v log) :
    r.Logs w log := by
  obtain ⟨own, after, hinvokes, hown⟩ := hlogs
  refine Logs.mono ?_ hown
  cases h with
  | group kind scope list properties member =>
      cases hinvokes with
      | leaf kind' => rw [kind] at kind'; cases kind'
      | group kind' scope' members =>
          obtain rfl := Except.ok.inj (scope.symm.trans scope')
          exact member.logs members
      | sampler chosen members =>
          obtain ⟨name, sampler, kind', -⟩ := chosen.made
          rw [kind] at kind'
          cases kind'
  | sampler chosen member =>
      obtain ⟨name, sampler, kind, -⟩ := chosen.made
      cases hinvokes with
      | leaf kind' => rw [kind] at kind'; cases kind'
      | group kind' => rw [kind] at kind'; cases kind'
      | sampler chosen' members =>
          obtain ⟨rfl, rfl⟩ := chosen.unique chosen'
          obtain rfl := Except.ok.inj (chosen.scope.symm.trans chosen'.scope)
          exact (member.logs members).mono (List.subset_append_left _ _)

theorem Reaches.logs {log : List (String × Json)} (h : r.Reaches v w) (hlogs : r.Logs v log) :
    r.Logs w log := by
  induction h with
  | refl => exact hlogs
  | tail _ step ih => exact step.logs ih

/-- What a sampler that is come to chooses is recorded. -/
theorem Reaches.mem_log {log : List (String × Json)} {last : Pass} (h : r.Reaches v w)
    (hinvokes : r.Invokes (.node v.key v.node v.context) v.pass log last)
    (hchooses : r.Chooses w context choice after) : (w.key, choice.condition) ∈ log := by
  obtain ⟨own, last', hown, hsubset⟩ := h.logs ⟨log, last, hinvokes, List.Subset.refl _⟩
  obtain ⟨name, sampler, kind, -⟩ := hchooses.made
  cases hown with
  | leaf kind' => rw [kind] at kind'; cases kind'
  | group kind' => rw [kind] at kind'; cases kind'
  | sampler chosen members =>
      obtain ⟨rfl, rfl⟩ := hchooses.unique chosen
      exact hsubset (List.mem_append_right _ (List.mem_singleton.2 rfl))

end Resolver

/-! ## Visits and the conditions of a study -/

namespace Study

variable {study : Study} {g g' g'' : Generator} {r : Resolution} {index : Nat}

theorem Expands.unique {keys : List String} {es es' : List Expansion}
    (h : study.Expands index keys g es g') (h' : study.Expands index keys g es' g'') :
    es = es' ∧ g' = g'' := by
  induction h generalizing es' g'' with
  | nil =>
      cases h'
      exact ⟨rfl, rfl⟩
  | cons first rest ih =>
      cases h' with
      | cons first' rest' =>
          obtain ⟨he, rfl⟩ := Prod.mk.inj (first.symm.trans first')
          obtain rfl := Except.ok.inj he
          obtain ⟨rfl, rfl⟩ := ih rest'
          exact ⟨rfl, rfl⟩

/-- An entry of a resolved study expands after those before it, and its conditions are recorded
under its place. -/
theorem exists_expandEntry (h : study.resolve g = (.ok r, g')) {key : String}
    (hkey : study.protocol.sequence[index]? = some key) :
    ∃ before g₁ e g₂, study.Expands 0 (study.protocol.sequence.take index) g before g₁ ∧
      study.expandEntry index key g₁ = (.ok e, g₂) ∧
      ∀ k, r.conditions.get? (conditionKey index k) = e.conditions.get? k := by
  obtain ⟨es, hexpands, hrecorded, -⟩ := conditions_read_back h
  obtain ⟨hlt, hget⟩ := List.getElem?_eq_some_iff.1 hkey
  have hsequence : study.protocol.sequence =
      study.protocol.sequence.take index ++ key :: study.protocol.sequence.drop (index + 1) := by
    rw [← hget, ← List.drop_eq_getElem_cons hlt, List.take_append_drop]
  have hlength : (study.protocol.sequence.take index).length = index :=
    List.length_take_of_le hlt.le
  rw [hsequence] at hexpands
  obtain ⟨before, rest, g₁, rfl, hbefore, hrest⟩ := hexpands.split
  rw [hlength, Nat.zero_add] at hrest
  cases hrest with
  | @cons _ _ _ e _ _ g₂ _ first _ =>
      refine ⟨before, g₁, e, g₂, hbefore, first, fun k => ?_⟩
      have hplace : before.length = index := hbefore.length_eq.trans hlength
      rw [hrecorded.get?_eq, conditionAt, List.getElem?_append_right hplace.le, hplace,
        Nat.sub_self]
      rfl

/-- What is recorded of a sampler was chosen at a visit of a node of its key. -/
theorem exists_visit_of_get? (h : study.resolve g = (.ok r, g')) {k : String} {condition : Json}
    (hget : r.conditions.get? (conditionKey index k) = some condition) :
    ∃ v context choice after, study.Visits g index v ∧ v.key = k ∧
      study.resolver.Chooses v context choice after ∧ choice.condition = condition := by
  obtain ⟨key, hkey⟩ : ∃ key, study.protocol.sequence[index]? = some key := by
    obtain ⟨es, hexpands, hrecorded, -⟩ := conditions_read_back h
    rw [hrecorded.get?_eq] at hget
    obtain ⟨e, he, -⟩ := Option.bind_eq_some_iff.1 hget
    have hlt := (List.getElem?_eq_some_iff.1 he).1
    rw [hexpands.length_eq] at hlt
    exact ⟨_, List.getElem?_eq_getElem hlt⟩
  obtain ⟨before, g₁, e, g₂, hbefore, hentry, hconditions⟩ := exists_expandEntry h hkey
  obtain ⟨node, last, found, hrun, -⟩ := expandEntry_eq_ok_iff.1 hentry
  rw [hconditions] at hget
  obtain ⟨v, hreaches, context, choice, after, hchooses, heq⟩ :=
    Resolver.exists_visit_of_mem_conditions.1 _ _ _ _ _ _ hrun _ (Dict.mem_of_get?_eq_some hget)
  obtain ⟨hk, hcondition⟩ := Prod.mk.inj heq
  exact ⟨v, context, choice, after, .below hkey found hbefore hreaches, hk, hchooses, hcondition⟩

/-- Something is recorded of a sampler that was come to. -/
theorem isSome_get?_of_visits (h : study.resolve g = (.ok r, g')) {v : Visit} {context : Fields}
    {choice : Choice} {after : Pass} (hv : study.Visits g index v)
    (hchooses : study.resolver.Chooses v context choice after) :
    (r.conditions.get? (conditionKey index v.key)).isSome = true := by
  obtain ⟨hkey, found, hbefore, hreaches⟩ := hv
  obtain ⟨before, g₁, e, g₂, hbefore', hentry, hconditions⟩ := exists_expandEntry h hkey
  obtain ⟨-, rfl⟩ := hbefore.unique hbefore'
  obtain ⟨node, last, found', hrun, -⟩ := expandEntry_eq_ok_iff.1 hentry
  obtain rfl := Json.obj.inj (Option.some.inj (found.symm.trans found'))
  obtain ⟨log, hinvokes, hleaves⟩ := Resolver.exists_invokes.1 _ _ _ _ _ _ hrun
  rw [hconditions, hleaves.get?_eq, isSome_latest?_iff]
  exact List.mem_map_of_mem (f := Prod.fst) (hreaches.mem_log hinvokes hchooses)

/-- The sampler that a visit comes to is one of those of the entry. -/
theorem Visits.mem_samplersOf (hbuiltins : study.resolver.registry = .builtins) {v : Visit}
    (hv : study.Visits g index v) {key : String} {node : Fields}
    (hkey : study.protocol.sequence[index]? = some key)
    (found : study.protocol.frames.get? key = some (.obj node))
    (hself : (v.key, v.node) ∈ Node.samplersOf v.key v.node) :
    (v.key, v.node) ∈ Node.samplersOf key node := by
  obtain ⟨hkey', found', -, hreaches⟩ := hv
  obtain rfl := Option.some.inj (hkey.symm.trans hkey')
  obtain rfl := Json.obj.inj (Option.some.inj (found.symm.trans found'))
  exact hreaches.samplersOf_subset hbuiltins hself

end Study

end StudySession

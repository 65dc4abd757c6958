import StudySession.Proofs.Dict
import StudySession.Proofs.Study.Steps
import StudySession.Study.Resolver

/-!
# Samplers and expansion are composed

Each built-in sampler is composed from the primitive steps, and so is expansion with samplers that
are. Reading a node only ever refuses for the form of the node.
-/

namespace StudySession

open Resolve

/-! ## Reading nodes -/

theorem Node.settled_classify (key : String) (node : Fields) :
    Settled (Node.classify key node) := by
  unfold Node.classify
  split
  · exact .ok _
  · exact .error (by simp [StudyError.IsUnresolved])
  · split
    · exact .ok _
    · split
      · exact .ok _
      · exact .error (by simp [StudyError.IsUnresolved])

theorem Node.settled_scope (key : String) (node context : Fields) :
    Settled (Node.scope key node context) := by
  unfold Node.scope
  split
  · exact .ok _
  · exact .ok _
  · exact .ok _
  · exact .error (by simp [StudyError.IsUnresolved])

theorem Node.settled_listProperty (key : String) (node : Fields) (property : String) :
    Settled (Node.listProperty key node property) := by
  unfold Node.listProperty
  split
  · exact .ok _
  · exact .ok _
  · exact .error (by simp [StudyError.IsUnresolved])

theorem Node.settled_commonProperties (key : String) (node : Fields) :
    Settled (Node.commonProperties key node) := by
  unfold Node.commonProperties
  split
  · exact .ok _
  · exact .ok _
  · exact .ok _
  · exact .error (by simp [StudyError.IsUnresolved])

namespace Request

variable (request : Request)

theorem not_isUnresolved_malformed (fault : FrameFault) :
    ¬ (request.malformed fault).IsUnresolved := by
  simp [StudyError.IsUnresolved, malformed]

theorem not_isUnresolved_lacking (shortage : Shortage) :
    ¬ (request.lacking shortage).IsUnresolved := by
  simp [StudyError.IsUnresolved, lacking]

theorem settled_options : Settled request.options := by
  refine .bind (Node.settled_listProperty _ _ _) fun items => ?_
  split
  · exact .ok _
  · exact .error (request.not_isUnresolved_lacking _)

theorem settled_frameList : Settled request.frameList := by
  refine .bind (Node.settled_listProperty _ _ _) fun items => ?_
  split
  · exact .ok _
  · exact .error (request.not_isUnresolved_lacking _)

theorem settled_common : Settled request.common := Node.settled_commonProperties _ _

end Request

/-! ## The built-in samplers -/

theorem Counterbalance.settled_moduli (request : Request) :
    Settled (Counterbalance.moduli request) := by
  unfold Counterbalance.moduli
  split
  · exact .ok _
  · refine .mapM (fun entry => ?_) _
    dsimp only
    split
    · exact .ok _
    · exact .error (request.not_isUnresolved_malformed _)
  · exact .error (request.not_isUnresolved_malformed _)

namespace ParameterSet

theorem settled_sets (request : Request) : Settled (sets request) := by
  unfold sets
  split
  · exact .ok _
  · exact .error (request.not_isUnresolved_lacking _)

theorem settled_weight (request : Request) (j : Json) : Settled (weight request j) := by
  unfold weight
  split
  · split
    · exact .ok _
    · exact .error (request.not_isUnresolved_malformed _)
  · exact .error (request.not_isUnresolved_malformed _)

theorem settled_bracketWeights (request : Request) (brackets : List Json) :
    Settled (bracketWeights request brackets) := by
  unfold bracketWeights
  split
  · exact .error (request.not_isUnresolved_lacking _)
  · split
    · exact .error (request.not_isUnresolved_lacking _)
    · split
      · exact .ok _
      · exact .error (request.not_isUnresolved_malformed _)

theorem settled_weights (request : Request) (count : Nat) : Settled (weights request count) := by
  unfold weights
  split
  · exact .ok _
  · have counted : ∀ chosen : List Json, Settled (do
        let weights ← chosen.mapM (weight request)
        if weights.length = count then pure (some weights)
        else throw (request.malformed (.weightCount count weights.length))) := by
      intro chosen
      refine .bind (.mapM (settled_weight request) _) fun weights => ?_
      split
      · exact .ok _
      · exact .error (request.not_isUnresolved_malformed _)
    dsimp only
    split
    · exact .bind (settled_bracketWeights ..) counted
    · exact .bind (.ok _) counted
  · exact .error (request.not_isUnresolved_malformed _)

theorem composed_drawSet (request : Request) (count : Nat) : Composed (drawSet request count) := by
  refine .bind (.check (settled_weights request count)) fun weights => ?_
  split
  · exact .draw _
  · refine .look (fun _ _ => rfl) fun pass => ?_
    split
    · exact .refuse (request.not_isUnresolved_lacking _)
    · next chosen generator _ =>
        exact .bind (.draw fun _ => ((), generator)) fun _ => .answer _

end ParameterSet

namespace Sampler

/-- A sampler whose choices are composed from the primitive steps. -/
def IsComposed (s : Sampler) : Prop := ∀ request, Composed (s.choose request)

theorem composed_permute : permute.IsComposed := fun request =>
  .bind (.check request.settled_options) fun _ =>
    .bind (.check request.settled_common) fun _ => .bind (.draw _) fun _ => .answer _

theorem composed_random : random.IsComposed := fun request =>
  .bind (.check request.settled_options) fun _ =>
    .bind (.check request.settled_common) fun _ => .bind (.draw _) fun _ => .answer _

theorem settled_placeAmong (request : Request) (count : Nat) (j : Json) :
    Settled (placeAmong request count j) := by
  unfold placeAmong
  split
  · exact .error (request.not_isUnresolved_malformed _)
  · split
    · exact .ok _
    · exact .error (by simp [StudyError.IsUnresolved])

theorem settled_placesAmong (request : Request) (count : Nat) (j : Json) :
    Settled (placesAmong request count j) := by
  unfold placesAmong
  split
  · exact .mapM (settled_placeAmong request count) _
  · exact .map (settled_placeAmong ..) _

theorem composed_select : select.IsComposed := by
  intro request
  refine .bind (.check request.settled_options) fun options => ?_
  refine .bind (.check request.settled_common) fun _ => ?_
  split
  · exact .refuse (request.not_isUnresolved_malformed _)
  · exact .bind (composed_substitute ..) fun which =>
      .bind (.check (settled_placesAmong ..)) fun _ => .answer _

theorem composed_incrementConditions : incrementConditions.IsComposed := by
  intro request
  refine .bind (.check (Counterbalance.settled_moduli request)) fun moduli => ?_
  have expand : ∀ condition : Fields, Composed (do
      let members ← check request.frameList
      let _ ← check request.common
      pure (Choice.mk "frameList" (List.range members.length) condition (.obj condition))) :=
    fun _ => .bind (.check request.settled_frameList) fun _ =>
      .bind (.check request.settled_common) fun _ => .answer _
  dsimp only
  split
  · exact .bind (.answer _) expand
  · exact .bind (.draw _) expand

theorem composed_randomParameterSet : randomParameterSet.IsComposed := by
  intro request
  refine .bind (.check (ParameterSet.settled_sets request)) fun sets => ?_
  extract_lets expand
  have hexpand : ∀ chosen, Composed (expand chosen) := by
    intro chosen
    dsimp only [expand]
    split
    · exact .bind (.check request.settled_frameList) fun _ =>
        .bind (.check request.settled_common) fun _ => .answer _
    · exact .refuse (request.not_isUnresolved_malformed _)
  split
  · exact .bind (.answer _) hexpand
  · exact .bind (ParameterSet.composed_drawSet request _) hexpand

end Sampler

namespace Registry

/-- Every sampler of a registry is composed. -/
def IsComposed (r : Registry) : Prop := ∀ name s, r.get? name = some s → s.IsComposed

theorem builtins_eq : builtins =
    ⟨[("increment-conditions", .incrementConditions), ("permute", .permute), ("random", .random),
      ("random-parameter-set", .randomParameterSet), ("select", .select)]⟩ := rfl

theorem isComposed_builtins : builtins.IsComposed := by
  intro name s h
  have hmem := Dict.mem_of_get?_eq_some h
  simp only [builtins_eq, List.mem_cons, Prod.mk.injEq, List.not_mem_nil, or_false] at hmem
  obtain ⟨-, rfl⟩ | ⟨-, rfl⟩ | ⟨-, rfl⟩ | ⟨-, rfl⟩ | ⟨-, rfl⟩ := hmem
  · exact Sampler.composed_incrementConditions
  · exact Sampler.composed_permute
  · exact Sampler.composed_random
  · exact Sampler.composed_randomParameterSet
  · exact Sampler.composed_select

end Registry

/-! ## Expansion -/

namespace Resolver

variable {r : Resolver}

theorem composed_expandLeaf (key : String) (node context : Fields) :
    Composed (expandLeaf key node context) :=
  .bind (.check (Node.settled_scope ..)) fun _ =>
    .bind (composed_substituteFields _ _) fun _ => .answer _

theorem composed_expand_and_members (h : r.registry.IsComposed) :
    (∀ key node context, Composed (r.expand key node context)) ∧
      ∀ parent members common context,
        Composed (r.expandMembers parent members common context) := by
  apply expand.mutual_induct
  case case1 =>
    intro key node context ihGroup ihSampler
    rw [expand]
    refine .bind (.check (Node.settled_classify ..)) fun kind => ?_
    split
    · exact composed_expandLeaf ..
    · exact .bind (.check (Node.settled_scope ..)) fun context =>
        .bind (.check (Node.settled_listProperty ..)) fun _ =>
          .bind (.check (Node.settled_commonProperties ..)) fun _ => ihGroup context
    · next name =>
        split
        · exact .refuse (by simp [StudyError.IsUnresolved])
        · next s found =>
            refine .bind (.check (Node.settled_scope ..)) fun context => ?_
            refine .look (fun _ _ => rfl) fun pass => ?_
            exact .bind (h name s found _) fun choice =>
              .bind (ihSampler context choice) fun _ => .answer _
  case case2 =>
    intro parent common context
    rw [expandMembers]
    exact .answer _
  case case3 =>
    intro parent common context own index rest member ihFirst ihRest
    rw [expandMembers]
    exact .bind ihFirst fun first => .bind ihRest fun _ => .answer _
  case case4 =>
    intro parent common context member index rest hmember
    rw [expandMembers]
    · exact .refuse (by simp [StudyError.IsUnresolved])
    · exact hmember

theorem composed_expandValue (h : r.registry.IsComposed) (key : String) (value : Json)
    (context : Fields) : Composed (r.expandValue key value context) := by
  unfold expandValue
  split
  · exact (composed_expand_and_members h).1 ..
  · exact .refuse (by simp [StudyError.IsUnresolved])

end Resolver

end StudySession

import StudySession.Proofs.Study.Counterbalance

/-!
# Choosing a parameter set

What the `random-parameter-set` sampler comes to: one of the node's sets, recorded with its number
(`ParameterSet.Chosen`). With a recorded number to keep it draws nothing, whatever the generator,
the age and the weights (`ParameterSet.run_choose_of_persisted?`).
-/

namespace StudySession

open Resolve

namespace ParameterSet

/-- What is recorded of the choice of a set. -/
def recordOf (number : Nat) (parameters : Fields) : Json :=
  .obj [("conditionNum", .ofNat number), ("parameterSet", .obj parameters)]

/-- The choice of a set: every member of the node's list under it. -/
def choiceOf (members : List Json) (number : Nat) (parameters : Fields) : Choice where
  property := "frameList"
  picks := List.range members.length
  parameters
  condition := recordOf number parameters

/-- The number recorded with a choice is read back. -/
theorem number_recordOf (number : Nat) (parameters : Fields) :
    ((recordOf number parameters).field? "conditionNum").bind Json.nat? = some number :=
  Modulus.nat?_ofNat number

/-- The sets that the sampler is given are those of its node. -/
theorem membersOf_of_sets {request : Request} {sets : List Json}
    (h : ParameterSet.sets request = .ok sets) :
    Node.membersOf request.node "parameterSets" = sets := by
  unfold ParameterSet.sets at h
  unfold Node.membersOf
  split at h
  · next found => rw [found, Except.ok.inj h]
  · cases h

/-- A node offers a set under a number. -/
structure Offers (request : Request) (number : Nat) (parameters : Fields) : Prop where
  set : ∃ sets, ParameterSet.sets request = .ok sets ∧ sets[number]? = some (.obj parameters)
  members : ∃ members, request.frameList = .ok members
  common : ∃ common, request.common = .ok common

/-- What a sampler chose is offered. -/
structure Chosen (request : Request) (choice : Choice) (number : Nat) (parameters : Fields) : Prop
    where
  offers : Offers request number parameters
  choice_eq : ∃ members, request.frameList = .ok members ∧
    choice = choiceOf members number parameters

/-- However the number was come by, the set of that number is taken as it stands. -/
theorem chosen_of_set {request : Request} {pass after : Pass} {choice : Choice}
    {sets : List Json} {number : Nat} {parameters : Fields}
    (hsets : ParameterSet.sets request = .ok sets) (hset : sets[number]? = some (.obj parameters))
    (h : Resolve.run (do
      let members ← check request.frameList
      let _ ← check request.common
      pure (choiceOf members number parameters)) pass = (.ok choice, after)) :
    Chosen request choice number parameters := by
  obtain ⟨members, hmembers, h⟩ := run_check_bind_eq_ok_iff.1 h
  obtain ⟨common, hcommon, h⟩ := run_check_bind_eq_ok_iff.1 h
  obtain ⟨hchoice, -⟩ := Prod.mk.inj h
  exact ⟨⟨⟨sets, hsets, hset⟩, ⟨members, hmembers⟩, ⟨common, hcommon⟩⟩,
    members, hmembers, (Except.ok.inj hchoice).symm⟩

theorem chosen_of_run {request : Request} {pass after : Pass} {choice : Choice}
    (h : (Sampler.randomParameterSet.choose request).run pass = (.ok choice, after)) :
    ∃ number parameters, Chosen request choice number parameters := by
  obtain ⟨sets, hsets, h⟩ := run_check_bind_eq_ok_iff.1 h
  dsimp only at h
  split at h
  · next number hkept =>
      rw [pure_bind] at h
      split at h
      · next parameters hset => exact ⟨number, parameters, chosen_of_set hsets hset h⟩
      · cases h
  · obtain ⟨number, between, -, h⟩ := run_bind_eq_ok_iff.1 h
    split at h
    · next parameters hset => exact ⟨number, parameters, chosen_of_set hsets hset h⟩
    · cases h

/-- With a number to keep, the sampler draws nothing. -/
theorem run_choose_of_persisted? {request : Request} {number : Nat} {parameters : Fields}
    (hoffers : Offers request number parameters)
    (hkept : ∀ count, number < count → persisted? request count = some number) (pass : Pass) :
    ∃ members, request.frameList = .ok members ∧
      (Sampler.randomParameterSet.choose request).run pass =
        (.ok (choiceOf members number parameters), pass) := by
  obtain ⟨⟨sets, hsets, hset⟩, ⟨members, hmembers⟩, ⟨common, hcommon⟩⟩ := hoffers
  have hlt : number < sets.length := (List.getElem?_eq_some_iff.1 hset).1
  refine ⟨members, hmembers, ?_⟩
  refine run_check_bind_eq_ok_iff.2 ⟨sets, hsets, ?_⟩
  dsimp only
  rw [hkept _ hlt]
  dsimp only
  rw [pure_bind, hset]
  refine run_check_bind_eq_ok_iff.2 ⟨members, hmembers, ?_⟩
  exact run_check_bind_eq_ok_iff.2 ⟨common, hcommon, rfl⟩

/-- What a node offers is the node's alone. -/
theorem Offers.congr {a b : Request} {number : Nat} {parameters : Fields}
    (h : Offers a number parameters) (hkey : a.frameKey = b.frameKey) (hnode : a.node = b.node) :
    Offers b number parameters := by
  obtain ⟨⟨sets, hsets, hset⟩, ⟨members, hmembers⟩, ⟨common, hcommon⟩⟩ := h
  refine ⟨⟨sets, ?_, hset⟩, ⟨members, ?_⟩, ⟨common, ?_⟩⟩
  · rw [← hsets]
    simp only [ParameterSet.sets, Request.lacking, hkey, hnode]
  · rw [← hmembers]
    exact Request.frameList_congr hkey.symm hnode.symm
  · rw [← hcommon]
    exact Request.common_congr hkey.symm hnode.symm

/-- A node that keeps choices keeps the number that was recorded. -/
theorem persisted?_of_previousCondition {request : Request} {number : Nat} {parameters : Fields}
    (hkeeps : request.node.get? "conditionForAdditionalSessions" = some (.str "persist"))
    (hprevious : request.previousCondition = some (recordOf number parameters)) {count : Nat}
    (hlt : number < count) : persisted? request count = some number := by
  obtain ⟨j, hfield, hnat⟩ := Option.bind_eq_some_iff.1 (number_recordOf number parameters)
  rw [persisted?, hkeeps]
  simp [hprevious, hfield, hnat, hlt]

end ParameterSet

end StudySession

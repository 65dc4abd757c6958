import StudySession.Proofs.Random.Weighted
import StudySession.Proofs.Study.Brackets

/-!
# Weights of parameter sets

The weights that apply to a participant are a node's list of them, or those of the first bracket
that the age lies in (`ParameterSet.Applies`). Where they are whole numbers with a sum below `2^53`
and no choice is kept, a set of weight zero is never chosen (`ParameterSet.weighed`): there must be
one weight for each set, then one that is not zero, and a set is drawn by the weights or not at all.
-/

namespace StudySession

open Resolve
open Double (IsNat)

namespace ParameterSet

/-! ## The weights that apply -/

/-- The weights of a node that apply to the participant, as they stand there. -/
inductive Applies (request : Request) : List Json → Prop
  /-- A list that is not one of brackets is one of weights. -/
  | flat {items : List Json}
      (hnode : request.node.get? "parameterSetWeights" = some (.arr items))
      (hflat : items = [] ∨ ∃ item ∈ items, item.obj? = none) : Applies request items
  /-- The first bracket that the participant's age lies in lists them. -/
  | bracket {listed : List Fields} {age : Nat} {bracket : Json} {items : List Json}
      (hnode : request.node.get? "parameterSetWeights" = some (.arr (listed.map .obj)))
      (hage : request.ageInDays = some age) (hfits : age < 2 ^ 64)
      (hfirst : IsFirst age (listed.map .obj) bracket)
      (hweights : bracket.field? "weights" = some (.arr items)) : Applies request items

/-- A weight is a whole number, written as an integer or as a float. -/
inductive Weighs : Json → Nat → Prop
  | int (n : Nat) : Weighs (.ofNat n) n
  | float {x : Double} {n : Nat} (h : x.IsNat n) : Weighs (.float x) n

variable {request : Request} {items : List Json} {ns : List Nat} {weights : List Double}
  {count number : Nat}

/-- The weights that apply are read one by one, and then counted. -/
theorem weights_of_applies (happlies : Applies request items) :
    ParameterSet.weights request count = (do
      let weights ← items.mapM (weight request)
      if weights.length = count then pure (some weights)
      else throw (request.malformed (.weightCount count weights.length))) := by
  cases happlies with
  | flat hnode hflat =>
      have hweights : ¬ (!items.isEmpty && items.all (·.obj?.isSome)) = true := by
        intro hbrackets
        simp only [Bool.and_eq_true, Bool.not_eq_true', List.isEmpty_eq_false_iff,
          List.all_eq_true] at hbrackets
        obtain ⟨item, hmem, hnone⟩ := hflat.resolve_left hbrackets.1
        have hsome := hbrackets.2 item hmem
        rw [hnone] at hsome
        cases hsome
      rw [ParameterSet.weights, hnode]
      dsimp only
      rw [if_neg hweights]
      rfl
  | @bracket listed age bracket _ hnode hage hfits hfirst hweights =>
      have hne : listed ≠ [] := by
        intro hnil
        obtain ⟨earlier, later, heq, -⟩ := hfirst
        simp [hnil] at heq
      rw [weights_of_brackets hnode hne,
        (bracketWeights_eq_ok_iff hage hfits).2 ⟨bracket, hfirst, hweights⟩]
      rfl

theorem exists_weight (request : Request) {item : Json} {n : Nat} (h : Weighs item n) (hn : n < 2 ^ 53) :
    ∃ w, weight request item = .ok w ∧ w.IsNat n := by
  have hread : ∃ w, item.double? = some w ∧ w.IsNat n := by
    cases h with
    | int => exact ⟨.ofNat n, rfl, Double.isNat_ofNat hn⟩
    | float h => exact ⟨_, rfl, h⟩
  obtain ⟨w, hw, hnat⟩ := hread
  refine ⟨w, weight_eq_ok_iff.2 ⟨hw, ?_⟩, hnat⟩
  rw [hnat]
  exact Int.natCast_nonneg _

theorem exists_weights (request : Request) (h : List.Forall₂ Weighs items ns)
    (hfits : ns.sum < 2 ^ 53) :
    ∃ weights, items.mapM (weight request) = .ok weights ∧ List.Forall₂ IsNat weights ns := by
  simp only [mapM_eq_ok_iff]
  induction h with
  | nil => exact ⟨[], .nil, .nil⟩
  | @cons item n items ns hitem _ ih =>
      rw [List.sum_cons] at hfits
      obtain ⟨w, hw, hnat⟩ := exists_weight request hitem (by omega)
      obtain ⟨ws, hws, hnats⟩ := ih (by omega)
      exact ⟨w :: ws, .cons hw hws, .cons hnat hnats⟩

/-! ## The draw -/

variable {sets : List Json} {pass after : Pass} {e : StudyError}

theorem run_drawSet_of_weighted? {g : Generator}
    (hweights : ParameterSet.weights request count = .ok (some weights))
    (hdrawn : pass.generator.weighted? weights = some (number, g)) :
    (drawSet request count).run pass = (.ok number, { pass with generator := g }) := by
  refine run_check_bind_eq_ok_iff.2 ⟨_, hweights, ?_⟩
  dsimp only
  rw [run_get_bind, hdrawn]
  rfl

/-- Without a weight to draw by, nothing is chosen. -/
theorem run_choose_of_weighted?_none (hsets : ParameterSet.sets request = .ok sets)
    (hkept : persisted? request sets.length = none)
    (hweights : ParameterSet.weights request sets.length = .ok (some weights))
    (hnone : pass.generator.weighted? weights = none) :
    (Sampler.randomParameterSet.choose request).run pass =
      (.error (request.lacking .weightsZero), pass) := by
  refine run_choose_of_drawSet_error hsets hkept ?_
  rw [drawSet, run_bind, run_check, hweights]
  dsimp only
  rw [run_get_bind, hnone]
  rfl

/-! ## Choices by weight -/

/-- The set of a number has a weight that is not zero. -/
def Positive (ns : List Nat) (number : Nat) : Prop := ∃ n, ns[number]? = some n ∧ 0 < n

/-- What a node whose weights are whole numbers comes to for a participant without a choice to
keep. -/
structure Weighed (request : Request) (sets : List Json) (ns : List Nat) (pass : Pass) : Prop where
  /-- Whatever number below the total is drawn, it falls on a set with a positive weight. -/
  falls : ns.length = sets.length → ∃ weights,
    ParameterSet.weights request sets.length = .ok (some weights) ∧
      List.Forall₂ IsNat weights ns ∧
      ∀ v : Double, 0 ≤ v.units → v.units < (ns.sum * Double.unit : Nat) →
        Generator.indexAt weights v < sets.length ∧ Positive ns (Generator.indexAt weights v)
  /-- Where a weight is positive, a set is drawn by the weights. -/
  drawn : ns.length = sets.length → (∃ n ∈ ns, 0 < n) → ∃ weights number g,
    ParameterSet.weights request sets.length = .ok (some weights) ∧
      pass.generator.weighted? weights = some (number, g) ∧
      (drawSet request sets.length).run pass = (.ok number, { pass with generator := g }) ∧
      number < sets.length ∧ Positive ns number
  chosen : ∀ choice after,
    (Sampler.randomParameterSet.choose request).run pass = (.ok choice, after) →
      ∃ number parameters, Chosen request choice number parameters ∧ number < sets.length ∧
        Positive ns number
  allZero : ns.length = sets.length → (∀ n ∈ ns, n = 0) →
    (Sampler.randomParameterSet.choose request).run pass =
      (.error (request.lacking .weightsZero), pass)
  miscounted : ns.length ≠ sets.length →
    (Sampler.randomParameterSet.choose request).run pass =
      (.error (request.malformed (.weightCount sets.length ns.length)), pass)

theorem Positive.lt_length (h : Positive ns number) : number < ns.length := by
  obtain ⟨n, hn, -⟩ := h
  exact (List.getElem?_eq_some_iff.1 hn).1

/-- A set of weight zero is never chosen. -/
theorem weighed (hsets : ParameterSet.sets request = .ok sets)
    (hkept : persisted? request sets.length = none) (happlies : Applies request items)
    (hweighs : List.Forall₂ Weighs items ns) (hfits : ns.sum < 2 ^ 53) (pass : Pass) :
    Weighed request sets ns pass := by
  obtain ⟨weights, hread, hnats⟩ := exists_weights request hweighs hfits
  have hlength : weights.length = ns.length := hnats.length_eq
  have hcounted : ns.length = sets.length →
      ParameterSet.weights request sets.length = .ok (some weights) := by
    intro hcount
    rw [weights_of_applies happlies, hread]
    exact if_pos (hlength.trans hcount)
  have hmiscounted : ns.length ≠ sets.length →
      (Sampler.randomParameterSet.choose request).run pass =
        (.error (request.malformed (.weightCount sets.length ns.length)), pass) := by
    intro hcount
    refine run_choose_of_weights_error hsets hkept ?_ pass
    rw [weights_of_applies happlies, hread, ← hlength]
    exact if_neg (hlength ▸ hcount)
  have hzero : ns.length = sets.length → (∀ n ∈ ns, n = 0) →
      (Sampler.randomParameterSet.choose request).run pass =
        (.error (request.lacking .weightsZero), pass) := by
    intro hcount hall
    refine run_choose_of_weighted?_none hsets hkept (hcounted hcount) ?_
    exact Generator.weighted?_of_sum_eq_zero hnats (List.sum_eq_zero_iff.2 hall) _
  have hdrawn : (∃ n ∈ ns, 0 < n) → ∃ number g,
      pass.generator.weighted? weights = some (number, g) ∧ Positive ns number := by
    rintro ⟨n, hmem, hn⟩
    have hpos : 0 < ns.sum := hn.trans_le (List.le_sum_of_mem hmem)
    exact Generator.weighted?_positive hnats hpos hfits _
  refine ⟨fun hcount => ⟨weights, hcounted hcount, hnats, fun v hlow hhigh => ?_⟩,
    fun hcount hpositive => ?_, fun choice after h => ?_, hzero, hmiscounted⟩
  · have hpositive := Generator.positive_at_indexAt hnats hfits hlow hhigh
    exact ⟨hcount ▸ Positive.lt_length hpositive, hpositive⟩
  · obtain ⟨number, g, hg, hnumber⟩ := hdrawn hpositive
    exact ⟨weights, number, g, hcounted hcount, hg, run_drawSet_of_weighted? (hcounted hcount) hg,
      hcount ▸ hnumber.lt_length, hnumber⟩
  · -- a choice was made, so the weights are as many as the sets and not all zero
    by_cases hcount : ns.length = sets.length
    · by_cases hall : ∀ n ∈ ns, n = 0
      · rw [hzero hcount hall] at h
        cases h
      · simp only [not_forall] at hall
        obtain ⟨n, hmem, hn⟩ := hall
        obtain ⟨number, g, hg, hnumber⟩ := hdrawn ⟨n, hmem, Nat.pos_of_ne_zero hn⟩
        obtain ⟨number', parameters, between, hdraw, hchosen⟩ := drawn_of_run hsets hkept h
        rw [run_drawSet_of_weighted? (hcounted hcount) hg] at hdraw
        obtain rfl := Except.ok.inj (Prod.mk.inj hdraw).1
        exact ⟨number, parameters, hchosen, hcount ▸ hnumber.lt_length, hnumber⟩
    · rw [hmiscounted hcount] at h
      cases h

/-! ## Nodes with weights -/

/-- A participant comes to a node with sets that are numbered from zero and as many weights. -/
def weighedRequest (ns : List Nat) : Request where
  frameKey := "s"
  sequenceKey := "s"
  conditionKey := "0_s"
  node :=
    [("frameList", .arr [.obj [("kind", .str "x")]]),
      ("parameterSetWeights", .arr (ns.map .ofNat)),
      ("parameterSets", .arr ((List.range ns.length).map fun n => .obj [("S", .ofNat n)])),
      ("sampler", .str "random-parameter-set")]
  context := []
  pastSessions := []
  ageInDays := none

/-- Zeros in front, between and behind are passed over. -/
theorem weighed_between_zeros :
    numberDrawn? (weighedRequest [0, 0, 1, 0, 0, 2, 0]) (.start 0 none .lenient (.ofSeed 3)) =
        some 2 ∧
      Weighed (weighedRequest [0, 0, 1, 0, 0, 2, 0])
        ((List.range 7).map fun n => .obj [("S", .ofNat n)]) [0, 0, 1, 0, 0, 2, 0]
        (.start 0 none .lenient (.ofSeed 3)) := by
  refine ⟨by decide +kernel, weighed rfl rfl (.flat rfl (.inr ⟨_, List.mem_cons_self, rfl⟩)) ?_
    (by decide) _⟩
  exact .cons (.int 0) (.cons (.int 0) (.cons (.int 1) (.cons (.int 0) (.cons (.int 0)
    (.cons (.int 2) (.cons (.int 0) .nil))))))

end ParameterSet

end StudySession

import StudySession.Proofs.Study.ParameterSets

/-!
# Age brackets

Where the weights of parameter sets are listed by age brackets, those of the first bracket that the
participant's age lies in decide, and without one nothing is chosen. A bracket is read by its bounds
that are non-negative integers (`ParameterSet.Within`). Where each bound is one, that is what the
bracket says (`ParameterSet.within_iff_of_proper`). A bound that is something else excludes nobody,
just as one that is missing.
-/

namespace StudySession

open Resolve

namespace ParameterSet

/-! ## Bounds -/

/-- An age lies within the bounds of a bracket that are non-negative integers. -/
structure Within (age : Nat) (bracket : Json) : Prop where
  minAge : ∀ n, bound? bracket "minAge" = some n → n ≤ age
  maxAge : ∀ n, bound? bracket "maxAge" = some n → age ≤ n

/-- An age lies within the bounds of a bracket as they stand there. -/
structure Stated (age : Nat) (bracket : Json) : Prop where
  minAge : ∀ value, bracket.field? "minAge" = some value → ∃ n, value = .ofNat n ∧ n ≤ age
  maxAge : ∀ value, bracket.field? "maxAge" = some value → ∃ n, value = .ofNat n ∧ age ≤ n

/-- A bracket's bounds are non-negative integers where they are there. -/
def Proper (bracket : Json) : Prop :=
  ∀ property ∈ ["minAge", "maxAge"], ∀ value, bracket.field? property = some value →
    ∃ n, value = .ofNat n

variable {age : Nat} {bracket : Json}

theorem bound?_of_field? {property : String} {n : Nat}
    (h : bracket.field? property = some (.ofNat n)) : bound? bracket property = some n := by
  rw [bound?, h, Option.bind_some, Modulus.nat?_ofNat]

/-- A bound that is missing leaves room for every age that fits a word. -/
theorem covers_iff (hage : age < 2 ^ 64) : covers age bracket = true ↔ Within age bracket := by
  have hpow : Nat.pow 2 64 = 2 ^ 64 := rfl
  rw [covers, decide_eq_true_iff, hpow]
  constructor
  · rintro ⟨hmin, hmax⟩
    refine ⟨fun n hn => ?_, fun n hn => ?_⟩
    · rwa [hn, Option.getD_some] at hmin
    · rwa [hn, Option.getD_some] at hmax
  · rintro ⟨hmin, hmax⟩
    constructor
    · cases hbound : bound? bracket "minAge" with
      | none => exact Nat.zero_le _
      | some n => exact hmin n hbound
    · cases hbound : bound? bracket "maxAge" with
      | none => exact Nat.le_sub_one_of_lt hage
      | some n => exact hmax n hbound

/-- Where the bounds are non-negative integers, they are taken as they stand. -/
theorem within_iff_of_proper (hproper : Proper bracket) :
    Within age bracket ↔ Stated age bracket := by
  constructor
  · rintro ⟨hmin, hmax⟩
    refine ⟨fun value hvalue => ?_, fun value hvalue => ?_⟩
    · obtain ⟨n, rfl⟩ := hproper "minAge" (by simp) value hvalue
      exact ⟨n, rfl, hmin n (bound?_of_field? hvalue)⟩
    · obtain ⟨n, rfl⟩ := hproper "maxAge" (by simp) value hvalue
      exact ⟨n, rfl, hmax n (bound?_of_field? hvalue)⟩
  · rintro ⟨hmin, hmax⟩
    refine ⟨fun n hn => ?_, fun n hn => ?_⟩
    · obtain ⟨value, hvalue, hnat⟩ := Option.bind_eq_some_iff.1 hn
      obtain ⟨m, rfl, hle⟩ := hmin value hvalue
      rw [Modulus.nat?_ofNat] at hnat
      rwa [← Option.some.inj hnat]
    · obtain ⟨value, hvalue, hnat⟩ := Option.bind_eq_some_iff.1 hn
      obtain ⟨m, rfl, hle⟩ := hmax value hvalue
      rw [Modulus.nat?_ofNat] at hnat
      rwa [← Option.some.inj hnat]

/-! ## Weights -/

/-- The first bracket of a list that an age lies in. -/
def IsFirst (age : Nat) (brackets : List Json) (bracket : Json) : Prop :=
  ∃ earlier later, brackets = earlier ++ bracket :: later ∧ (∀ b ∈ earlier, ¬ Within age b) ∧
    Within age bracket

/-- The weights that a bracket lists, one for each set. -/
structure Lists (request : Request) (bracket : Json) (weights : List Double) (count : Nat) : Prop
    where
  listed : ∃ items, bracket.field? "weights" = some (.arr items) ∧
    List.Forall₂ (fun item w => item.double? = some w ∧ 0 ≤ w.units) items weights
  count_eq : weights.length = count

variable {request : Request} {brackets : List Json} {count : Nat}

theorem find?_covers_iff (hage : age < 2 ^ 64) :
    brackets.find? (covers age) = some bracket ↔ IsFirst age brackets bracket := by
  rw [List.find?_eq_some_iff_append, covers_iff hage]
  constructor
  · rintro ⟨hwithin, earlier, later, heq, hearlier⟩
    refine ⟨earlier, later, heq, fun b hb hb' => ?_, hwithin⟩
    have hnot := hearlier b hb
    rw [(covers_iff hage).2 hb'] at hnot
    cases hnot
  · rintro ⟨earlier, later, heq, hearlier, hwithin⟩
    refine ⟨hwithin, earlier, later, heq, fun b hb => ?_⟩
    rw [Bool.not_eq_true', Bool.eq_false_iff]
    exact fun hcovers => hearlier b hb ((covers_iff hage).1 hcovers)

theorem weight_eq_ok_iff {item : Json} {w : Double} :
    weight request item = .ok w ↔ item.double? = some w ∧ 0 ≤ w.units := by
  rw [weight]
  cases item.double? with
  | none => simp
  | some x =>
      dsimp only
      split
      · next hpos =>
          constructor
          · rintro ⟨⟩
            exact ⟨rfl, hpos⟩
          · rintro ⟨heq, -⟩
            rw [Option.some.inj heq]
      · next hneg =>
          constructor
          · rintro ⟨⟩
          · rintro ⟨heq, hpos⟩
            rw [Option.some.inj heq] at hneg
            exact absurd hpos hneg

theorem bracketWeights_eq_ok_iff (hage : request.ageInDays = some age) (hfits : age < 2 ^ 64)
    {items : List Json} :
    bracketWeights request brackets = .ok items ↔
      ∃ bracket, IsFirst age brackets bracket ∧ bracket.field? "weights" = some (.arr items) := by
  rw [bracketWeights, hage]
  dsimp only
  simp only [← find?_covers_iff hfits]
  constructor
  · intro h
    split at h
    · cases h
    · next bracket hfound =>
        split at h
        · next weights hweights =>
            obtain rfl := Except.ok.inj h
            exact ⟨bracket, hfound, hweights⟩
        · cases h
  · rintro ⟨bracket, hfound, hweights⟩
    rw [hfound]
    dsimp only
    rw [hweights]

theorem bracketWeights_of_uncovered (hage : request.ageInDays = some age) (hfits : age < 2 ^ 64)
    (houtside : ∀ bracket ∈ brackets, ¬ Within age bracket) :
    bracketWeights request brackets = .error (request.lacking (.ageNotCovered age)) := by
  have hnone : brackets.find? (covers age) = none :=
    List.find?_eq_none.2 fun bracket hmem hcovers =>
      houtside bracket hmem ((covers_iff hfits).1 hcovers)
  rw [bracketWeights, hage]
  dsimp only
  rw [hnone]

section Nodes

variable {listed : List Fields} {drawn : Option (List Double)} {e : StudyError}

/-- A list of objects that is not empty is a list of brackets. -/
theorem weights_of_brackets
    (hnode : request.node.get? "parameterSetWeights" = some (.arr (listed.map .obj)))
    (hne : listed ≠ []) :
    weights request count = (do
      let items ← bracketWeights request (listed.map .obj)
      let weights ← items.mapM (weight request)
      if weights.length = count then pure (some weights)
      else throw (request.malformed (.weightCount count weights.length))) := by
  have hbrackets : (!(listed.map Json.obj).isEmpty &&
      (listed.map Json.obj).all (·.obj?.isSome)) = true := by
    rw [Bool.and_eq_true, List.all_map]
    exact ⟨by simpa using hne, List.all_eq_true.2 fun _ _ => rfl⟩
  rw [weights, hnode]
  dsimp only
  rw [if_pos hbrackets]

theorem weights_eq_error
    (hnode : request.node.get? "parameterSetWeights" = some (.arr (listed.map .obj)))
    (hne : listed ≠ []) (h : bracketWeights request (listed.map .obj) = .error e) :
    weights request count = .error e := by
  rw [weights_of_brackets hnode hne, h]
  rfl

theorem exists_lists_of_weights
    (hnode : request.node.get? "parameterSetWeights" = some (.arr (listed.map .obj)))
    (hne : listed ≠ []) (hage : request.ageInDays = some age) (hfits : age < 2 ^ 64)
    (h : weights request count = .ok drawn) :
    ∃ bracket weights, IsFirst age (listed.map .obj) bracket ∧
      Lists request bracket weights count ∧ drawn = some weights := by
  rw [weights_of_brackets hnode hne] at h
  cases hitems : bracketWeights request (listed.map .obj) with
  | error e =>
      rw [hitems] at h
      cases h
  | ok items =>
      obtain ⟨bracket, hfirst, hfound⟩ := (bracketWeights_eq_ok_iff hage hfits).1 hitems
      rw [hitems] at h
      cases hread : items.mapM (weight request) with
      | error e =>
          simp only [bind, Except.bind, hread] at h
          cases h
      | ok ws =>
          simp only [bind, Except.bind, hread] at h
          split at h
          · next hcount =>
              have hweights := (mapM_eq_ok_iff.1 hread).imp fun _ _ => weight_eq_ok_iff.1
              exact ⟨bracket, ws, hfirst, ⟨⟨items, hfound, hweights⟩, hcount⟩,
                (Except.ok.inj h).symm⟩
          · cases h

/-- An empty list gives each of no sets its weight. -/
theorem weights_of_nil (hnode : request.node.get? "parameterSetWeights" = some (.arr []))
    (hcount : count ≠ 0) :
    weights request count = .error (request.malformed (.weightCount count 0)) := by
  have hshort : ¬ ([] : List Double).length = count := fun h => hcount h.symm
  rw [weights, hnode]
  exact if_neg hshort

end Nodes

/-! ## Choices -/

variable {pass after : Pass} {choice : Choice} {sets : List Json} {e : StudyError}

/-- Without a choice to keep, a set is drawn first. -/
theorem run_choose_of_drawSet_error (hsets : ParameterSet.sets request = .ok sets)
    (hkept : persisted? request sets.length = none)
    (hdraw : (drawSet request sets.length).run pass = (.error e, after)) :
    (Sampler.randomParameterSet.choose request).run pass = (.error e, after) := by
  show Resolve.run (check (ParameterSet.sets request) >>= _) pass = _
  rw [run_bind, run_check, hsets]
  dsimp only
  rw [hkept]
  dsimp only
  rw [run_bind, hdraw]

/-- For that, the weights are read first. -/
theorem run_choose_of_weights_error (hsets : ParameterSet.sets request = .ok sets)
    (hkept : persisted? request sets.length = none)
    (hweights : weights request sets.length = .error e) (pass : Pass) :
    (Sampler.randomParameterSet.choose request).run pass = (.error e, pass) := by
  refine run_choose_of_drawSet_error hsets hkept ?_
  rw [drawSet, run_bind, run_check, hweights]

/-- What is chosen without a choice to keep is drawn by the weights. -/
theorem drawn_of_run (hsets : ParameterSet.sets request = .ok sets)
    (hkept : persisted? request sets.length = none)
    (h : (Sampler.randomParameterSet.choose request).run pass = (.ok choice, after)) :
    ∃ number parameters between,
      (drawSet request sets.length).run pass = (.ok number, between) ∧
        Chosen request choice number parameters := by
  obtain ⟨sets', hsets', h⟩ := run_check_bind_eq_ok_iff.1 h
  obtain rfl : sets = sets' := Except.ok.inj (hsets.symm.trans hsets')
  dsimp only at h
  rw [hkept] at h
  obtain ⟨number, between, hdraw, h⟩ := run_bind_eq_ok_iff.1 h
  split at h
  · next parameters hset => exact ⟨number, parameters, between, hdraw, chosen_of_set hsets hset h⟩
  · cases h

theorem run_drawSet {weights : List Double} {number : Nat}
    (hweights : ParameterSet.weights request count = .ok (some weights))
    (h : (drawSet request count).run pass = (.ok number, after)) :
    ∃ g, pass.generator.weighted? weights = some (number, g) := by
  obtain ⟨drawn, hdrawn, h⟩ := run_check_bind_eq_ok_iff.1 h
  obtain rfl := Except.ok.inj (hweights.symm.trans hdrawn)
  dsimp only at h
  rw [run_get_bind] at h
  split at h
  · cases h
  · next chosen g hchosen =>
      obtain ⟨_, _, -, h⟩ := run_bind_eq_ok_iff.1 h
      obtain ⟨hnumber, -⟩ := Prod.mk.inj h
      obtain rfl := Except.ok.inj hnumber
      exact ⟨g, hchosen⟩

/-- What a node with age brackets comes to for a participant without a choice to keep. -/
structure Bracketed (request : Request) (listed : List Fields) (sets : List Json) (pass : Pass) :
    Prop where
  /-- A set is drawn by the weights of the first bracket that the age lies in. -/
  chosen : ∀ choice after,
    (Sampler.randomParameterSet.choose request).run pass = (.ok choice, after) →
      ∃ age bracket weights number parameters g, request.ageInDays = some age ∧
        IsFirst age (listed.map .obj) bracket ∧ Lists request bracket weights sets.length ∧
        pass.generator.weighted? weights = some (number, g) ∧
        Chosen request choice number parameters
  /-- Bounds that are non-negative integers are taken as they stand. -/
  stated : ∀ age bracket, Proper bracket → (Within age bracket ↔ Stated age bracket)
  ageUnknown : listed ≠ [] → request.ageInDays = none →
    (Sampler.randomParameterSet.choose request).run pass =
      (.error (request.lacking .ageUnknown), pass)
  uncovered : listed ≠ [] → ∀ age, request.ageInDays = some age →
    (∀ b ∈ listed, ¬ Within age (.obj b)) →
      (Sampler.randomParameterSet.choose request).run pass =
        (.error (request.lacking (.ageNotCovered age)), pass)
  /-- A list without brackets is read as one of weights, and there are too few. -/
  unlisted : listed = [] → (Sampler.randomParameterSet.choose request).run pass =
    (.error (request.malformed (.weightCount sets.length 0)), pass)

theorem length_ne_zero_of_sets (h : ParameterSet.sets request = .ok sets) : sets.length ≠ 0 := by
  unfold ParameterSet.sets at h
  split at h
  · obtain rfl := Except.ok.inj h
    exact Nat.succ_ne_zero _
  · cases h

/-- For a participant without a choice to keep, the first bracket that the age lies in decides. An
age is given as a word. -/
theorem bracketed {listed : List Fields}
    (hnode : request.node.get? "parameterSetWeights" = some (.arr (listed.map .obj)))
    (hsets : ParameterSet.sets request = .ok sets)
    (hkept : persisted? request sets.length = none)
    (hfits : ∀ age, request.ageInDays = some age → age < 2 ^ 64) (pass : Pass) :
    Bracketed request listed sets pass := by
  have hunknown : listed ≠ [] → request.ageInDays = none →
      (Sampler.randomParameterSet.choose request).run pass =
        (.error (request.lacking .ageUnknown), pass) := by
    intro hne hnone
    refine run_choose_of_weights_error hsets hkept (weights_eq_error hnode hne ?_) pass
    rw [bracketWeights, hnone]
  have hunlisted : listed = [] → (Sampler.randomParameterSet.choose request).run pass =
      (.error (request.malformed (.weightCount sets.length 0)), pass) := by
    rintro rfl
    exact run_choose_of_weights_error hsets hkept
      (weights_of_nil hnode (length_ne_zero_of_sets hsets)) pass
  refine ⟨fun choice after h => ?_, fun age bracket => within_iff_of_proper, hunknown,
    fun hne age hage houtside => ?_, hunlisted⟩
  · have hne : listed ≠ [] := by
      intro hnil
      rw [hunlisted hnil] at h
      cases h
    cases hage : request.ageInDays with
    | none =>
        rw [hunknown hne hage] at h
        cases h
    | some age =>
        obtain ⟨number, parameters, between, hdraw, hchosen⟩ := drawn_of_run hsets hkept h
        obtain ⟨drawn, hdrawn, -⟩ := run_check_bind_eq_ok_iff.1 hdraw
        obtain ⟨bracket, weights, hfirst, hlists, rfl⟩ :=
          exists_lists_of_weights hnode hne hage (hfits age hage) hdrawn
        obtain ⟨g, hg⟩ := run_drawSet hdrawn hdraw
        exact ⟨age, bracket, weights, number, parameters, g, rfl, hfirst, hlists, hg, hchosen⟩
  · refine run_choose_of_weights_error hsets hkept (weights_eq_error hnode hne ?_) pass
    refine bracketWeights_of_uncovered hage (hfits age hage) fun bracket hmem => ?_
    obtain ⟨b, hb, rfl⟩ := List.mem_map.1 hmem
    exact houtside b hb

/-! ## Nodes of two sets -/

/-- A participant comes to a node with two sets and age brackets. -/
def bracketRequest (listed : List Fields) (age : Nat) : Request where
  frameKey := "s"
  sequenceKey := "s"
  conditionKey := "0_s"
  node :=
    [("frameList", .arr [.obj [("kind", .str "x")]]),
      ("parameterSetWeights", .arr (listed.map .obj)),
      ("parameterSets", .arr [.obj [("S", .str "a")], .obj [("S", .str "b")]]),
      ("sampler", .str "random-parameter-set")]
  context := []
  pastSessions := []
  ageInDays := some age

/-- The number of the set that is drawn. -/
def numberDrawn? (request : Request) (pass : Pass) : Option Nat :=
  ((Sampler.randomParameterSet.choose request).run pass).1.toOption.bind fun choice =>
    (choice.condition.field? "conditionNum").bind Json.nat?

/-- The first set is for the first year, the second for later. -/
def yearBrackets : List Fields :=
  [[("maxAge", .ofNat 365), ("minAge", .ofNat 0), ("weights", .arr [.ofNat 1, .ofNat 0])],
    [("maxAge", .ofNat 1000), ("minAge", .ofNat 366), ("weights", .arr [.ofNat 0, .ofNat 1])]]

theorem bracketed_second_year :
    numberDrawn? (bracketRequest yearBrackets 500) (.start 0 none .lenient (.ofSeed 3)) = some 1 ∧
      Bracketed (bracketRequest yearBrackets 500) yearBrackets
        [.obj [("S", .str "a")], .obj [("S", .str "b")]] (.start 0 none .lenient (.ofSeed 3)) := by
  refine ⟨by decide +kernel, bracketed rfl rfl rfl ?_ _⟩
  rintro age ⟨⟩
  decide

/-- The brackets of the years again, the later first, with a fraction for its bound. -/
def laterBracket : Fields :=
  [("minAge", .float (.ofInt 366)), ("weights", .arr [.ofNat 0, .ofNat 1])]

def fractionBrackets : List Fields :=
  [laterBracket,
    [("maxAge", .ofNat 365), ("minAge", .ofNat 0), ("weights", .arr [.ofNat 1, .ofNat 0])]]

/-- A bound that is no integer is passed over: the set for later is drawn in the first year. -/
theorem fraction_passed_over :
    IsFirst 200 (fractionBrackets.map .obj) (.obj laterBracket) ∧
      ¬ Stated 200 (.obj laterBracket) ∧
      numberDrawn? (bracketRequest fractionBrackets 200) (.start 0 none .lenient (.ofSeed 3)) =
        some 1 := by
  refine ⟨(find?_covers_iff (by decide)).1 rfl, fun hstated => ?_, by decide +kernel⟩
  obtain ⟨n, hn, -⟩ := hstated.minAge _ rfl
  cases hn

end ParameterSet

end StudySession

import StudySession.Study.Sampler

/-!
# Choosing a parameter set

The `random-parameter-set` sampler chooses one of a node's parameter sets, with weights that may
depend on the participant's age, and expands the node's `frameList` under it. A participant with a
recorded choice keeps it where the node asks for that.
-/

namespace StudySession

namespace ParameterSet

/-- A bound of an age bracket: the property where it is a non-negative integer, or else none. -/
def bound? (bracket : Json) (property : String) : Option Nat :=
  (bracket.field? property).bind Json.nat?

/-- Whether an age lies in a bracket, both ends included. -/
def covers (age : Nat) (bracket : Json) : Bool :=
  decide ((bound? bracket "minAge").getD 0 ≤ age ∧
    age ≤ (bound? bracket "maxAge").getD (Nat.pow 2 64 - 1))

/-- The weights of the first bracket that covers an age. -/
def bracketWeights (request : Request) (brackets : List Json) : Except StudyError (List Json) :=
  match request.ageInDays with
  | none => .error (request.lacking .ageUnknown)
  | some age =>
    match brackets.find? (covers age) with
    | none => .error (request.lacking (.ageNotCovered age))
    | some bracket =>
      match bracket.field? "weights" with
      | some (.arr weights) => .ok weights
      | _ => .error (request.malformed .bracketWithoutWeights)

/-- A weight: a number that is not negative. -/
def weight (request : Request) (j : Json) : Except StudyError Double :=
  match j.double? with
  | some w => if 0 ≤ w.units then .ok w else .error (request.malformed .weightNegative)
  | none => .error (request.malformed .weightNegative)

/-- The weights for the participant, one for each set; `none` where the node gives none. -/
def weights (request : Request) (count : Nat) : Except StudyError (Option (List Double)) := do
  match request.node.get? "parameterSetWeights" with
  | none => pure none
  | some (.arr entries) =>
    let chosen ←
      if !entries.isEmpty && entries.all (·.obj?.isSome) then bracketWeights request entries
      else pure entries
    let weights ← chosen.mapM (weight request)
    if weights.length = count then pure (some weights)
    else throw (request.malformed (.weightCount count weights.length))
  | some _ => throw (request.malformed (.propertyNotAnArray "parameterSetWeights"))

/-- The parameter sets, at least one. -/
def sets (request : Request) : Except StudyError (List Json) :=
  match request.node.get? "parameterSets" with
  | some (.arr (first :: rest)) => .ok (first :: rest)
  | _ => .error (request.lacking .noParameterSets)

/-- The choice that an earlier session recorded, where the node keeps it and it still exists. -/
def persisted? (request : Request) (count : Nat) : Option Nat :=
  match request.node.get? "conditionForAdditionalSessions" with
  | some (.str "persist") =>
    (request.previousCondition.bind (·.field? "conditionNum")).bind fun j =>
      j.nat?.filter (· < count)
  | _ => none

/-- Draws a set: by the weights where there are some, and else each as likely as another. -/
def drawSet (request : Request) (count : Nat) : Resolve Nat := do
  match ← Resolve.check (weights request count) with
  | none => Resolve.draw fun g => g.below count .word64
  | some weights =>
    match (← get).generator.weighted? weights with
    | none => throw (request.lacking .weightsZero)
    | some (chosen, generator) =>
      modify fun pass => { pass with generator }
      pure chosen

end ParameterSet

/-- Every member of `frameList`, under a parameter set chosen by weight. -/
def Sampler.randomParameterSet : Sampler where
  name := "random-parameter-set"
  choose request := do
    let sets ← Resolve.check (ParameterSet.sets request)
    let chosen ←
      match ParameterSet.persisted? request sets.length with
      | some chosen => pure chosen
      | none => ParameterSet.drawSet request sets.length
    match sets[chosen]? with
    | some (.obj parameters) =>
      let members ← Resolve.check request.frameList
      let _ ← Resolve.check request.common
      pure
        { property := "frameList"
          picks := List.range members.length
          parameters
          condition :=
            .obj [("conditionNum", .ofNat chosen), ("parameterSet", .obj parameters)] }
    | _ => throw (request.malformed .parameterSetNotAnObject)

end StudySession

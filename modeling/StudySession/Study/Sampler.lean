import StudySession.Study.Node
import StudySession.Study.Pass
import StudySession.Study.Session

/-!
# Samplers

A sampler chooses, at a sampler node, which members of one of the node's lists to expand and under
which further parameters, and says what to record of the choice. It chooses and draws, and leaves
the expansion to its caller.
-/

namespace StudySession

/-- What a sampler may look at. -/
structure Request where
  frameKey : String
  /-- The key of the sequence entry under which the node's frames are shown. -/
  sequenceKey : String
  /-- The key under which the choice is recorded. -/
  conditionKey : String
  node : Fields
  /-- The parameters in scope, the node's own among them. -/
  context : Fields
  pastSessions : List PastSession
  /-- The participant's age in days, if known. -/
  ageInDays : Option Nat

namespace Request

def malformed (request : Request) (fault : FrameFault) : StudyError :=
  .malformedFrame request.frameKey fault

/-- A lack of things to choose from at the node. -/
def lacking (request : Request) (shortage : Shortage) : StudyError :=
  .emptyOptions request.frameKey shortage

/-- The list property that holds the options: `frameOptions` if it is there, or else `frameList`. -/
def optionProperty (request : Request) : String :=
  if request.node.has "frameOptions" then "frameOptions" else "frameList"

/-- The options, at least one. -/
def options (request : Request) : Except StudyError (List Json) := do
  match ← Node.listProperty request.frameKey request.node request.optionProperty with
  | some (first :: rest) => pure (first :: rest)
  | _ => throw (request.lacking .noOptions)

/-- The members of `frameList`, at least one. -/
def frameList (request : Request) : Except StudyError (List Json) := do
  match ← Node.listProperty request.frameKey request.node "frameList" with
  | some (first :: rest) => pure (first :: rest)
  | _ => throw (request.lacking .noFrames)

def common (request : Request) : Except StudyError (Option Fields) :=
  Node.commonProperties request.frameKey request.node

/-- What the latest session that recorded a choice for this node recorded. -/
def previousCondition (request : Request) : Option Json :=
  request.pastSessions.findSome? (·.conditionFor request.conditionKey request.frameKey)

end Request

/-- A sampler's choice. -/
structure Choice where
  /-- The list property the members are taken from. -/
  property : String
  /-- The places of the chosen members, in the order of expansion. -/
  picks : List Nat
  parameters : Fields
  condition : Json

namespace Choice

/-- The chosen members of a node, each with its place. -/
def members (choice : Choice) (node : Fields) : List (Json × Nat) :=
  choice.picks.filterMap fun i => ((Node.membersOf node choice.property)[i]?).map (·, i)

/-- A chosen member is a member of the node's list. -/
theorem mem_membersOf {choice : Choice} {node : Fields} :
    ∀ member ∈ (choice.members node).map (·.1), member ∈ Node.membersOf node choice.property := by
  intro member h
  simp only [members, List.mem_map, List.mem_filterMap, Option.map_eq_some_iff] at h
  obtain ⟨_, ⟨i, _, item, found, rfl⟩, rfl⟩ := h
  exact List.mem_of_getElem? found

end Choice

/-- A sampler: the name under which nodes ask for it, and how it chooses. -/
structure Sampler where
  /-- The name in a node's `sampler` property. -/
  name : String
  choose : Request → Resolve Choice

end StudySession

import StudySession.Study.Registry

/-!
# Expanding frame nodes

`Resolver.expand` turns a node into the frames it shows and the conditions its samplers recorded:
a leaf is one frame with its placeholders replaced, a group is its members in order, and a sampler
is the members it chooses. A member is expanded with its node's common properties under its own, and
is less deep than the node it belongs to (`Node.depthFields_underlay_lt`), so expansion ends.
-/

namespace StudySession

/-- What a node expands to. -/
structure Expansion where
  /-- The frames in order, each with its properties. -/
  frames : List Fields
  /-- What each sampler recorded, by the key of its node. -/
  conditions : Fields

namespace Expansion

def empty : Expansion := ⟨[], []⟩

/-- The frames of both in order; of two conditions under one key the later counts. -/
def append (a b : Expansion) : Expansion :=
  ⟨a.frames ++ b.frames, a.conditions.mergeOver b.conditions⟩

end Expansion

/-- What expansion reads and never changes. -/
structure Resolver where
  registry : Registry
  pastSessions : List PastSession
  /-- The participant's age in days, if known. -/
  ageInDays : Option Nat

namespace Resolver

/-- The frame of a leaf: its properties but for the parameters, with placeholders replaced. -/
def expandLeaf (key : String) (node context : Fields) : Resolve Expansion := do
  let context ← Resolve.check (Node.scope key node context)
  let frame ← Resolve.substituteFields context (node.erase "parameters")
  pure ⟨[frame], []⟩

def request (r : Resolver) (pass : Pass) (key : String) (node context : Fields) : Request where
  frameKey := key
  sequenceKey := pass.sequenceKey.getD key
  conditionKey := toString pass.sequenceIndex ++ "_" ++ key
  node := node
  context := context
  pastSessions := r.pastSessions
  ageInDays := r.ageInDays

/-- A first component that does not grow and a second that shrinks make a pair smaller. -/
theorem lex_of_le_of_lt {α : Type} {lt : α → α → Prop} {a b : Nat} {c d : α} (first : a ≤ b)
    (second : lt c d) : Prod.Lex (· < ·) lt (a, c) (b, d) := by
  rcases Nat.lt_or_eq_of_le first with h | rfl
  · exact .left _ _ h
  · exact .right _ second

mutual

/-- Expands a node under the parameters it inherits. -/
def expand (r : Resolver) (key : String) (node context : Fields) : Resolve Expansion := do
  match ← Resolve.check (Node.classify key node) with
  | .leaf => expandLeaf key node context
  | .group =>
    let context ← Resolve.check (Node.scope key node context)
    let _ ← Resolve.check (Node.listProperty key node "frameList")
    let _ ← Resolve.check (Node.commonProperties key node)
    r.expandMembers key (Node.membersOf node "frameList").zipIdx (Node.commonOf node) context
  | .sampler name =>
    match r.registry.get? name with
    | none => throw (.unknownSampler key name)
    | some sampler =>
      let context ← Resolve.check (Node.scope key node context)
      let choice ← sampler.choose (r.request (← get) key node context)
      let chosen ← r.expandMembers key (choice.members node) (Node.commonOf node)
        (context.mergeOver choice.parameters)
      pure { chosen with conditions := chosen.conditions.insert key choice.condition }
termination_by (Json.depthFields node, 1, 0)
decreasing_by
  · exact lex_of_le_of_lt (Node.memberDepth_le fun member h => by simpa using h)
      (.left _ _ Nat.zero_lt_one)
  · exact lex_of_le_of_lt (Node.memberDepth_le Choice.mem_membersOf) (.left _ _ Nat.zero_lt_one)

/-- Expands members in order, each with the common properties under its own. -/
def expandMembers (r : Resolver) (parent : String) (members : List (Json × Nat))
    (common : Option Fields) (context : Fields) : Resolve Expansion := do
  match members with
  | [] => pure .empty
  | (.obj own, index) :: rest =>
    let member := Node.underlay common own
    let first ← r.expand (Node.memberKey parent index member) member context
    let others ← r.expandMembers parent rest common context
    pure (first.append others)
  | (_, index) :: _ =>
    throw (.malformedFrame (parent ++ "-" ++ toString index) .memberNotAnObject)
termination_by (Node.memberDepth (members.map (·.1)) common, 0, members.length)
decreasing_by
  · exact .left _ _ Node.depthFields_underlay_lt
  · exact lex_of_le_of_lt (Node.memberDepth_tail_le _ _ _) (.right _ (by simp))

end

def expandValue (r : Resolver) (key : String) (value : Json) (context : Fields) :
    Resolve Expansion :=
  match value with
  | .obj node => r.expand key node context
  | _ => throw (.malformedFrame key .notAnObject)

end Resolver

end StudySession

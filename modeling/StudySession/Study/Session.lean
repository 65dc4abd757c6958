import StudySession.Json.Record

/-!
# Sessions of a study

A `Protocol` is what a researcher authors: named frame nodes and the sequence in which a session
runs through them. A `PastSession` is what an earlier session left: the conditions it recorded and
the data of the frames it showed.

Frame ids are `<index>-<key>` or `<index>-<key>-<number>`, and conditions are recorded under
`<index>_<key>`, where the index is the place in the sequence; `hasCompleted` and `conditionFor`
read the two forms back.
-/

namespace StudySession

/-- An authored study. -/
structure Protocol where
  frames : Fields
  /-- The keys of the nodes a session runs through. -/
  sequence : List String

/-- Reads an authored study; both parts may be missing. -/
def Protocol.ofJson? (j : Json) : Option Protocol := do
  let fields ← j.record? ["frames", "sequence"]
  let frames ← Json.fieldOr fields "frames" [] Json.obj?
  let sequence ← Json.fieldOr fields "sequence" [] (Json.listOf? Json.str?)
  pure { frames, sequence }

/-- What an earlier session left. -/
structure PastSession where
  /-- The recorded choices, under `<index>_<key>`. -/
  conditions : Fields
  /-- The recorded data, under the ids of the frames shown. -/
  expData : Fields

/-- A whole number in decimal digits. -/
def isIndex (text : List Char) : Bool := !text.isEmpty && text.all Char.isDigit

/-- The rest of a list after a beginning. -/
def afterPrefix? {α : Type} [DecidableEq α] : List α → List α → Option (List α)
  | [], xs => some xs
  | p :: ps, x :: xs => if p = x then afterPrefix? ps xs else none
  | _ :: _, [] => none

/-- The list before an ending. -/
def beforeSuffix? {α : Type} [DecidableEq α] (ending xs : List α) : Option (List α) :=
  (afterPrefix? ending.reverse xs.reverse).map List.reverse

/-- Whether a frame id belongs to the frames of a sequence key: `<index>-<marker>`, or that with
`-<number>` after it. -/
def idCarries (marker : String) (frameId : String) : Bool :=
  let id := frameId.toList
  let index := id.takeWhile (· != '-')
  match id.drop index.length with
  | [] => false
  | _ :: key =>
    isIndex index &&
      match afterPrefix? marker.toList key with
      | some [] => true
      | some ('-' :: number) => isIndex number
      | _ => false

/-- Whether a condition key records a choice of a frame key at some place: `<index>_<key>`. -/
def keyRecords (frameKey : String) (conditionKey : String) : Bool :=
  match beforeSuffix? ('_' :: frameKey.toList) conditionKey.toList with
  | some index => isIndex index
  | none => false

namespace PastSession

/-- Reads an earlier session; both parts may be missing. -/
def ofJson? (j : Json) : Option PastSession := do
  let fields ← j.record? ["conditions", "expData"]
  let conditions ← Json.fieldOr fields "conditions" [] Json.obj?
  let expData ← Json.fieldOr fields "expData" [] Json.obj?
  pure { conditions, expData }

def toJson (s : PastSession) : Json :=
  .obj [("conditions", .obj s.conditions), ("expData", .obj s.expData)]

/-- Whether the session showed a frame of a sequence key. -/
def hasCompleted (s : PastSession) (marker : String) : Bool :=
  s.expData.keys.any (idCarries marker)

/-- The condition recorded under a key, or else the first one recorded for the same frame key at
another place of the sequence. -/
def conditionFor (s : PastSession) (conditionKey frameKey : String) : Option Json :=
  match s.conditions.get? conditionKey with
  | some condition => some condition
  | none => (s.conditions.find? fun entry => keyRecords frameKey entry.1).map (·.2)

end PastSession

end StudySession

import StudySession.Study.Resolver

/-!
# Resolving a study

`Study.resolve` runs through the sequence of a study and expands each entry in a pass of its own;
the random generator goes on from pass to pass. The frames of an entry get the ids `<index>-<key>`,
with `-<number>` after it unless the entry shows exactly one frame, and the conditions of an entry
are recorded under `<index>_<key>`.
-/

namespace StudySession

/-- A frame to show. -/
structure ResolvedFrame where
  /-- The id given to the frame; an authored one plays no part. -/
  id : String
  properties : Fields

namespace ResolvedFrame

def kind (frame : ResolvedFrame) : Option String := (frame.properties.get? "kind").bind Json.str?

/-- The frame as one object: its id, and then its properties, which would win. -/
def toJson (frame : ResolvedFrame) : Json :=
  .obj (Dict.mergeOver [("id", .str frame.id)] frame.properties)

/-- Reads a frame: its id, and all other fields as its properties. -/
def ofJson? (j : Json) : Option ResolvedFrame := do
  let fields ← j.obj?
  let id ← (fields.get? "id").bind Json.str?
  pure { id, properties := fields.erase "id" }

end ResolvedFrame

/-- What a session shows and records. -/
structure Resolution where
  frames : List ResolvedFrame
  /-- The recorded choices, under `<index>_<key>`. -/
  conditions : Fields

namespace Resolution

def toJson (r : Resolution) : Json :=
  .obj [("conditions", .obj r.conditions), ("frames", .arr (r.frames.map (·.toJson)))]

/-- Reads a resolution; neither part may be missing. -/
def ofJson? (j : Json) : Option Resolution := do
  let fields ← j.record? ["frames", "conditions"]
  let frames ← (fields.get? "frames").bind (Json.listOf? ResolvedFrame.ofJson?)
  let conditions ← (fields.get? "conditions").bind Json.obj?
  pure { frames, conditions }

end Resolution

/-- A study with everything that decides how it resolves but the random generator. -/
structure Study where
  protocol : Protocol
  resolver : Resolver
  /-- What to do with placeholders that name no parameter. -/
  policy : PlaceholderPolicy

namespace Study

/-- The id of a frame of an entry that shows `count` frames. -/
def frameId (index : Nat) (key : String) (count number : Nat) : String :=
  let id := toString index ++ "-" ++ key
  if count = 1 then id else id ++ "-" ++ toString number

/-- The frames of an entry with their ids. -/
def entryFrames (index : Nat) (key : String) (frames : List Fields) : List ResolvedFrame :=
  frames.zipIdx.map fun (properties, number) =>
    ⟨frameId index key frames.length number, properties.erase "id"⟩

/-- The conditions of an entry under the keys they are recorded under, put over earlier ones. -/
def recordConditions (index : Nat) (conditions recorded : Fields) : Fields :=
  conditions.foldl (fun d entry => d.insert (toString index ++ "_" ++ entry.1) entry.2) recorded

/-- Adds an entry's expansion to what the entries before it gave. -/
def addEntry (index : Nat) (key : String) (expansion : Expansion) (sofar : Resolution) :
    Resolution where
  frames := sofar.frames ++ entryFrames index key expansion.frames
  conditions := recordConditions index expansion.conditions sofar.conditions

/-- Expands one entry in a new pass. -/
def expandEntry (study : Study) (index : Nat) (key : String) (g : Generator) :
    Except StudyError Expansion × Generator :=
  match study.protocol.frames.get? key with
  | none => (.error (.unknownFrame key), g)
  | some node =>
    let (outcome, pass) :=
      (study.resolver.expandValue key node []).run (.start index (some key) study.policy g)
    (outcome, pass.generator)

/-- Expands the entries from a place of the sequence on. -/
def resolveFrom (study : Study) (index : Nat) (keys : List String) (sofar : Resolution)
    (g : Generator) : Except StudyError Resolution × Generator :=
  match keys with
  | [] => (.ok sofar, g)
  | key :: rest =>
    match study.expandEntry index key g with
    | (.error e, g) => (.error e, g)
    | (.ok expansion, g) =>
      study.resolveFrom (index + 1) rest (addEntry index key expansion sofar) g

/-- Resolves a study. The generator afterwards has spent every draw made, after an error too. -/
def resolve (study : Study) (g : Generator) : Except StudyError Resolution × Generator :=
  study.resolveFrom 0 study.protocol.sequence ⟨[], []⟩ g

end Study

end StudySession

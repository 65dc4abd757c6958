import StudySession.Json.Record
import StudySession.Recorder.Timestamp
import StudySession.Upload.Error

/-!
# Recorder events

A recorder tells its handlers what happens. The kinds of events are a closed set, and a handler that
asks for an unknown kind is refused when it registers.
-/

namespace StudySession

/-- The kinds of recorder events. -/
inductive EventKind where
  | installed
  | started
  | paused
  | resumed
  | stopped
  | uploadCompleted
  | uploadFailed
  | destroyed
  deriving DecidableEq, Repr

namespace EventKind

def all : List EventKind :=
  [installed, started, paused, resumed, stopped, uploadCompleted, uploadFailed, destroyed]

def name : EventKind → String
  | installed => "installed"
  | started => "started"
  | paused => "paused"
  | resumed => "resumed"
  | stopped => "stopped"
  | uploadCompleted => "upload-completed"
  | uploadFailed => "upload-failed"
  | destroyed => "destroyed"

def ofName? (name : String) : Option EventKind := all.find? (·.name == name)

end EventKind

/-- A recorder event. -/
inductive RecorderEvent where
  | installed (cameraId microphoneId : Option String)
  | started (videoId : String) (instant : Timestamp)
  | paused (atSeconds : Double)
  | resumed (atSeconds : Double)
  | stopped (videoId : String) (durationSeconds : Double)
  | uploadCompleted (key : String) (parts totalBytes : Nat)
  | uploadFailed (videoId error : String)
  | destroyed
  deriving DecidableEq, Repr

namespace RecorderEvent

def kind : RecorderEvent → EventKind
  | installed _ _ => .installed
  | started _ _ => .started
  | paused _ => .paused
  | resumed _ => .resumed
  | stopped _ _ => .stopped
  | uploadCompleted _ _ _ => .uploadCompleted
  | uploadFailed _ _ => .uploadFailed
  | destroyed => .destroyed

def fields : RecorderEvent → List (String × Json)
  | installed cameraId microphoneId =>
    [("camera_id", .ofOption .str cameraId), ("microphone_id", .ofOption .str microphoneId)]
  | started videoId instant => [("video_id", .str videoId), ("at", .str instant.text)]
  | paused atSeconds => [("at_seconds", .float atSeconds)]
  | resumed atSeconds => [("at_seconds", .float atSeconds)]
  | stopped videoId durationSeconds =>
    [("video_id", .str videoId), ("duration_seconds", .float durationSeconds)]
  | uploadCompleted key parts totalBytes =>
    [("key", .str key), ("parts", .ofNat parts), ("total_bytes", .ofNat totalBytes)]
  | uploadFailed videoId error => [("video_id", .str videoId), ("error", .str error)]
  | destroyed => []

/-- Writes an event, its kind as the field `type`. -/
def toJson (e : RecorderEvent) : Json := .ofFields (("type", .str e.kind.name) :: e.fields)

/-- The names of the fields of a kind, in declaration order. -/
def fieldNames : EventKind → List String
  | .installed => ["camera_id", "microphone_id"]
  | .started => ["video_id", "at"]
  | .paused | .resumed => ["at_seconds"]
  | .stopped => ["video_id", "duration_seconds"]
  | .uploadCompleted => ["key", "parts", "total_bytes"]
  | .uploadFailed => ["video_id", "error"]
  | .destroyed => []

/-- Reads an event of a kind from its fields; only the devices may be missing. -/
def ofFields? (kind : EventKind) (fields : Fields) : Option RecorderEvent := do
  let text (name : String) : Option String := (fields.get? name).bind Json.str?
  let seconds (name : String) : Option Double := (fields.get? name).bind Json.double?
  let count (name : String) : Option Nat := (fields.get? name).bind Json.nat64?
  match kind with
  | .installed =>
    let cameraId ← Json.fieldOr fields "camera_id" none (Json.nullable Json.str?)
    let microphoneId ← Json.fieldOr fields "microphone_id" none (Json.nullable Json.str?)
    pure (.installed cameraId microphoneId)
  | .started => pure (.started (← text "video_id") (← (← text "at") |> Timestamp.ofText?))
  | .paused => pure (.paused (← seconds "at_seconds"))
  | .resumed => pure (.resumed (← seconds "at_seconds"))
  | .stopped => pure (.stopped (← text "video_id") (← seconds "duration_seconds"))
  | .uploadCompleted =>
    pure (.uploadCompleted (← text "key") (← count "parts") (← count "total_bytes"))
  | .uploadFailed => pure (.uploadFailed (← text "video_id") (← text "error"))
  | .destroyed => pure .destroyed

/-- Reads an event: an object with its kind as `type`, or an array of its kind and all its fields in
declaration order. -/
def ofJson? : Json → Option RecorderEvent
  | .obj fields => do
    let name ← (Dict.get? fields "type").bind Json.str?
    let kind ← EventKind.ofName? name
    ofFields? kind fields
  | .arr (.str name :: items) => do
    let kind ← EventKind.ofName? name
    if items.length = (fieldNames kind).length then
      ofFields? kind (Dict.ofList ((fieldNames kind).zip items))
    else none
  | _ => none

end RecorderEvent

/-- Handlers in the order of registration, each with the kind it asked for. Handlers are known by a
number. -/
structure Emitter where
  handlers : List (EventKind × Nat)
  heard : List (Nat × RecorderEvent)

namespace Emitter

def empty : Emitter := ⟨[], []⟩

def on (e : Emitter) (kind : EventKind) (handler : Nat) : Emitter :=
  { e with handlers := e.handlers ++ [(kind, handler)] }

def emit (e : Emitter) (event : RecorderEvent) : Emitter :=
  { e with
    heard := e.heard ++
      (e.handlers.filter (·.1 == event.kind)).map fun handler => (handler.2, event) }

/-- A one-line description: the number of handlers. -/
def describe (e : Emitter) : String :=
  "EventEmitter \x7b handlers: " ++ toString e.handlers.length ++ " \x7d"

end Emitter

end StudySession

import StudySession.Json.Record

/-!
# Capture devices
-/

namespace StudySession

/-- A camera and a microphone, each where one is chosen. -/
structure DeviceChoice where
  cameraId : Option String := none
  microphoneId : Option String := none
  deriving DecidableEq, Repr

namespace DeviceChoice

/-- Reads a choice: an object whose fields may be missing, or an array of both. -/
def ofJson? (j : Json) : Option DeviceChoice := do
  let fields ← j.record? ["camera_id", "microphone_id"]
  if j.arr?.any (·.length != 2) then none
  else
    let cameraId ← Json.fieldOr fields "camera_id" none (Json.nullable Json.str?)
    let microphoneId ← Json.fieldOr fields "microphone_id" none (Json.nullable Json.str?)
    pure { cameraId, microphoneId }

def toJson (c : DeviceChoice) : Json :=
  .obj [("camera_id", .ofOption .str c.cameraId), ("microphone_id", .ofOption .str c.microphoneId)]

/-- The preferred devices, and the available ones where there is no preference. -/
def orElse (preferred available : DeviceChoice) : DeviceChoice :=
  ⟨preferred.cameraId <|> available.cameraId, preferred.microphoneId <|> available.microphoneId⟩

end DeviceChoice

end StudySession

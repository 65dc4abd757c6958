import StudySession.Dict
import StudySession.Recorder.Devices

/-!
# Capture devices under a script

A `Capture` opens devices and emits the chunks of a recording. Its calls are noted, and fail as a
script says. At most one stream of chunks is open: from a successful start to a successful stop or
to the release of the devices.
-/

namespace StudySession

/-- A capture device. -/
structure Capture where
  available : DeviceChoice
  /-- How the next calls of each name fail; those without a text, and those beyond, succeed. -/
  failures : Dict (List (Option String))
  calls : List String
  stream : Option Nat

namespace Capture

/-- Notes a call and takes its failure from the script. -/
def call (c : Capture) (name : String) : Option String × Capture :=
  let c := { c with calls := c.calls ++ [name] }
  match c.failures.get? name with
  | some (failure :: rest) => (failure, { c with failures := c.failures.insert name rest })
  | _ => (none, c)

/-- Opens the preferred devices, or the available ones. -/
def install (c : Capture) (preferred : DeviceChoice) : Except String DeviceChoice × Capture :=
  match c.call "install" with
  | (some failure, c) => (.error failure, c)
  | (none, c) => (.ok (preferred.orElse c.available), c)

/-- Opens the stream of a recording, with a chunk for each timeslice. -/
def start (c : Capture) (recording timesliceMs : Nat) : Except String Unit × Capture :=
  match c.call "start" with
  | (some failure, c) => (.error failure, c)
  | (none, c) =>
    (.ok (),
      { c with
        calls := c.calls ++ ["timeslice " ++ toString timesliceMs]
        stream := some recording })

/-- A call that leaves the stream as it is. -/
def simple (c : Capture) (name : String) : Except String Unit × Capture :=
  match c.call name with
  | (some failure, c) => (.error failure, c)
  | (none, c) => (.ok (), c)

def stop (c : Capture) : Except String Unit × Capture :=
  match c.call "stop" with
  | (some failure, c) => (.error failure, c)
  | (none, c) => (.ok (), { c with stream := none })

/-- Releases the devices, which cannot fail, and closes the stream. -/
def release (c : Capture) : Capture :=
  { c with calls := c.calls ++ ["release"], stream := none }

end Capture

end StudySession

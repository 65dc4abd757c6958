import StudySession.Recorder.Capture
import StudySession.Recorder.Clock
import StudySession.Recorder.Config
import StudySession.Recorder.Event
import StudySession.Upload.Timeline

/-!
# Video recorders

A `Recorder` takes a capture device from installation to release, and sends each recording to a
store. Every recording has a pump of its own, which reads the chunks of its stream into an upload
and completes the upload when the stream has ended; a pump goes on when the recorder has ceased to
wait for it.

`Recorder.begin` begins a command. A command that has to wait says for what (`Waiting`), and goes on
by `Recorder.resume` when the store has answered, or by `Recorder.conclude` when its pump has ended
or the time is up. `Recorder.run` lets virtual time pass in between.
-/

namespace StudySession

/-- The states of a recorder. -/
inductive RecorderState where
  | uninitialized
  | installed
  | recording
  | paused
  | stopped
  | destroyed
  deriving DecidableEq, Repr

def RecorderState.name : RecorderState → String
  | uninitialized => "uninitialized"
  | installed => "installed"
  | recording => "recording"
  | paused => "paused"
  | stopped => "stopped"
  | destroyed => "destroyed"

/-- A command to a recorder. -/
inductive RecorderCommand where
  | install
  | start (name : String)
  | pause
  | resume
  | stop
  | destroy
  deriving DecidableEq, Repr

def RecorderCommand.name : RecorderCommand → String
  | install => "install"
  | start _ => "start"
  | pause => "pause"
  | resume => "resume"
  | stop => "stop"
  | destroy => "destroy"

/-- The error of a recorder. -/
inductive RecorderError where
  /-- A command does not fit the state. -/
  | invalidTransition (state : RecorderState) (command : RecorderCommand)
  | unknownEvent (name : String)
  /-- The capture device failed. -/
  | capture (reason : String)
  | upload (error : UploadError)
  deriving DecidableEq, Repr

def RecorderError.message : RecorderError → String
  | invalidTransition state command =>
    "Cannot " ++ command.name ++ " while recorder is " ++ state.name
  | unknownEvent name => "Unknown recorder event '" ++ name ++ "'"
  | capture reason => "Media capture failed: " ++ reason
  | upload error => "Upload error: " ++ error.message

/-- What a command that succeeds answers. -/
inductive RecorderReply where
  | devices (choice : DeviceChoice)
  | done
  | uploaded (upload : CompletedUpload)
  deriving DecidableEq

/-- Reads the chunks of a recording's stream into its upload. -/
structure Pump where
  /-- The chunks that have arrived and are not read, in order. -/
  queue : List ByteArray
  ended : Bool
  running : Bool
  result : Option (Except UploadError CompletedUpload)

/-- A pump before the start of its recording. -/
def Pump.idle : Pump := ⟨[], false, false, none⟩

/-- A video recorder and what it works with. Pumps and uploads of the same place belong together. -/
structure Recorder where
  config : RecorderConfig
  uploadConfig : UploadConfig
  timeline : Timeline
  pumps : List Pump
  capture : Capture
  devices : DeviceChoice
  emitter : Emitter
  /-- The instant at which the clock stood at zero. -/
  origin : Timestamp
  state : RecorderState
  videoId : Option String
  /-- The place of the upload that stopping will wait for. -/
  upload : Option Nat
  clock : RecordingClock

/-- What a command waits for. -/
inductive Waiting where
  /-- The creation of a recording's upload. -/
  | creating (i : Nat) (name : String)
  /-- The end of an upload that is given up because the capture device failed. -/
  | undoing (i : Nat) (reason : String)
  /-- The end of a recording's pump, up to an instant. -/
  | uploading (i : Nat) (deadline : Nat)

/-- The place of the recording that a command waits for. -/
def Waiting.place : Waiting → Nat
  | creating i _ | undoing i _ | uploading i _ => i

/-- How a command stands. -/
inductive Progress where
  | ended (result : Except RecorderError RecorderReply)
  | waiting (w : Waiting)

namespace Recorder

def new (config : RecorderConfig) (uploadConfig : UploadConfig) (timeline : Timeline)
    (capture : Capture) (devices : DeviceChoice) (origin : Timestamp) : Recorder where
  config := config
  uploadConfig := uploadConfig
  timeline := timeline
  pumps := []
  capture := capture
  devices := devices
  emitter := .empty
  origin := origin
  state := .uninitialized
  videoId := none
  upload := none
  clock := {}

def now (r : Recorder) : Nat := r.timeline.now

/-- The present instant of the calendar. -/
def timestamp (r : Recorder) : Timestamp :=
  ⟨r.origin.seconds + (r.now / 1000 : Nat), r.origin.nanoseconds + r.now % 1000 * 1000000⟩

def seconds (r : Recorder) : Double := r.clock.seconds r.now

def emit (r : Recorder) (event : RecorderEvent) : Recorder :=
  { r with emitter := r.emitter.emit event }

/-- Registers a handler for the events of a name, and answers how many handlers there are. -/
def on (r : Recorder) (name : String) (handler : Nat) : Except RecorderError Nat × Recorder :=
  match EventKind.ofName? name with
  | none => (.error (.unknownEvent name), r)
  | some kind =>
    let emitter := r.emitter.on kind handler
    (.ok emitter.handlers.length, { r with emitter })

/-- Refuses a command that does not fit the state. -/
def refuse (r : Recorder) (c : RecorderCommand) : Recorder × Progress :=
  (r, .ended (.error (.invalidTransition r.state c)))

def modifyPump (r : Recorder) (i : Nat) (f : Pump → Pump) : Recorder :=
  { r with pumps := r.pumps.modify i f }

/-- Ends the stream of a recording and wakes its pump. -/
def endStream (r : Recorder) : Option Nat → Recorder
  | none => r
  | some i =>
    { r.modifyPump i fun p => { p with ended := true } with timeline := r.timeline.wake i }

def install (r : Recorder) : Recorder × Progress :=
  match r.capture.install r.devices with
  | (.error reason, capture) => ({ r with capture }, .ended (.error (.capture reason)))
  | (.ok chosen, capture) =>
    let r := { r with capture, devices := chosen, state := .installed }
    (r.emit (.installed chosen.cameraId chosen.microphoneId), .ended (.ok (.devices chosen)))

def start (r : Recorder) (name : String) : Recorder × Progress :=
  let i := r.timeline.uploads.length
  let timeline := r.timeline.add (.new r.uploadConfig name)
  ({ r with timeline := (timeline.command i .create).1, pumps := r.pumps ++ [.idle] },
    .waiting (.creating i name))

/-- Starts a recording whose upload has been created; where the capture device fails, the upload is
given up. -/
def record (r : Recorder) (i : Nat) (name : String) : Recorder × Progress :=
  match r.capture.start i r.config.timesliceMs with
  | (.error reason, capture) =>
    let (timeline, result) := r.timeline.command i .abort
    ({ r with capture, timeline },
      match result with
      | some _ => .ended (.error (.capture reason))
      | none => .waiting (.undoing i reason))
  | (.ok (), capture) =>
    let r := { r with
      capture, upload := some i, videoId := some name, clock := .start r.now, state := .recording }
    let r := r.modifyPump i fun p => { p with running := true }
    (r.emit (.started name r.timestamp), .ended (.ok .done))

def pause (r : Recorder) : Recorder × Progress :=
  match r.capture.simple "pause" with
  | (.error reason, capture) => ({ r with capture }, .ended (.error (.capture reason)))
  | (.ok (), capture) =>
    let r := { r with capture, clock := r.clock.pause r.now, state := .paused }
    (r.emit (.paused r.seconds), .ended (.ok .done))

def resumeRecording (r : Recorder) : Recorder × Progress :=
  match r.capture.simple "resume" with
  | (.error reason, capture) => ({ r with capture }, .ended (.error (.capture reason)))
  | (.ok (), capture) =>
    let r := { r with capture, clock := r.clock.resume r.now, state := .recording }
    (r.emit (.resumed r.seconds), .ended (.ok .done))

/-- Tells how the upload of the latest recording ended. -/
def conclude (r : Recorder) (outcome : Except UploadError CompletedUpload) : Recorder × Progress :=
  match outcome with
  | .ok upload =>
    (r.emit (.uploadCompleted upload.key upload.parts.length upload.totalBytes),
      .ended (.ok (.uploaded upload)))
  | .error e =>
    (r.emit (.uploadFailed (r.videoId.getD "") e.message), .ended (.error (.upload e)))

/-- Stops the recording and waits for its upload. -/
def stop (r : Recorder) : Recorder × Progress :=
  match r.capture.stop with
  | (.error reason, capture) => ({ r with capture }, .ended (.error (.capture reason)))
  | (.ok (), capture) =>
    let r := r.endStream r.capture.stream
    let r := { r with capture, clock := r.clock.stop r.now, state := .stopped }
    let r := r.emit (.stopped (r.videoId.getD "") r.seconds)
    match r.upload with
    | none => (r, .ended (.error (.upload .notStarted)))
    | some i =>
      ({ r with upload := none }, .waiting (.uploading i (r.now + r.config.uploadTimeoutMs)))

def release (r : Recorder) : Recorder × Progress :=
  let r := r.endStream r.capture.stream
  let r := { r with capture := r.capture.release, state := .destroyed }
  (r.emit .destroyed, .ended (.ok .done))

/-- Stops a recording without waiting for its upload, and releases the devices. -/
def destroy (r : Recorder) : Recorder × Progress :=
  if r.state = .recording ∨ r.state = .paused then
    match r.capture.stop with
    | (.error reason, capture) => ({ r with capture }, .ended (.error (.capture reason)))
    | (.ok (), capture) =>
      let r := r.endStream r.capture.stream
      release { r with capture, clock := r.clock.stop r.now, upload := none }
  else release r

def begin (r : Recorder) (c : RecorderCommand) : Recorder × Progress :=
  match c, r.state with
  | .install, .uninitialized => r.install
  | .start name, .installed | .start name, .stopped => r.start name
  | .pause, .recording => r.pause
  | .resume, .paused => r.resumeRecording
  | .stop, .recording | .stop, .paused => r.stop
  | .destroy, .destroyed => (r, .ended (.ok .done))
  | .destroy, _ => r.destroy
  | c, _ => r.refuse c

/-- Goes on with a command when the store has answered. -/
def resume (r : Recorder) (w : Waiting) (result : Except UploadError Outcome) :
    Recorder × Progress :=
  match w with
  | .creating i name =>
    match result with
    | .error e => (r, .ended (.error (.upload e)))
    | .ok _ => r.record i name
  | .undoing _ reason => (r, .ended (.error (.capture reason)))
  | .uploading _ _ => (r, .waiting w)

/-- Reads chunks until the upload has to wait, one of them is refused, or there are none; completes
the upload after the last one of a stream that has ended. -/
def readChunks (t : Timeline) (i : Nat) (p : Pump) : List ByteArray → Timeline × Pump
  | [] =>
    if p.ended then
      match t.command i .complete with
      | (t, none) => (t, { p with queue := [] })
      | (t, some result) => (t, ended p result)
    else (t, { p with queue := [] })
  | chunk :: rest =>
    match t.command i (.accept chunk) with
    | (t, none) => (t, { p with queue := rest })
    | (t, some (.ok _)) => readChunks t i p rest
    | (t, some (.error e)) => (t, ended p (.error e))
where
  ended (p : Pump) : Except UploadError Outcome → Pump
    | .ok (.completed upload) =>
      { p with queue := [], running := false, result := some (.ok upload) }
    | .ok _ => p
    | .error e => { p with queue := [], running := false, result := some (.error e) }

/-- Lets the pump of a recording read, unless its upload is waiting. -/
def runPump (r : Recorder) (i : Nat) : Recorder :=
  match r.pumps[i]?, r.timeline.uploads[i]? with
  | some p, some upload =>
    if p.running ∧ upload.awaiting.isNone then
      let (timeline, p) := readChunks r.timeline i p p.queue
      { r with timeline, pumps := r.pumps.set i p }
    else r
  | _, _ => r

/-- Tells the pump of a recording what its upload has done. -/
def notice (r : Recorder) : Notice → Recorder
  | .woke i => r.runPump i
  | .finished i result =>
    match r.pumps[i]? with
    | some p =>
      if p.running then
        let r := { r with pumps := r.pumps.set i (readChunks.ended p result) }
        r.runPump i
      else r
    | none => r

/-- Lets the next thing due before a limit happen. -/
def pop? (r : Recorder) (limit : Option Nat) : Option (Recorder × Option Notice) :=
  (r.timeline.pop? limit).map fun (timeline, n) => ({ r with timeline }, n)

/-- A bound on what one command can lead to. -/
def budget (r : Recorder) : Nat :=
  r.timeline.budget (r.pumps.foldl (fun n pump => n + pump.queue.length) 0)

/-- Lets everything due before an instant happen. -/
def settleBefore (r : Recorder) (limit : Nat) : Nat → Recorder
  | 0 => r
  | fuel + 1 =>
    match r.pop? (some limit) with
    | none => r
    | some (r, some n) => settleBefore (r.notice n) limit fuel
    | some (r, none) => settleBefore r limit fuel

def moveTo (r : Recorder) (instant : Nat) : Recorder :=
  { r with timeline := { r.timeline with now := max r.now instant } }

/-- Lets everything due up to an instant happen, and moves the clock to it. -/
def passTo (r : Recorder) (instant : Nat) : Recorder :=
  (r.settleBefore (instant + 1) r.budget).moveTo instant

def untilEnded (r : Recorder) (progress : Progress) :
    Nat → Recorder × Option (Except RecorderError RecorderReply)
  | 0 => (r, none)
  | fuel + 1 =>
    match progress with
    | .ended result => (r, some result)
    | .waiting (.uploading i deadline) =>
      match (r.pumps[i]?).bind (·.result) with
      | some outcome =>
        let (r, progress) := r.conclude outcome
        untilEnded r progress fuel
      | none =>
        match r.pop? (some deadline) with
        | none =>
          let (r, progress) :=
            (r.moveTo deadline).conclude
              (.error (.timeout (.ofMilliseconds r.config.uploadTimeoutMs)))
          untilEnded r progress fuel
        | some (r, n) => untilEnded (n.elim r r.notice) progress fuel
    | .waiting w =>
      match r.pop? none with
      | none => (r, none)
      | some (r, some (.finished j result)) =>
        if j = w.place then
          let (r, progress) := r.resume w result
          untilEnded r progress fuel
        else untilEnded (r.notice (.finished j result)) progress fuel
      | some (r, n) => untilEnded (n.elim r r.notice) progress fuel

/-- Gives a command and lets time pass until it has ended and everything due by then has happened. -/
def run (r : Recorder) (c : RecorderCommand) :
    Recorder × Option (Except RecorderError RecorderReply) :=
  let (r, progress) := r.begin c
  let (r, result) := r.untilEnded progress (r.budget + 4)
  (r.passTo r.now, result)

/-- Emits a chunk into the open stream: whether a pump reads it, and none if no stream is open. -/
def send (r : Recorder) (chunk : ByteArray) : Recorder × Option Bool :=
  match r.capture.stream with
  | none => (r, none)
  | some i =>
    if (r.pumps[i]?).any (·.running) then
      let r := r.modifyPump i fun p => { p with queue := p.queue ++ [chunk] }
      let r := { r with timeline := r.timeline.wake i }
      (r.passTo r.now, some true)
    else (r, some false)

end Recorder

end StudySession

import StudySession.Proofs.Recorder.Courses

/-!
# What is in front of a recording

The `Front` of a scene is what its commands decide on: the capture device, the handlers, the state,
and what is waited for. Of the uploads behind it counts only which objects they are for, and what
the pumps have come to. `Front.Step` lists all that can happen to a front, with what is seen of it:
every turn of a course is one of these steps (`Scene.front_step`). What commands do on the capture
device and tell the handlers is read off from there, not from the recorder's functions.
-/

namespace StudySession

/-! ## The objects of uploads -/

namespace Upload

theorem key_afterPart (u : Upload) : u.afterPart.1.session.key = u.session.key :=
  (follows_afterPart u).key

theorem key_conclude (s : Session) (purpose : Purpose) (attempt : Nat)
    (answer : Except StoreError String) :
    (conclude s purpose attempt answer).1.session.key = s.key := by
  cases purpose with
  | completing id listed total =>
      cases answer with
      | ok tag => rfl
      | error e => exact (follows_fail s _).key
  | _ => cases answer <;> rfl

/-- An upload keeps its object. -/
theorem key_react (u : Upload) (event : Event) : (u.react event).1.session.key = u.session.key := by
  cases event with
  | command c =>
      rw [react]
      split
      · exact (follows_begin u.session c).key
      · rfl
  | answered who answer =>
      cases who with
      | owner =>
          rw [react, ownerAnswered]
          split
          · next purpose call attempt hawaiting =>
              dsimp only
              split
              · rfl
              · exact key_conclude _ _ _ _
          · rfl
      | part number =>
          rw [react, partAnswered]
          dsimp only
          split
          · rfl
          · split
            · exact key_afterPart _
            · split
              · rfl
              · exact key_afterPart _
  | died who =>
      cases who with
      | owner => rfl
      | part number =>
          rw [react, partDied]
          split
          · exact key_afterPart _
          · rfl

end Upload

namespace Timeline

/-- The object of each upload. -/
def keys (t : Timeline) : List String := t.uploads.map (·.session.key)

@[simp] theorem keys_happen (t : Timeline) (i : Nat) (event : Event) :
    (t.happen i event).1.keys = t.keys := by
  cases found : t.uploads[i]? with
  | none => rw [happen_eq_self found]
  | some u =>
      obtain ⟨agenda, heq, -⟩ := happen_eq found event
      obtain ⟨hi, rfl⟩ := List.getElem?_eq_some_iff.1 found
      have hi' : i < t.keys.length := by rwa [keys, List.length_map]
      have hkey : t.keys[i] = t.uploads[i].session.key := by simp only [keys, List.getElem_map]
      rw [heq, keys, List.map_set, Upload.key_react, ← hkey]
      exact List.set_getElem_self hi'

@[simp] theorem keys_command (t : Timeline) (i : Nat) (c : Command) :
    (t.command i c).1.keys = t.keys :=
  keys_happen t i (.command c)

@[simp] theorem keys_add (t : Timeline) (u : Upload) :
    (t.add u).keys = t.keys ++ [u.session.key] := by
  rw [keys, add, List.map_append]
  rfl

/-- What is completed is the object of the upload. -/
theorem key_of_completed {t : Timeline} {i : Nat} {event : Event} {c : CompletedUpload}
    (h : (t.happen i event).2 = some (.ok (.completed c))) : t.keys[i]? = some c.key := by
  cases found : t.uploads[i]? with
  | none => rw [happen_eq_self found] at h; cases h
  | some u =>
      obtain ⟨agenda, heq, -⟩ := happen_eq found event
      rw [heq] at h
      obtain ⟨id, listed, total, call, attempt, tag, -, -, rfl, -⟩ :=
        Upload.react_completed (Prod.mk.eta (p := u.react event)).symm (Effect.mem_of_ending? h)
      rw [keys, List.getElem?_map, found]
      rfl

/-- A command by itself completes nothing. -/
theorem command_ne_completed (t : Timeline) (i : Nat) (c : Command) (upload : CompletedUpload) :
    (t.command i c).2 ≠ some (.ok (.completed upload)) := by
  intro h
  rw [command] at h
  cases found : t.uploads[i]? with
  | none => rw [happen_eq_self found] at h; cases h
  | some u =>
      obtain ⟨agenda, heq, -⟩ := happen_eq found (.command c)
      rw [heq] at h
      have hcompleted := Effect.mem_of_ending? h
      obtain ⟨id, listed, total, call, attempt, tag, hevent, -⟩ :=
        Upload.react_completed (Prod.mk.eta (p := u.react (.command c))).symm hcompleted
      cases hevent

/-- What occurs leaves the objects, and tells of a completion that of its upload. -/
theorem keys_of_occur? {t t' : Timeline} {k now : Nat} {contact : Option Contact}
    {notice : Option Notice} (h : t.occur? k now = some (contact, t', notice)) :
    t'.keys = t.keys ∧ ∀ i c, notice = some (.finished i (.ok (.completed c))) →
      t.keys[i]? = some c.key := by
  obtain ⟨a, rest, -, hoccurs⟩ := occurs_of_occur? h
  have hended : ∀ (before : Timeline) event, before.keys = t.keys →
      (before.happen a.upload event).1.keys = t.keys ∧ ∀ i c,
        (before.happen a.upload event).2.map (Notice.finished a.upload) =
          some (.finished i (.ok (.completed c))) → t.keys[i]? = some c.key := by
    intro before event hkeys
    refine ⟨by rw [keys_happen, hkeys], fun i c hnotice => ?_⟩
    obtain ⟨result, hresult, heq⟩ := Option.map_eq_some_iff.1 hnotice
    obtain ⟨rfl, rfl⟩ := Notice.finished.inj heq
    rw [← hkeys]
    exact key_of_completed hresult
  cases hoccurs with
  | woke due => exact ⟨rfl, by simp⟩
  | missed due unexpected => exact ⟨rfl, by simp⟩
  | made due taken => exact ⟨rfl, by simp⟩
  | passed due expected performed => exact hended _ _ rfl
  | failed due expected => exact hended _ _ rfl
  | died due expected => exact hended _ _ rfl

end Timeline

/-! ## Pumps -/

namespace Recorder

theorem result_ended {p : Pump} {result : Except UploadError Outcome} {c : CompletedUpload}
    (h : (readChunks.ended p result).result = some (.ok c)) :
    p.result = some (.ok c) ∨ result = .ok (.completed c) := by
  unfold readChunks.ended at h
  split at h
  · obtain rfl := Except.ok.inj (Option.some.inj h)
    exact .inr rfl
  · exact .inl h
  · cases Option.some.inj h

/-- A pump that reads leaves the objects, and completes nothing by that. -/
theorem readChunks_kept (t : Timeline) (i : Nat) (p : Pump) (chunks : List ByteArray) :
    (readChunks t i p chunks).1.keys = t.keys ∧ ∀ c,
      (readChunks t i p chunks).2.result = some (.ok c) → p.result = some (.ok c) := by
  induction chunks generalizing t with
  | nil =>
      have hkeys := Timeline.keys_command t i .complete
      have hnone := Timeline.command_ne_completed t i .complete
      rw [readChunks]
      split
      · generalize t.command i .complete = out at hkeys hnone
        obtain ⟨t', result⟩ := out
        cases result with
        | none => exact ⟨hkeys, fun c h => h⟩
        | some result =>
            refine ⟨hkeys, fun c h => ?_⟩
            rcases result_ended h with hbefore | rfl
            · exact hbefore
            · exact absurd rfl (hnone c)
      · exact ⟨rfl, fun c h => h⟩
  | cons chunk rest ih =>
      have hkeys := Timeline.keys_command t i (.accept chunk)
      rw [readChunks]
      generalize t.command i (.accept chunk) = out at hkeys
      obtain ⟨t', result⟩ := out
      cases result with
      | none => exact ⟨hkeys, fun c h => h⟩
      | some result =>
          cases result with
          | error e => exact ⟨hkeys, fun c h => by cases Option.some.inj h⟩
          | ok outcome =>
              obtain ⟨hlater, hresult⟩ := ih t'
              exact ⟨hlater.trans hkeys, hresult⟩

/-- What the pumps have come to. -/
def results (r : Recorder) : List (Option (Except UploadError CompletedUpload)) :=
  r.pumps.map (·.result)

/-- What is sent to a pump says nothing of what it comes to. -/
theorem results_modify (pumps : List Pump) (i : Nat) {f : Pump → Pump}
    (hf : ∀ p, (f p).result = p.result) :
    (pumps.modify i f).map (·.result) = pumps.map (·.result) := by
  refine List.ext_getElem? fun j => ?_
  rw [List.getElem?_map, List.getElem?_map, List.getElem?_modify, Option.map_eq_map,
    Option.map_map]
  refine congrArg (Option.map · pumps[j]?) (funext fun p => ?_)
  dsimp only [Function.comp_apply]
  split
  · exact hf p
  · rfl

theorem getElem?_results_set {pumps : List Pump} {i j : Nat} {p : Pump}
    {result : Option (Except UploadError CompletedUpload)}
    (h : ((pumps.set i p).map (·.result))[j]? = some result) :
    (pumps.map (·.result))[j]? = some result ∨ j = i ∧ p.result = result := by
  rw [List.getElem?_map] at h ⊢
  obtain ⟨q, hq, hresult⟩ := Option.map_eq_some_iff.1 h
  rcases eq_or_getElem?_of_set hq with ⟨rfl, rfl⟩ | ⟨-, hq⟩
  · exact .inr ⟨rfl, hresult⟩
  · rw [hq]
    exact .inl (congrArg some hresult)

end Recorder

/-! ## Fronts -/

/-- The calls of a capture device. -/
inductive DeviceCall where
  | install
  | start
  | pause
  | resume
  | stop
  | release
  deriving DecidableEq, Repr

/-- Why a call on a capture device failed, if it did. -/
def failure? {α : Type} : Except String α → Option String
  | .ok _ => none
  | .error reason => some reason

/-- A call on a capture device, how it fails if it does, and the device after it. -/
inductive Capture.Tries (c : Capture) : DeviceCall → Option String → Capture → Prop where
  | install (preferred : DeviceChoice) :
      Tries c .install (failure? (c.install preferred).1) (c.install preferred).2
  | start (recording timesliceMs : Nat) :
      Tries c .start (failure? (c.start recording timesliceMs).1) (c.start recording timesliceMs).2
  | pause : Tries c .pause (failure? (c.simple "pause").1) (c.simple "pause").2
  | resume : Tries c .resume (failure? (c.simple "resume").1) (c.simple "resume").2
  | stop : Tries c .stop (failure? c.stop.1) c.stop.2
  | release : Tries c .release none c.release

/-- What the commands of a recorder decide on. -/
structure Front where
  capture : Capture
  emitter : Emitter
  state : RecorderState
  videoId : Option String
  /-- The place of the upload that stopping will wait for. -/
  upload : Option Nat
  waiting : Option Waiting
  /-- The object of each upload. -/
  keys : List String
  /-- What each pump has come to. -/
  results : List (Option (Except UploadError CompletedUpload))

/-- What is seen of a turn: the command or the handler that it brings, and what the command that
ends with it answers. -/
structure Label where
  command? : Option RecorderCommand
  handler? : Option Nat
  result? : Option (Except RecorderError RecorderReply)

def Turn.label (t : Turn) : Label := ⟨t.command?, t.handler?, t.result?⟩

def Scene.front (s : Scene) : Front where
  capture := s.recorder.capture
  emitter := s.recorder.emitter
  state := s.recorder.state
  videoId := s.recorder.videoId
  upload := s.recorder.upload
  waiting := s.waiting
  keys := s.recorder.timeline.keys
  results := s.recorder.results

/-- The state that a successful call on the capture device leads to, where there is to be one. -/
def RecorderState.use? : RecorderState → DeviceCall → Option RecorderState
  | .uninitialized, .install => some .installed
  | .installed, .start | .stopped, .start => some .recording
  | .recording, .pause => some .paused
  | .paused, .resume => some .recording
  | .recording, .stop | .paused, .stop => some .stopped
  | .uninitialized, .release | .installed, .release | .stopped, .release => some .destroyed
  | _, _ => none

/-- Everything that can happen to a front, with what is seen of it. -/
inductive Front.Step (f : Front) : Label → Front → Prop where
  /-- Pumps go on; one that completes its upload made the upload's object. -/
  | behind {results : List (Option (Except UploadError CompletedUpload))}
      (kept : ∀ (i : Nat) (c : CompletedUpload), results[i]? = some (some (.ok c)) →
        f.results[i]? = some (some (.ok c)) ∨ f.keys[i]? = some c.key) :
      Step f ⟨none, none, none⟩ { f with results }
  | registered (kind : EventKind) (handler : Nat) :
      Step f ⟨none, some handler, none⟩ { f with emitter := f.emitter.on kind handler }
  /-- There are no events of that name. -/
  | misnamed (handler : Nat) : Step f ⟨none, some handler, none⟩ f
  | refused (c : RecorderCommand) (idle : f.waiting = none) :
      Step f ⟨some c, none, some (.error (.invalidTransition f.state c))⟩ f
  /-- The capture device fails, and so does the command. -/
  | failed {c : RecorderCommand} {call : DeviceCall} {reason : String} {capture : Capture}
      (idle : f.waiting = none) (permitted : (f.state.use? call).isSome = true)
      (tried : f.capture.Tries call (some reason) capture) :
      Step f ⟨some c, none, some (.error (.capture reason))⟩ { f with capture }
  | installed {chosen : DeviceChoice} {capture : Capture} (idle : f.waiting = none)
      (state : f.state = .uninitialized) (tried : f.capture.Tries .install none capture) :
      Step f ⟨some .install, none, some (.ok (.devices chosen))⟩
        { f with
          capture, state := .installed
          emitter := f.emitter.emit (.installed chosen.cameraId chosen.microphoneId) }
  /-- A recording begins with the creation of its upload. -/
  | asked (name : String) (idle : f.waiting = none)
      (state : f.state = .installed ∨ f.state = .stopped) :
      Step f ⟨some (.start name), none, none⟩
        { f with
          waiting := some (.creating f.keys.length name)
          keys := f.keys ++ [videoObjectKey name], results := f.results ++ [none] }
  | uncreated {i : Nat} {name : String} (error : UploadError)
      (waits : f.waiting = some (.creating i name)) :
      Step f ⟨none, none, some (.error (.upload error))⟩ { f with waiting := none }
  | started {i : Nat} {name : String} {capture : Capture} (instant : Timestamp)
      (waits : f.waiting = some (.creating i name))
      (tried : f.capture.Tries .start none capture) (opens : capture.stream = some i) :
      Step f ⟨none, none, some (.ok .done)⟩
        { f with
          capture, state := .recording, videoId := some name, upload := some i, waiting := none
          emitter := f.emitter.emit (.started name instant) }
  /-- The capture device does not start, and the upload has to be given up. -/
  | undoing {i : Nat} {name reason : String} {capture : Capture}
      (waits : f.waiting = some (.creating i name))
      (tried : f.capture.Tries .start (some reason) capture) :
      Step f ⟨none, none, none⟩ { f with capture, waiting := some (.undoing i reason) }
  | unstarted {i : Nat} {name reason : String} {capture : Capture}
      (waits : f.waiting = some (.creating i name))
      (tried : f.capture.Tries .start (some reason) capture) :
      Step f ⟨none, none, some (.error (.capture reason))⟩ { f with capture, waiting := none }
  | undone {i : Nat} {reason : String} (waits : f.waiting = some (.undoing i reason)) :
      Step f ⟨none, none, some (.error (.capture reason))⟩ { f with waiting := none }
  | paused {capture : Capture} (seconds : Double) (idle : f.waiting = none)
      (state : f.state = .recording) (tried : f.capture.Tries .pause none capture) :
      Step f ⟨some .pause, none, some (.ok .done)⟩
        { f with capture, state := .paused, emitter := f.emitter.emit (.paused seconds) }
  | resumed {capture : Capture} (seconds : Double) (idle : f.waiting = none)
      (state : f.state = .paused) (tried : f.capture.Tries .resume none capture) :
      Step f ⟨some .resume, none, some (.ok .done)⟩
        { f with capture, state := .recording, emitter := f.emitter.emit (.resumed seconds) }
  | stopped {i : Nat} {capture : Capture} (deadline : Nat) (seconds : Double)
      (idle : f.waiting = none) (state : f.state = .recording ∨ f.state = .paused)
      (held : f.upload = some i) (tried : f.capture.Tries .stop none capture) :
      Step f ⟨some .stop, none, none⟩
        { f with
          capture, state := .stopped, upload := none, waiting := some (.uploading i deadline)
          emitter := f.emitter.emit (.stopped (f.videoId.getD "") seconds) }
  /-- There is no upload to wait for. -/
  | stranded {capture : Capture} (seconds : Double) (idle : f.waiting = none)
      (state : f.state = .recording ∨ f.state = .paused) (bare : f.upload = none)
      (tried : f.capture.Tries .stop none capture) :
      Step f ⟨some .stop, none, some (.error (.upload .notStarted))⟩
        { f with
          capture, state := .stopped
          emitter := f.emitter.emit (.stopped (f.videoId.getD "") seconds) }
  | completed {i deadline : Nat} {c : CompletedUpload}
      (waits : f.waiting = some (.uploading i deadline))
      (ended : f.results[i]? = some (some (.ok c))) :
      Step f ⟨none, none, some (.ok (.uploaded c))⟩
        { f with
          waiting := none
          emitter := f.emitter.emit (.uploadCompleted c.key c.parts.length c.totalBytes) }
  | lost {i deadline : Nat} (error : UploadError)
      (waits : f.waiting = some (.uploading i deadline)) :
      Step f ⟨none, none, some (.error (.upload error))⟩
        { f with
          waiting := none
          emitter := f.emitter.emit (.uploadFailed (f.videoId.getD "") error.message) }
  | released (idle : f.waiting = none)
      (state : f.state = .uninitialized ∨ f.state = .installed ∨ f.state = .stopped) :
      Step f ⟨some .destroy, none, some (.ok .done)⟩
        { f with
          capture := f.capture.release, state := .destroyed, emitter := f.emitter.emit .destroyed }
  /-- A recording is stopped first, and nobody waits for its upload. -/
  | dismantled {capture : Capture} (idle : f.waiting = none)
      (state : f.state = .recording ∨ f.state = .paused)
      (tried : f.capture.Tries .stop none capture) :
      Step f ⟨some .destroy, none, some (.ok .done)⟩
        { f with
          capture := capture.release, state := .destroyed, upload := none
          emitter := f.emitter.emit .destroyed }
  | redestroyed (idle : f.waiting = none) (state : f.state = .destroyed) :
      Step f ⟨some .destroy, none, some (.ok .done)⟩ f

/-! ## Turns are steps -/

namespace Recorder

/-- A pump that is let read changes nothing in front of it. -/
theorem front_runPump (r : Recorder) (i : Nat) (w : Option Waiting) :
    ∃ results, Scene.front ⟨r.runPump i, w⟩ = { Scene.front ⟨r, w⟩ with results } ∧
      ∀ (j : Nat) (c : CompletedUpload), results[j]? = some (some (.ok c)) →
        (Scene.front ⟨r, w⟩).results[j]? = some (some (.ok c)) := by
  unfold runPump
  split
  · next p upload hpump found =>
      split
      · obtain ⟨hkeys, hresult⟩ := readChunks_kept r.timeline i p p.queue
        generalize readChunks r.timeline i p p.queue = out at hkeys hresult
        obtain ⟨t, q⟩ := out
        refine ⟨(r.pumps.set i q).map (·.result), ?_, fun j c hj => ?_⟩
        · simp only [Scene.front, results, hkeys]
        · rcases getElem?_results_set hj with hbefore | ⟨rfl, hq⟩
          · exact hbefore
          · rw [Scene.front, results, List.getElem?_map, hpump]
            exact congrArg some (hresult c hq)
      · exact ⟨_, rfl, fun j c hj => hj⟩
  · exact ⟨_, rfl, fun j c hj => hj⟩

/-- Nor does one that is told what its upload has done. -/
theorem step_notice {r : Recorder} {n : Notice} (w : Option Waiting)
    (hkey : ∀ i c, n = .finished i (.ok (.completed c)) → r.timeline.keys[i]? = some c.key) :
    (Scene.front ⟨r, w⟩).Step ⟨none, none, none⟩ (Scene.front ⟨r.notice n, w⟩) := by
  cases n with
  | woke i =>
      obtain ⟨ends, hfront, hkept⟩ := front_runPump r i w
      rw [notice, hfront]
      exact .behind fun j c hj => .inl (hkept j c hj)
  | finished i result =>
      unfold notice
      dsimp only
      split
      · next p hpump =>
          split
          · obtain ⟨ends, hfront, hkept⟩ :=
              front_runPump { r with pumps := r.pumps.set i (readChunks.ended p result) } i w
            rw [hfront]
            refine .behind (f := Scene.front ⟨r, w⟩) fun j c hj => ?_
            rcases getElem?_results_set (hkept j c hj) with hbefore | ⟨rfl, hended⟩
            · exact .inl hbefore
            · rcases result_ended hended with hbefore | rfl
              · refine .inl ?_
                rw [Scene.front, results, List.getElem?_map, hpump]
                exact congrArg some hbefore
              · exact .inr (hkey _ c rfl)
          · exact .behind fun j c hj => .inl hj
      · exact .behind fun j c hj => .inl hj

/-! ### Commands -/

variable {r : Recorder}

theorem step_install (hstate : r.state = .uninitialized) :
    (Scene.front ⟨r, none⟩).Step ⟨some .install, none, r.install.2.result?⟩
      (Scene.after r.install).front := by
  have htried := Capture.Tries.install (c := r.capture) r.devices
  unfold install
  split
  · next reason capture heq =>
      rw [heq] at htried
      exact .failed rfl (by rw [Scene.front, hstate]; rfl) htried
  · next chosen capture heq =>
      rw [heq] at htried
      exact .installed rfl hstate htried

theorem step_start (hstate : r.state = .installed ∨ r.state = .stopped) (name : String) :
    (Scene.front ⟨r, none⟩).Step ⟨some (.start name), none, none⟩
      (Scene.after (r.start name)).front := by
  have hkeys : (r.start name).1.timeline.keys = r.timeline.keys ++ [videoObjectKey name] := by
    rw [start, Timeline.keys_command, Timeline.keys_add]
    rfl
  have hcount : r.timeline.keys.length = r.timeline.uploads.length := List.length_map _
  have hresults : (r.start name).1.results = r.results ++ [none] := List.map_append
  have hstep := Front.Step.asked (f := Scene.front ⟨r, none⟩) name rfl hstate
  have hfront : (Scene.after (r.start name)).front =
      { Scene.front ⟨r, none⟩ with
        waiting := some (.creating r.timeline.keys.length name)
        keys := r.timeline.keys ++ [videoObjectKey name], results := r.results ++ [none] } := by
    rw [← hkeys, ← hresults, hcount]
    rfl
  rw [hfront]
  exact hstep

theorem step_pause (hstate : r.state = .recording) :
    (Scene.front ⟨r, none⟩).Step ⟨some .pause, none, r.pause.2.result?⟩
      (Scene.after r.pause).front := by
  have htried := Capture.Tries.pause (c := r.capture)
  unfold pause
  split
  · next reason capture heq =>
      rw [heq] at htried
      exact .failed rfl (by rw [Scene.front, hstate]; rfl) htried
  · next capture heq =>
      rw [heq] at htried
      exact .paused _ rfl hstate htried

theorem step_resumeRecording (hstate : r.state = .paused) :
    (Scene.front ⟨r, none⟩).Step ⟨some .resume, none, r.resumeRecording.2.result?⟩
      (Scene.after r.resumeRecording).front := by
  have htried := Capture.Tries.resume (c := r.capture)
  unfold resumeRecording
  split
  · next reason capture heq =>
      rw [heq] at htried
      exact .failed rfl (by rw [Scene.front, hstate]; rfl) htried
  · next capture heq =>
      rw [heq] at htried
      exact .resumed _ rfl hstate htried

/-- Ending a stream changes nothing in front of it. -/
theorem front_endStream (r : Recorder) (stream : Option Nat) (w : Option Waiting) :
    Scene.front ⟨r.endStream stream, w⟩ = Scene.front ⟨r, w⟩ := by
  cases stream with
  | none => rfl
  | some i =>
      have hresults := results_modify r.pumps i (f := fun p => { p with ended := true })
        fun _ => rfl
      simp only [Scene.front, endStream, results, modifyPump, Timeline.keys, Timeline.wake,
        hresults]

theorem step_stop (hstate : r.state = .recording ∨ r.state = .paused) :
    (Scene.front ⟨r, none⟩).Step ⟨some .stop, none, r.stop.2.result?⟩
      (Scene.after r.stop).front := by
  have htried := Capture.Tries.stop (c := r.capture)
  have hended := front_endStream r r.capture.stream none
  unfold stop
  split
  · next reason capture heq =>
      rw [heq] at htried
      refine .failed rfl ?_ htried
      rcases hstate with hstate | hstate <;> rw [Scene.front, hstate] <;> rfl
  · next capture heq =>
      rw [heq] at htried
      generalize r.endStream r.capture.stream = q at hended
      have hstate' : (Scene.front ⟨q, none⟩).state = .recording ∨
          (Scene.front ⟨q, none⟩).state = .paused := by rw [hended]; exact hstate
      have htried' : (Scene.front ⟨q, none⟩).capture.Tries .stop none capture := by
        rw [hended]
        exact htried
      rw [← hended]
      dsimp only
      split
      · next hbare => exact .stranded _ rfl hstate' hbare htried'
      · next i hheld => exact .stopped _ _ rfl hstate' hheld htried'

/-- What a release comes to, whatever stream is still open. -/
theorem front_release (r : Recorder) :
    (Scene.after r.release).front =
      { Scene.front ⟨r, none⟩ with
        capture := r.capture.release
        state := .destroyed
        emitter := r.emitter.emit .destroyed } := by
  have hended := front_endStream r r.capture.stream none
  unfold release
  generalize r.endStream r.capture.stream = q at hended
  have hcapture : q.capture = r.capture := congrArg Front.capture hended
  have hemitter : q.emitter = r.emitter := congrArg Front.emitter hended
  rw [← hended, ← hcapture, ← hemitter]
  rfl

theorem step_destroy (hstate : r.state ≠ .destroyed) :
    (Scene.front ⟨r, none⟩).Step ⟨some .destroy, none, r.destroy.2.result?⟩
      (Scene.after r.destroy).front := by
  unfold destroy
  split
  · next hactive =>
      have htried := Capture.Tries.stop (c := r.capture)
      have hended := front_endStream r r.capture.stream none
      split
      · next reason capture heq =>
          rw [heq] at htried
          refine .failed rfl ?_ htried
          rcases hactive with hactive | hactive <;> rw [Scene.front, hactive] <;> rfl
      · next capture heq =>
          rw [heq] at htried
          generalize r.endStream r.capture.stream = q at hended
          have hactive' : (Scene.front ⟨q, none⟩).state = .recording ∨
              (Scene.front ⟨q, none⟩).state = .paused := by rw [hended]; exact hactive
          have htried' : (Scene.front ⟨q, none⟩).capture.Tries .stop none capture := by
            rw [hended]
            exact htried
          rw [front_release, ← hended]
          exact .dismantled rfl hactive' htried'
  · next hpassive =>
      rw [front_release]
      refine .released rfl ?_
      cases hcurrent : r.state with
      | uninitialized => exact .inl hcurrent
      | installed => exact .inr (.inl hcurrent)
      | stopped => exact .inr (.inr hcurrent)
      | recording => exact absurd (.inl hcurrent) hpassive
      | paused => exact absurd (.inr hcurrent) hpassive
      | destroyed => exact absurd hcurrent hstate

theorem step_begin (r : Recorder) (c : RecorderCommand) :
    (Scene.front ⟨r, none⟩).Step ⟨some c, none, (r.begin c).2.result?⟩
      (Scene.after (r.begin c)).front := by
  unfold begin
  split
  · next hstate => exact step_install hstate
  · next hstate => exact step_start (.inl hstate) _
  · next hstate => exact step_start (.inr hstate) _
  · next hstate => exact step_pause hstate
  · next hstate => exact step_resumeRecording hstate
  · next hstate => exact step_stop (.inl hstate)
  · next hstate => exact step_stop (.inr hstate)
  · next hstate => exact .redestroyed rfl hstate
  · next hstate => exact step_destroy fun heq => hstate heq
  · exact .refused (f := Scene.front ⟨r, none⟩) _ rfl

/-- A command goes on when the store has answered. -/
theorem step_resume {w : Waiting} {i : Nat} (hplace : w.storePlace? = some i)
    (result : Except UploadError Outcome) :
    (Scene.front ⟨r, some w⟩).Step ⟨none, none, (r.resume w result).2.result?⟩
      (Scene.after (r.resume w result)).front := by
  cases w with
  | uploading j deadline => cases hplace
  | undoing j reason => exact .undone rfl
  | creating j name =>
      cases result with
      | error e => exact .uncreated e rfl
      | ok outcome =>
          have htried := Capture.Tries.start (c := r.capture) j r.config.timesliceMs
          unfold resume record
          dsimp only
          split
          · next reason capture heq =>
              rw [heq] at htried
              have hkeys := Timeline.keys_command r.timeline j .abort
              generalize r.timeline.command j .abort = out at hkeys
              obtain ⟨t, ended⟩ := out
              have hfront : ∀ w', Scene.front ⟨{ r with capture, timeline := t }, w'⟩ =
                  { Scene.front ⟨r, some (.creating j name)⟩ with capture, waiting := w' } :=
                fun w' => congrArg (Front.mk _ _ _ _ _ w' · _) hkeys
              cases ended with
              | some result =>
                  rw [Scene.after]
                  dsimp only
                  rw [hfront]
                  exact .unstarted rfl htried
              | none =>
                  rw [Scene.after]
                  dsimp only
                  rw [hfront]
                  exact .undoing rfl htried
          · next capture heq =>
              rw [heq] at htried
              have hresults := results_modify r.pumps j
                (f := fun p => { p with running := true }) fun _ => rfl
              simp only [Scene.after, Scene.front, emit, modifyPump, Recorder.results, hresults]
              exact .started (f := Scene.front ⟨r, some (.creating j name)⟩) _ rfl htried
                (Capture.stream_started heq)

/-- What a pump came to is told. -/
theorem step_conclude {i deadline : Nat} (r : Recorder)
    (outcome : Except UploadError CompletedUpload)
    (hended : ∀ c, outcome = .ok c → r.results[i]? = some (some (.ok c))) :
    (Scene.front ⟨r, some (.uploading i deadline)⟩).Step
      ⟨none, none, (r.conclude outcome).2.result?⟩ (Scene.after (r.conclude outcome)).front := by
  cases outcome with
  | ok c => exact .completed rfl (hended c rfl)
  | error e => exact .lost e rfl

end Recorder

namespace Scene

variable {r : Recorder} {s s' : Scene}

/-- What the timeline notices is told to the command under way or to a pump. -/
theorem step_told {w : Option Waiting} {n : Option Notice}
    (hkey : ∀ i c, n = some (.finished i (.ok (.completed c))) →
      r.timeline.keys[i]? = some c.key) :
    (front ⟨r, w⟩).Step ⟨none, none, (heeded? ⟨r, w⟩ n).bind (·.result?)⟩
      (told ⟨r, w⟩ n).front := by
  cases n with
  | none => exact .behind fun j c hj => .inl hj
  | some n =>
      cases n with
      | woke i => exact Recorder.step_notice w nofun
      | finished i result =>
          by_cases hwaits : w.bind (·.storePlace?) = some i
          · cases w with
            | none => cases hwaits
            | some w =>
                have hplace : w.storePlace? = some i := hwaits
                rw [told_of_waits hplace, heeded?_of_waits hplace]
                exact Recorder.step_resume hplace result
          · rw [told_of_free hwaits, heeded?_of_free hwaits]
            refine Recorder.step_notice w fun j c heq => hkey j c ?_
            rw [heq]

/-- Every turn is a step in front of the recordings. -/
theorem front_step {a : Act} (h : s.act? a = some s') :
    s.front.Step (Turn.mk s a s').label s'.front := by
  obtain ⟨r, w⟩ := s
  cases acts_of_act? h with
  | unread chunk opened still => exact .behind fun j c hj => .inl hj
  | move moves =>
      cases moves with
      | begin c => exact Recorder.step_begin r c
      | @occur _ k now _ t notice occurs =>
          obtain ⟨hkeys, hcompleted⟩ := Timeline.keys_of_occur? occurs
          have hstep := step_told (r := { r with timeline := t }) (w := w) (n := notice)
            fun i c heq => (congrArg (·[i]?) hkeys).trans (hcompleted i c heq)
          have hfront : front ⟨{ r with timeline := t }, w⟩ = front ⟨r, w⟩ :=
            congrArg (Front.mk _ _ _ _ _ _ · _) hkeys
          rw [hfront] at hstep
          rw [← Turn.result?_occur occurs] at hstep
          exact hstep
      | @conclude i deadline outcome ended =>
          have hresult : r.results[i]? = some (some outcome) := by
            obtain ⟨p, hp, hresult⟩ := Option.bind_eq_some_iff.1 ended
            rw [Recorder.results, List.getElem?_map, hp, Option.map_some, hresult]
          have hstep := @Recorder.step_conclude i deadline r outcome
            fun c heq => heq ▸ hresult
          rw [← Turn.result?_conclude ended] at hstep
          exact hstep
      | expire i deadline => exact Recorder.step_conclude (r.moveTo deadline) (.error _) (by simp)
      | @emit _ i chunk opened reads =>
          have hresults := Recorder.results_modify r.pumps i
            (f := fun p => { p with queue := p.queue ++ [chunk] }) fun _ => rfl
          refine .behind fun j c hj => .inl ?_
          rwa [Recorder.results, Recorder.modifyPump, hresults] at hj
      | on name handler =>
          rw [Recorder.on]
          split
          · exact .misnamed handler
          · next kind hkind => exact .registered kind handler
      | pass now => exact .behind fun j c hj => .inl hj

end Scene

end StudySession

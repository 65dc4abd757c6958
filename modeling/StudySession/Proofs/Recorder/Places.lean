import StudySession.Proofs.Recorder.Founding
import StudySession.Proofs.Recorder.Recordings

/-!
# Places

A recorder knows its recordings by their places. `Scene.insertAt` puts a recording in between that
was never started and for which nothing is due; the places from there on are one higher. All
functions of a recorder go along with that, one lemma for each, so the same acts are possible in both
scenes and come to the same (`Scene.act?_insertAt`). A recorder therefore behaves in one way with the
recording and without it (`Scene.alike_insertAt`).
-/

namespace StudySession

/-- The place of a recording once another one is put in at `n`. -/
def raise (n i : Nat) : Nat := if i < n then i else i + 1

theorem raise_injective (n : Nat) : Function.Injective (raise n) := by
  intro i j h
  unfold raise at h
  split at h <;> split at h <;> omega

theorem raise_succ_succ (n i : Nat) : raise (n + 1) (i + 1) = raise n i + 1 := by
  unfold raise
  split <;> split <;> omega

section Lists

variable {α : Type} {n : Nat} {xs : List α} (x y : α)

theorem getElem?_insertIdx_raise (n i : Nat) (xs : List α) :
    (xs.insertIdx n x)[raise n i]? = xs[i]? := by
  unfold raise
  split
  · next hlt => exact List.getElem?_insertIdx_of_lt hlt
  · next hge => rw [List.getElem?_insertIdx_of_gt (by omega), Nat.add_sub_cancel]

/-- What is done at a place is done at the raised one. -/
theorem modify_insertIdx_raise (n i : Nat) (xs : List α) (f : α → α) :
    (xs.insertIdx n x).modify (raise n i) f = (xs.modify i f).insertIdx n x := by
  induction xs generalizing n i with
  | nil =>
      cases n with
      | zero => rfl
      | succ n => simp
  | cons head tail ih =>
      cases n with
      | zero => rfl
      | succ n =>
          cases i with
          | zero => rfl
          | succ i => simp [raise_succ_succ, ih]

theorem set_insertIdx_raise (n i : Nat) (xs : List α) :
    (xs.insertIdx n x).set (raise n i) y = (xs.set i y).insertIdx n x := by
  rw [List.set_eq_modify, List.set_eq_modify, modify_insertIdx_raise]

theorem length_insertIdx_eq_raise (h : n ≤ xs.length) :
    (xs.insertIdx n x).length = raise n xs.length := by
  rw [List.length_insertIdx_of_le_length h, raise, if_neg (Nat.not_lt.2 h)]

theorem append_insertIdx (h : n ≤ xs.length) :
    xs.insertIdx n x ++ [y] = (xs ++ [y]).insertIdx n x := by
  induction xs generalizing n with
  | nil =>
      obtain rfl := Nat.le_zero.1 h
      rfl
  | cons head tail ih =>
      cases n with
      | zero => rfl
      | succ n => simp [ih (Nat.le_of_succ_le_succ h)]

/-- What stands last was put in there. -/
theorem insertIdx_take (hlength : xs.length = n + 1) (hlast : xs[n]? = some x) :
    (xs.take n).insertIdx n x = xs := by
  have htaken : (xs.take n).length = n := by rw [List.length_take, hlength]; omega
  have hinserted : (xs.take n).insertIdx n x = xs.take n ++ [x] := by
    have hself := List.insertIdx_length_self (l := xs.take n) (x := x)
    rwa [htaken] at hself
  have hwhole : xs.take (n + 1) = xs := List.take_of_length_le (Nat.le_of_eq hlength)
  rw [List.take_add_one, hlast, Option.toList_some] at hwhole
  rw [hinserted, hwhole]

end Lists

/-! ## Timelines -/

def Appointment.raise (n : Nat) (a : Appointment) : Appointment :=
  { a with upload := StudySession.raise n a.upload }

def Notice.raise (n : Nat) : Notice → Notice
  | finished i result => finished (StudySession.raise n i) result
  | woke i => woke (StudySession.raise n i)

def Contact.raise (n : Nat) (c : Contact) : Contact :=
  { c with upload := StudySession.raise n c.upload }

namespace Timeline

/-- A timeline with one more upload, at a place, for which nothing is due. -/
def insertAt (n : Nat) (u : Upload) (t : Timeline) : Timeline :=
  { t with uploads := t.uploads.insertIdx n u, agenda := t.agenda.map (·.raise n) }

variable (n : Nat) (u : Upload) (t : Timeline) (i : Nat)

theorem getElem?_uploads_insertAt : (t.insertAt n u).uploads[raise n i]? = t.uploads[i]? :=
  getElem?_insertIdx_raise u n i t.uploads

theorem enter_raise (agenda : List Appointment) (a : Appointment) :
    enter (agenda.map (·.raise n)) (a.raise n) = (enter agenda a).map (·.raise n) := by
  have hcomp : (fun b : Appointment => decide (b.instant ≤ (a.raise n).instant)) ∘
      Appointment.raise n = fun b => decide (b.instant ≤ a.instant) := rfl
  rw [enter, enter, List.takeWhile_map, List.dropWhile_map, hcomp, List.map_append, List.map_cons]

theorem carryOut_insertAt (effects : List Effect) :
    (t.insertAt n u).carryOut (raise n i) effects =
      ((t.carryOut i effects).1.insertAt n u, (t.carryOut i effects).2) := by
  induction effects generalizing t with
  | nil => rfl
  | cons effect rest ih =>
      cases effect with
      | finished result => rw [carryOut, carryOut, ih]
      | call who after asked =>
          have hentered := enter_raise n t.agenda ⟨t.now + after.milliseconds, i, .make who asked⟩
          rw [carryOut, carryOut, ← ih]
          dsimp only [insertAt]
          rw [← hentered]
          rfl

theorem happen_insertAt (event : Event) :
    (t.insertAt n u).happen (raise n i) event =
      ((t.happen i event).1.insertAt n u, (t.happen i event).2) := by
  rw [happen, happen, getElem?_uploads_insertAt]
  cases t.uploads[i]? with
  | none => rfl
  | some v =>
      dsimp only
      rw [← carryOut_insertAt]
      dsimp only [insertAt]
      rw [set_insertIdx_raise]

theorem command_insertAt (c : Command) :
    (t.insertAt n u).command (raise n i) c =
      ((t.command i c).1.insertAt n u, (t.command i c).2) :=
  happen_insertAt n u t i (.command c)

theorem wake_insertAt : (t.insertAt n u).wake (raise n i) = (t.wake i).insertAt n u := by
  have hentered := enter_raise n t.agenda ⟨t.now, i, .wake⟩
  dsimp only [wake, insertAt]
  rw [← hentered]
  rfl

theorem add_insertAt (h : n ≤ t.uploads.length) (v : Upload) :
    (t.insertAt n u).add v = (t.add v).insertAt n u := by
  dsimp only [add, insertAt]
  rw [append_insertIdx u v h]

theorem expects_insertAt (who : Caller) :
    (t.insertAt n u).expects (raise n i) who = t.expects i who := by
  rw [expects, expects, getElem?_uploads_insertAt]

theorem contact?_insertAt (a : Appointment) :
    (t.insertAt n u).contact? (a.raise n) = (t.contact? a).map (·.raise n) := by
  have hexpects := t.expects_insertAt n u a.upload
  obtain ⟨instant, i, due⟩ := a
  cases due with
  | wake => rfl
  | make who call => rfl
  | settle who call verdict =>
      simp only [contact?, Appointment.raise, hexpects]
      split
      · cases verdict <;> rfl
      · rfl

theorem fire_insertAt (due : Due) :
    (t.insertAt n u).fire (raise n i) due =
      ((t.fire i due).1.insertAt n u, (t.fire i due).2.map (·.raise n)) := by
  cases due with
  | wake => rfl
  | make who call =>
      rw [fire, fire, expects_insertAt]
      split
      · dsimp only [insertAt]
        rw [← enter_raise]
        rfl
      · rfl
  | settle who call verdict =>
      have hheard : ∀ (before : Timeline) (event : Event),
          (((before.insertAt n u).happen (raise n i) event).1,
            ((before.insertAt n u).happen (raise n i) event).2.map (Notice.finished (raise n i))) =
          ((before.happen i event).1.insertAt n u,
            ((before.happen i event).2.map (Notice.finished i)).map (Notice.raise n)) := by
        intro before event
        rw [happen_insertAt]
        cases (before.happen i event).2 <;> rfl
      simp only [fire, expects_insertAt]
      split
      · cases verdict with
        | passed => exact hheard { t with store := _ } _
        | failed error => exact hheard t _
        | deadly => exact hheard t _
      · rfl

theorem occur?_insertAt (k now : Nat) :
    (t.insertAt n u).occur? k now =
      (t.occur? k now).map fun (contact, t, notice) =>
        (contact.map (·.raise n), t.insertAt n u, notice.map (·.raise n)) := by
  have hentry : (t.insertAt n u).agenda[k]? = t.agenda[k]?.map (·.raise n) := List.getElem?_map ..
  have hrest : (t.insertAt n u).agenda.eraseIdx k = (t.agenda.eraseIdx k).map (·.raise n) :=
    List.eraseIdx_map ..
  rw [occur?, occur?, hentry]
  cases t.agenda[k]? with
  | none => rfl
  | some a =>
      have hcontact := contact?_insertAt n u { t with now, agenda := t.agenda.eraseIdx k } a
      have hfire := fire_insertAt n u { t with now, agenda := t.agenda.eraseIdx k } a.upload a.due
      simp only [Option.map_some, hrest]
      exact congrArg some (Prod.ext hcontact hfire)

end Timeline

/-! ## Capture devices -/

namespace Capture

/-- A device whose stream is of a raised place. -/
def raise (n : Nat) (c : Capture) : Capture :=
  { c with stream := c.stream.map (StudySession.raise n) }

variable (n : Nat) (c : Capture)

theorem call_raise (name : String) :
    (c.raise n).call name = ((c.call name).1, (c.call name).2.raise n) := by
  unfold call raise
  dsimp only
  split <;> rfl

theorem install_raise (preferred : DeviceChoice) :
    (c.raise n).install preferred = ((c.install preferred).1, (c.install preferred).2.raise n) := by
  rw [install, install, call_raise]
  rcases c.call "install" with ⟨_ | failure, after⟩ <;> rfl

theorem start_raise (recording timesliceMs : Nat) :
    (c.raise n).start (StudySession.raise n recording) timesliceMs =
      ((c.start recording timesliceMs).1, (c.start recording timesliceMs).2.raise n) := by
  rw [start, start, call_raise]
  rcases c.call "start" with ⟨_ | failure, after⟩ <;> rfl

theorem simple_raise (name : String) :
    (c.raise n).simple name = ((c.simple name).1, (c.simple name).2.raise n) := by
  rw [simple, simple, call_raise]
  rcases c.call name with ⟨_ | failure, after⟩ <;> rfl

theorem stop_raise : (c.raise n).stop = (c.stop.1, c.stop.2.raise n) := by
  rw [stop, stop, call_raise]
  rcases c.call "stop" with ⟨_ | failure, after⟩ <;> rfl

end Capture

/-! ## Recorders -/

def Waiting.raise (n : Nat) : Waiting → Waiting
  | creating i name => creating (StudySession.raise n i) name
  | undoing i reason => undoing (StudySession.raise n i) reason
  | uploading i deadline => uploading (StudySession.raise n i) deadline

def Progress.raise (n : Nat) : Progress → Progress
  | ended result => ended result
  | waiting w => waiting (w.raise n)

theorem Progress.result?_raise (n : Nat) (progress : Progress) :
    (progress.raise n).result? = progress.result? := by
  cases progress <;> rfl

namespace Recorder

/-- A recorder with one more recording, at a place, that was never started and for which nothing is
due. -/
def insertAt (n : Nat) (u : Upload) (r : Recorder) : Recorder :=
  { r with
    timeline := r.timeline.insertAt n u
    pumps := r.pumps.insertIdx n .idle
    capture := r.capture.raise n
    upload := r.upload.map (raise n) }

/-- What a command comes to for a recorder with one more recording. -/
def insertOut (n : Nat) (u : Upload) (out : Recorder × Progress) : Recorder × Progress :=
  (out.1.insertAt n u, out.2.raise n)

variable (n : Nat) (u : Upload) (r : Recorder)

theorem timeline_insertAt : (r.insertAt n u).timeline = r.timeline.insertAt n u := rfl

theorem capture_insertAt : (r.insertAt n u).capture = r.capture.raise n := rfl

theorem stream_insertAt : (r.insertAt n u).capture.stream = r.capture.stream.map (raise n) := rfl

theorem state_insertAt : (r.insertAt n u).state = r.state := rfl

theorem getElem?_pumps_insertAt (i : Nat) : (r.insertAt n u).pumps[raise n i]? = r.pumps[i]? :=
  getElem?_insertIdx_raise Pump.idle n i r.pumps

theorem modifyPump_insertAt (i : Nat) (f : Pump → Pump) :
    (r.insertAt n u).modifyPump (raise n i) f = (r.modifyPump i f).insertAt n u := by
  dsimp only [modifyPump, insertAt]
  rw [modify_insertIdx_raise]

theorem endStream_insertAt (place : Option Nat) :
    (r.insertAt n u).endStream (place.map (raise n)) = (r.endStream place).insertAt n u := by
  cases place with
  | none => rfl
  | some i =>
      simp only [Option.map_some, endStream, modifyPump_insertAt, timeline_insertAt,
        Timeline.wake_insertAt]
      rfl

/-! ### Commands -/

theorem install_insertAt : (r.insertAt n u).install = insertOut n u r.install := by
  have hinstall := r.capture.install_raise n r.devices
  unfold install
  rw [capture_insertAt, show (r.insertAt n u).devices = r.devices from rfl, hinstall]
  generalize r.capture.install r.devices = out
  obtain ⟨reason | chosen, capture⟩ := out <;> rfl

theorem start_insertAt (huploads : n ≤ r.timeline.uploads.length) (hpumps : n ≤ r.pumps.length)
    (name : String) : (r.insertAt n u).start name = insertOut n u (r.start name) := by
  have hplace : (r.insertAt n u).timeline.uploads.length = raise n r.timeline.uploads.length :=
    length_insertIdx_eq_raise u huploads
  have hadd := Timeline.add_insertAt n u r.timeline huploads (.new r.uploadConfig name)
  have hcommand := Timeline.command_insertAt n u (r.timeline.add (.new r.uploadConfig name))
    r.timeline.uploads.length .create
  rw [← hadd] at hcommand
  have hidle := append_insertIdx Pump.idle Pump.idle hpumps
  unfold start
  dsimp only
  rw [hplace]
  unfold insertOut insertAt at *
  dsimp only at *
  rw [hcommand, hidle]
  rfl

theorem pause_insertAt : (r.insertAt n u).pause = insertOut n u r.pause := by
  have hpause := r.capture.simple_raise n "pause"
  unfold pause
  rw [capture_insertAt, hpause]
  generalize r.capture.simple "pause" = out
  obtain ⟨reason | -, capture⟩ := out <;> rfl

theorem resumeRecording_insertAt :
    (r.insertAt n u).resumeRecording = insertOut n u r.resumeRecording := by
  have hresume := r.capture.simple_raise n "resume"
  unfold resumeRecording
  rw [capture_insertAt, hresume]
  generalize r.capture.simple "resume" = out
  obtain ⟨reason | -, capture⟩ := out <;> rfl

theorem stop_insertAt : (r.insertAt n u).stop = insertOut n u r.stop := by
  have hstop := r.capture.stop_raise n
  have hended : (r.insertAt n u).endStream (r.capture.raise n).stream = _ :=
    endStream_insertAt n u r r.capture.stream
  unfold stop
  rw [capture_insertAt, hstop]
  generalize r.capture.stop = out
  obtain ⟨reason | -, capture⟩ := out
  · rfl
  · dsimp only
    rw [hended]
    generalize r.endStream r.capture.stream = q
    dsimp only [insertAt, emit]
    cases q.upload with
    | none => rfl
    | some i => rfl

theorem release_insertAt : (r.insertAt n u).release = insertOut n u r.release := by
  have hended := endStream_insertAt n u r r.capture.stream
  unfold release
  rw [show (r.insertAt n u).endStream (r.insertAt n u).capture.stream = _ from hended]
  rfl

theorem destroy_insertAt : (r.insertAt n u).destroy = insertOut n u r.destroy := by
  have hstop := r.capture.stop_raise n
  have hended : (r.insertAt n u).endStream (r.capture.raise n).stream = _ :=
    endStream_insertAt n u r r.capture.stream
  unfold destroy
  rw [capture_insertAt, hstop, state_insertAt]
  split
  · generalize r.capture.stop = out
    obtain ⟨reason | -, capture⟩ := out
    · rfl
    · dsimp only
      rw [hended]
      generalize r.endStream r.capture.stream = q
      exact release_insertAt n u { q with capture, clock := q.clock.stop q.now, upload := none }
  · exact release_insertAt n u r

theorem begin_insertAt (huploads : n ≤ r.timeline.uploads.length) (hpumps : n ≤ r.pumps.length)
    (c : RecorderCommand) : (r.insertAt n u).begin c = insertOut n u (r.begin c) := by
  unfold begin
  rw [state_insertAt]
  split
  · exact install_insertAt n u r
  · exact start_insertAt n u r huploads hpumps _
  · exact start_insertAt n u r huploads hpumps _
  · exact pause_insertAt n u r
  · exact resumeRecording_insertAt n u r
  · exact stop_insertAt n u r
  · exact stop_insertAt n u r
  · rfl
  · exact destroy_insertAt n u r
  · rfl

theorem record_insertAt (i : Nat) (name : String) :
    (r.insertAt n u).record (raise n i) name = insertOut n u (r.record i name) := by
  have hstart := r.capture.start_raise n i r.config.timesliceMs
  unfold record
  rw [capture_insertAt, show (r.insertAt n u).config = r.config from rfl, hstart]
  generalize r.capture.start i r.config.timesliceMs = out
  obtain ⟨reason | -, capture⟩ := out
  · have hcommand := Timeline.command_insertAt n u r.timeline i .abort
    dsimp only
    rw [timeline_insertAt, hcommand]
    generalize r.timeline.command i .abort = out
    obtain ⟨timeline, result⟩ := out
    cases result <;> rfl
  · have hpumps := modify_insertIdx_raise Pump.idle n i r.pumps fun p => { p with running := true }
    dsimp only [insertAt, modifyPump, emit, insertOut]
    rw [hpumps]
    rfl

theorem resume_insertAt (w : Waiting) (result : Except UploadError Outcome) :
    (r.insertAt n u).resume (w.raise n) result = insertOut n u (r.resume w result) := by
  cases w with
  | creating i name =>
      cases result with
      | error e => rfl
      | ok outcome => exact record_insertAt n u r i name
  | undoing i reason => rfl
  | uploading i deadline => rfl

theorem conclude_insertAt (outcome : Except UploadError CompletedUpload) :
    (r.insertAt n u).conclude outcome = insertOut n u (r.conclude outcome) := by
  cases outcome <;> rfl

/-! ### Pumps -/

theorem readChunks_insertAt (t : Timeline) (i : Nat) (p : Pump) (chunks : List ByteArray) :
    readChunks (t.insertAt n u) (raise n i) p chunks =
      ((readChunks t i p chunks).1.insertAt n u, (readChunks t i p chunks).2) := by
  induction chunks generalizing t with
  | nil =>
      rw [readChunks, readChunks, Timeline.command_insertAt]
      split
      · generalize t.command i .complete = out
        obtain ⟨t', result⟩ := out
        cases result <;> rfl
      · rfl
  | cons chunk rest ih =>
      rw [readChunks, readChunks, Timeline.command_insertAt]
      generalize t.command i (.accept chunk) = out
      obtain ⟨t', result⟩ := out
      rcases result with _ | e | outcome
      · rfl
      · rfl
      · exact ih t'

theorem runPump_insertAt (i : Nat) :
    (r.insertAt n u).runPump (raise n i) = (r.runPump i).insertAt n u := by
  have hpump := Recorder.getElem?_pumps_insertAt n u r i
  have hupload := r.timeline.getElem?_uploads_insertAt n u i
  unfold runPump
  rw [hpump, timeline_insertAt, hupload]
  rcases r.pumps[i]? with _ | p
  · rfl
  · rcases r.timeline.uploads[i]? with _ | v
    · rfl
    · dsimp only
      split
      · have hread := readChunks_insertAt n u r.timeline i p p.queue
        rw [hread]
        generalize readChunks r.timeline i p p.queue = out
        obtain ⟨t, q⟩ := out
        have hset := set_insertIdx_raise Pump.idle q n i r.pumps
        dsimp only [insertAt]
        rw [hset]
      · rfl

theorem notice_insertAt (notice : Notice) :
    (r.insertAt n u).notice (notice.raise n) = (r.notice notice).insertAt n u := by
  cases notice with
  | woke i => exact runPump_insertAt n u r i
  | finished i result =>
      have hpump := Recorder.getElem?_pumps_insertAt n u r i
      unfold Recorder.notice Notice.raise
      dsimp only
      rw [hpump]
      rcases r.pumps[i]? with _ | p
      · rfl
      · dsimp only
        split
        · have hset := set_insertIdx_raise Pump.idle (readChunks.ended p result) n i r.pumps
          rw [← runPump_insertAt]
          unfold insertAt
          dsimp only
          rw [hset]
        · rfl

end Recorder

/-! ## Scenes -/

namespace Scene

/-- A scene with one more recording, which was never started. -/
def insertAt (n : Nat) (u : Upload) (s : Scene) : Scene :=
  ⟨s.recorder.insertAt n u, s.waiting.map (·.raise n)⟩

variable (n : Nat) (u : Upload) (s : Scene)

theorem after_insertOut (out : Recorder × Progress) :
    after (Recorder.insertOut n u out) = (after out).insertAt n u := by
  obtain ⟨r, progress⟩ := out
  cases progress <;> rfl

theorem waits_raise (w : Waiting) (i : Nat) :
    (w.raise n).storePlace? = some (raise n i) ↔ w.storePlace? = some i := by
  have hplace : (w.raise n).storePlace? = w.storePlace?.map (raise n) := by cases w <;> rfl
  rw [hplace, Option.map_eq_some_iff]
  constructor
  · rintro ⟨j, hj, heq⟩
    rw [hj, raise_injective n heq]
  · intro h
    exact ⟨i, h, rfl⟩

/-- What is told of a recording is told of the raised one. -/
theorem told_insertAt (notice : Option Notice) :
    told (s.insertAt n u) (notice.map (·.raise n)) = (told s notice).insertAt n u := by
  obtain ⟨r, w⟩ := s
  rcases notice with _ | ⟨i, result⟩ | i
  · rfl
  · have hnotice := Recorder.notice_insertAt n u r (.finished i result)
    cases w with
    | none => exact congrArg (Scene.mk · none) hnotice
    | some w =>
        have hwaits := waits_raise n w i
        unfold told insertAt
        dsimp only [Option.map_some, Notice.raise]
        by_cases h : w.storePlace? = some i
        · rw [if_pos h, if_pos (hwaits.2 h), Recorder.resume_insertAt, after_insertOut]
          rfl
        · rw [if_neg h, if_neg (mt hwaits.1 h)]
          exact congrArg (Scene.mk · _) hnotice
  · exact congrArg (Scene.mk · _) (Recorder.runPump_insertAt n u r i)

theorem heeded?_insertAt (notice : Option Notice) :
    heeded? (s.insertAt n u) (notice.map (·.raise n)) = (heeded? s notice).map (·.raise n) := by
  obtain ⟨r, w⟩ := s
  rcases notice with _ | ⟨i, result⟩ | i
  · rfl
  · cases w with
    | none => rfl
    | some w =>
        have hwaits := waits_raise n w i
        unfold heeded? insertAt
        dsimp only [Option.map_some, Notice.raise, Option.bind_some]
        by_cases h : w.storePlace? = some i
        · rw [if_pos h, if_pos (hwaits.2 h), Recorder.resume_insertAt]
          rfl
        · rw [if_neg h, if_neg (mt hwaits.1 h)]
          rfl
  · rfl

/-- There is room for one more recording at a place. -/
structure Room (n : Nat) (s : Scene) : Prop where
  uploads : n ≤ s.recorder.timeline.uploads.length
  pumps : n ≤ s.recorder.pumps.length

variable {n s}

theorem move?_insertAt (h : s.Room n) (m : RecorderMove) :
    (s.insertAt n u).move? m =
      (s.move? m).map fun (s, contact) => (s.insertAt n u, contact.map (·.raise n)) := by
  obtain ⟨r, w⟩ := s
  cases m with
  | begin c =>
      have hbegin := Recorder.begin_insertAt n u r h.uploads h.pumps c
      cases w with
      | none =>
          have hafter := after_insertOut n u (r.begin c)
          rw [← hbegin] at hafter
          exact congrArg (fun s => some (s, none)) hafter
      | some w => rfl
  | occur k now =>
      have hoccur := Timeline.occur?_insertAt n u r.timeline k now
      unfold move? insertAt
      dsimp only
      rw [Recorder.timeline_insertAt, hoccur]
      rcases r.timeline.occur? k now with _ | ⟨contact, t, notice⟩
      · rfl
      · exact congrArg (fun s => some (s, contact.map (·.raise n)))
          (told_insertAt n u ⟨{ r with timeline := t }, w⟩ notice)
  | conclude =>
      rcases w with _ | ⟨i, name⟩ | ⟨i, reason⟩ | ⟨i, deadline⟩
      · rfl
      · rfl
      · rfl
      · have hpump := Recorder.getElem?_pumps_insertAt n u r i
        unfold move? insertAt
        dsimp only [Option.map_some, Waiting.raise]
        rw [hpump]
        rcases (r.pumps[i]?).bind (·.result) with _ | outcome
        · rfl
        · rw [Option.map_some, Recorder.conclude_insertAt, after_insertOut]
          rfl
  | expire =>
      rcases w with _ | ⟨i, name⟩ | ⟨i, reason⟩ | ⟨i, deadline⟩
      · rfl
      · rfl
      · rfl
      · have hconclude := Recorder.conclude_insertAt n u (r.moveTo deadline)
          (.error (.timeout (.ofMilliseconds r.config.uploadTimeoutMs)))
        have hafter := after_insertOut n u ((r.moveTo deadline).conclude
          (.error (.timeout (.ofMilliseconds r.config.uploadTimeoutMs))))
        rw [← hconclude] at hafter
        exact congrArg (fun s => some (s, none)) hafter
  | emit chunk =>
      unfold move? insertAt
      dsimp only
      rw [Recorder.stream_insertAt]
      cases r.capture.stream with
      | none => rfl
      | some i =>
          have hpump := Recorder.getElem?_pumps_insertAt n u r i
          have hqueue := modify_insertIdx_raise Pump.idle n i r.pumps
            fun p => { p with queue := p.queue ++ [chunk] }
          have hwake := Timeline.wake_insertAt n u r.timeline i
          dsimp only [Option.map_some, Option.bind_some]
          rw [hpump]
          split
          · dsimp only [Recorder.modifyPump, Recorder.insertAt] at *
            rw [hqueue, hwake]
            rfl
          · rfl
  | on name handler =>
      have hon : ((r.insertAt n u).on name handler).2 = (r.on name handler).2.insertAt n u := by
        unfold Recorder.on
        split <;> rfl
      exact congrArg (fun r => some (Scene.mk r _, none)) hon
  | pass now => rfl

theorem progress?_insertAt (h : s.Room n) (m : RecorderMove) :
    (s.insertAt n u).progress? m = (s.progress? m).map (·.raise n) := by
  obtain ⟨r, w⟩ := s
  cases m with
  | begin c =>
      have hbegin := Recorder.begin_insertAt n u r h.uploads h.pumps c
      exact congrArg (fun out => some out.2) hbegin
  | occur k now =>
      have hoccur := Timeline.occur?_insertAt n u r.timeline k now
      unfold progress? insertAt
      dsimp only
      rw [Recorder.timeline_insertAt, hoccur]
      rcases r.timeline.occur? k now with _ | ⟨contact, t, notice⟩
      · rfl
      · exact heeded?_insertAt n u ⟨{ r with timeline := t }, w⟩ notice
  | conclude =>
      rcases w with _ | ⟨i, name⟩ | ⟨i, reason⟩ | ⟨i, deadline⟩
      · rfl
      · rfl
      · rfl
      · have hpump := Recorder.getElem?_pumps_insertAt n u r i
        unfold progress? insertAt
        dsimp only [Option.map_some, Waiting.raise]
        rw [hpump]
        rcases (r.pumps[i]?).bind (·.result) with _ | outcome
        · rfl
        · rw [Option.map_some, Recorder.conclude_insertAt]
          rfl
  | expire =>
      rcases w with _ | ⟨i, name⟩ | ⟨i, reason⟩ | ⟨i, deadline⟩
      · rfl
      · rfl
      · rfl
      · exact congrArg (fun out => some out.2) (Recorder.conclude_insertAt n u (r.moveTo deadline)
          (.error (.timeout (.ofMilliseconds r.config.uploadTimeoutMs))))
  | emit chunk => rfl
  | on name handler => rfl
  | pass now => rfl

theorem act?_insertAt (h : s.Room n) (a : Act) :
    (s.insertAt n u).act? a = (s.act? a).map (·.insertAt n u) := by
  cases a with
  | move m =>
      rw [act?, act?, move?_insertAt u h, Option.map_map, Option.map_map]
      rfl
  | unread chunk =>
      obtain ⟨r, w⟩ := s
      unfold act? insertAt
      dsimp only
      rw [Recorder.stream_insertAt]
      cases r.capture.stream with
      | none => rfl
      | some i =>
          have hpump := Recorder.getElem?_pumps_insertAt n u r i
          dsimp only [Option.map_some, Option.bind_some]
          rw [hpump]
          split <;> rfl

/-! ### Room -/

theorem length_pumps_resume (r : Recorder) (w : Waiting) (result : Except UploadError Outcome) :
    (r.resume w result).1.pumps.length = r.pumps.length := by
  unfold Recorder.resume
  split
  · split
    · rfl
    · unfold Recorder.record
      split
      · rfl
      · exact List.length_modify ..
  · rfl
  · rfl

theorem length_pumps_told (s : Scene) (notice : Option Notice) :
    (told s notice).recorder.pumps.length = s.recorder.pumps.length := by
  unfold told
  split
  · rfl
  · exact (Recorder.pumpedOn_notice _ _).count
  · split
    · split
      · exact length_pumps_resume ..
      · exact (Recorder.pumpedOn_notice _ _).count
    · exact (Recorder.pumpedOn_notice _ _).count

theorem length_pumps_endStream (r : Recorder) (place : Option Nat) :
    (r.endStream place).pumps.length = r.pumps.length := by
  cases place with
  | none => rfl
  | some i => exact List.length_modify ..

theorem length_pumps_begin (r : Recorder) (c : RecorderCommand) :
    r.pumps.length ≤ (r.begin c).1.pumps.length := by
  have hbegins := begins_begin r c
  change _ ≤ (after (r.begin c)).recorder.pumps.length
  generalize after (r.begin c) = s at hbegins
  cases hbegins with
  | still timeline pumps stream => rw [pumps]
  | asked name =>
      change _ ≤ (r.pumps ++ [Pump.idle]).length
      rw [List.length_append]
      exact Nat.le_add_right ..
  | closed free timeline pumps stream => rw [pumps, length_pumps_endStream]

theorem length_pumps_conclude (r : Recorder) (outcome : Except UploadError CompletedUpload) :
    (r.conclude outcome).1.pumps.length = r.pumps.length := by
  cases outcome <;> rfl

/-- No recording is ever given up. -/
theorem Room.act {s' : Scene} (h : s.Room n) {a : Act} (hact : s.act? a = some s') : s'.Room n := by
  have hkeys : s.recorder.timeline.keys.length ≤ s'.recorder.timeline.keys.length := by
    rcases (front_step hact).keys_eq with heq | ⟨name, -, heq⟩
    · exact Nat.le_of_eq (congrArg List.length heq).symm
    · refine Nat.le_trans ?_ (Nat.le_of_eq (congrArg List.length heq).symm)
      rw [List.length_append]
      exact Nat.le_add_right ..
  have hpumps : s.recorder.pumps.length ≤ s'.recorder.pumps.length := by
    obtain ⟨r, w⟩ := s
    cases acts_of_act? hact with
    | unread chunk opened still => exact Nat.le_refl _
    | move moves =>
        cases moves with
        | begin c => exact length_pumps_begin r c
        | @occur _ k now contact t notice occurs =>
            exact Nat.le_of_eq (length_pumps_told ⟨{ r with timeline := t }, w⟩ notice).symm
        | conclude ended => exact Nat.le_of_eq (length_pumps_conclude r _).symm
        | expire i deadline => exact Nat.le_of_eq (length_pumps_conclude (r.moveTo deadline) _).symm
        | emit chunk opened reads => exact Nat.le_of_eq (List.length_modify ..).symm
        | on name handler =>
            rw [Recorder.on]
            split <;> exact Nat.le_refl _
        | pass now => exact Nat.le_refl _
  rw [Timeline.keys, Timeline.keys, List.length_map, List.length_map] at hkeys
  exact ⟨h.uploads.trans hkeys, h.pumps.trans hpumps⟩

end Scene

/-! ## Courses -/

/-- Two scenes in which a recorder shows the same, and has the same device and the same store. -/
structure Scene.Resembles (s s' : Scene) : Prop where
  state : s'.recorder.state = s.recorder.state
  videoId : s'.recorder.videoId = s.recorder.videoId
  devices : s'.recorder.devices = s.recorder.devices
  clock : s'.recorder.clock = s.recorder.clock
  emitter : s'.recorder.emitter = s.recorder.emitter
  origin : s'.recorder.origin = s.recorder.origin
  now : s'.recorder.now = s.recorder.now
  device : s'.recorder.capture.calls = s.recorder.capture.calls ∧
    s'.recorder.capture.failures = s.recorder.capture.failures
  store : s'.recorder.timeline.store = s.recorder.timeline.store
  waiting : s'.waiting.isSome = s.waiting.isSome

/-- Whatever can happen in one scene can happen in another, with the same to be seen of it, and the
other way round. -/
structure Scene.Alike (s s' : Scene) : Prop where
  forth : ∀ turns last, Course s turns last → ∃ turns' last', Course s' turns' last' ∧
    turns'.map (·.act) = turns.map (·.act) ∧ sightsOf turns' = sightsOf turns ∧
    last.Resembles last'
  back : ∀ turns last, Course s' turns last → ∃ turns' last', Course s turns' last' ∧
    turns'.map (·.act) = turns.map (·.act) ∧ sightsOf turns' = sightsOf turns ∧
    last.Resembles last'

/-- The same turn with one more recording. -/
def Turn.insertAt (n : Nat) (u : Upload) (t : Turn) : Turn :=
  ⟨t.before.insertAt n u, t.act, t.after.insertAt n u⟩

namespace Scene

theorem Resembles.refl (s : Scene) : s.Resembles s :=
  ⟨rfl, rfl, rfl, rfl, rfl, rfl, rfl, ⟨rfl, rfl⟩, rfl, rfl⟩

theorem Alike.refl (s : Scene) : s.Alike s :=
  ⟨fun turns last hcourse => ⟨turns, last, hcourse, rfl, rfl, .refl last⟩,
    fun turns last hcourse => ⟨turns, last, hcourse, rfl, rfl, .refl last⟩⟩

variable {n : Nat} (u : Upload) {s s' : Scene} {turns : List Turn}

/-- One more recording does not show. -/
theorem resembles_insertAt (n : Nat) (s : Scene) :
    (s.insertAt n u).Resembles s ∧ s.Resembles (s.insertAt n u) := by
  have hwaiting : (s.insertAt n u).waiting.isSome = s.waiting.isSome := Option.isSome_map
  exact ⟨⟨rfl, rfl, rfl, rfl, rfl, rfl, rfl, ⟨rfl, rfl⟩, rfl, hwaiting.symm⟩,
    ⟨rfl, rfl, rfl, rfl, rfl, rfl, rfl, ⟨rfl, rfl⟩, rfl, hwaiting⟩⟩

/-- The same is seen of a turn. -/
theorem sights_insertAt (h : s.Room n) (a : Act) (s' : Scene) :
    (Turn.insertAt n u ⟨s, a, s'⟩).sights = (Turn.mk s a s').sights := by
  have hresult : (Turn.insertAt n u ⟨s, a, s'⟩).result? = (Turn.mk s a s').result? := by
    cases a with
    | unread chunk => rfl
    | move m =>
        have hprogress := progress?_insertAt u h m
        unfold Turn.result? Turn.insertAt
        dsimp only
        rw [hprogress]
        cases s.progress? m with
        | none => rfl
        | some progress => exact progress.result?_raise n
  unfold Turn.sights
  rw [hresult]
  rfl

theorem Course.room {first : Scene} (hcourse : Course first turns s) (h : first.Room n) :
    s.Room n := by
  induction hcourse with
  | start => exact h
  | step sofar acted ih => exact ih.act acted

/-- What happens can happen with one more recording, and the same is seen of it. -/
theorem Course.insertAt (hcourse : Course s turns s') (h : s.Room n) :
    Course (s.insertAt n u) (turns.map (·.insertAt n u)) (s'.insertAt n u) ∧
      sightsOf (turns.map (·.insertAt n u)) = sightsOf turns := by
  induction hcourse with
  | start => exact ⟨.start, rfl⟩
  | @step turns s₁ s₂ a sofar acted ih =>
      obtain ⟨hcourse, hsights⟩ := ih
      have hroom := sofar.room h
      have hacted : (s₁.insertAt n u).act? a = some (s₂.insertAt n u) := by
        rw [act?_insertAt u hroom, acted]
        rfl
      rw [List.map_append]
      refine ⟨hcourse.step hacted, ?_⟩
      rw [List.map_cons, List.map_nil, sightsOf_snoc, sightsOf_snoc, hsights,
        sights_insertAt u hroom]

/-- Nothing else can happen then. -/
theorem Course.of_insertAt (hcourse : Course (s.insertAt n u) turns s') (h : s.Room n) :
    ∃ before last, turns = before.map (·.insertAt n u) ∧ s' = last.insertAt n u ∧
      Course s before last := by
  induction hcourse with
  | start => exact ⟨[], s, rfl, rfl, .start⟩
  | @step turns s₁ s₂ a sofar acted ih =>
      obtain ⟨before, last, rfl, rfl, hcourse⟩ := ih
      rw [act?_insertAt u (hcourse.room h)] at acted
      obtain ⟨next, hnext, rfl⟩ := Option.map_eq_some_iff.1 acted
      exact ⟨before ++ [⟨last, a, next⟩], next, by rw [List.map_append]; rfl, rfl,
        hcourse.step hnext⟩

/-- A recorder behaves in the same way with one more recording. -/
theorem alike_insertAt (h : s.Room n) : (s.insertAt n u).Alike s := by
  have hacts : ∀ turns : List Turn,
      (turns.map (·.insertAt n u)).map (·.act) = turns.map (·.act) := by
    intro turns
    rw [List.map_map]
    rfl
  refine ⟨fun turns last hcourse => ?_, fun turns last hcourse => ?_⟩
  · obtain ⟨before, last, rfl, rfl, hbefore⟩ := hcourse.of_insertAt u h
    exact ⟨before, last, hbefore, (hacts before).symm, ((hbefore.insertAt u h).2).symm,
      (resembles_insertAt u n last).1⟩
  · obtain ⟨hinserted, hsights⟩ := hcourse.insertAt u h
    exact ⟨_, _, hinserted, hacts turns, hsights, (resembles_insertAt u n last).2⟩

end Scene

end StudySession

import StudySession.Proofs.Recorder.Places
import StudySession.Proofs.Recorder.Runs
import StudySession.Proofs.Recorder.Starts

/-!
# Calls that fail

A command that does not fit the state, that the capture device fails, or for which no upload can be
created, leaves the recorder as it was (`Scene.Undone`). Most commands fail at once
(`Recorder.Attempts`). A start has asked the store for an upload by then (`Scene.Trying`), and leaves
a recording that was never started; with that the recorder behaves as it does without.
-/

namespace StudySession

/-- The errors with which a command fails before it has done anything. -/
inductive RecorderCommand.Fails (c : RecorderCommand) : RecorderError → Prop where
  | misplaced (state : RecorderState) (given : RecorderCommand) :
      Fails c (.invalidTransition state given)
  | capture (reason : String) : Fails c (.capture reason)
  | creation {name : String} (starts : c = .start name) (error : UploadError) :
      Fails c (.upload error)

/-! ## Failing at once -/

namespace Recorder

/-- What giving a command comes to: it fails and only the device has noticed, or it has not failed
yet. -/
inductive Attempts (r : Recorder) (c : RecorderCommand) : Recorder × Progress → Prop where
  | failed {capture : Capture} (error : RecorderError)
      (stream : capture.stream = r.capture.stream) :
      Attempts r c ({ r with capture }, .ended (.error error))
  | goes {out : Recorder × Progress}
      (goes : ∀ error, out.2.result? = some (.error error) → ¬c.Fails error) : Attempts r c out

variable {r : Recorder} {c : RecorderCommand}

theorem Attempts.of_ok {out : Recorder × Progress} {reply : RecorderReply}
    (h : out.2 = .ended (.ok reply)) : r.Attempts c out :=
  .goes fun error herror => by rw [h] at herror; cases herror

theorem attempts_install (r : Recorder) (c : RecorderCommand) : r.Attempts c r.install := by
  have hstream := Capture.stream_install r.capture r.devices
  unfold install
  split
  · next reason capture heq =>
      rw [heq] at hstream
      exact .failed _ hstream
  · exact .of_ok rfl

theorem attempts_pause (r : Recorder) (c : RecorderCommand) : r.Attempts c r.pause := by
  have hstream := Capture.stream_simple r.capture "pause"
  unfold pause
  split
  · next reason capture heq =>
      rw [heq] at hstream
      exact .failed _ hstream
  · exact .of_ok rfl

theorem attempts_resumeRecording (r : Recorder) (c : RecorderCommand) :
    r.Attempts c r.resumeRecording := by
  have hstream := Capture.stream_simple r.capture "resume"
  unfold resumeRecording
  split
  · next reason capture heq =>
      rw [heq] at hstream
      exact .failed _ hstream
  · exact .of_ok rfl

/-- A stop that has no upload to wait for has stopped the recording. -/
theorem attempts_stop (r : Recorder) : r.Attempts .stop r.stop := by
  unfold stop
  split
  · next reason capture heq => exact .failed _ (Capture.stream_of_stop_error heq)
  · dsimp only
    split
    · refine .goes fun error herror hfails => ?_
      obtain rfl := Except.error.inj (Option.some.inj herror)
      cases hfails with
      | creation starts => cases starts
    · exact .goes nofun

theorem attempts_destroy (r : Recorder) (c : RecorderCommand) : r.Attempts c r.destroy := by
  unfold destroy
  split
  · split
    · next reason capture heq => exact .failed _ (Capture.stream_of_stop_error heq)
    · exact .of_ok rfl
  · exact .of_ok rfl

theorem attempts_begin (r : Recorder) (c : RecorderCommand) : r.Attempts c (r.begin c) := by
  unfold begin
  split
  · exact attempts_install r _
  · exact .goes nofun
  · exact .goes nofun
  · exact attempts_pause r _
  · exact attempts_resumeRecording r _
  · exact attempts_stop r
  · exact attempts_stop r
  · exact .of_ok rfl
  · exact attempts_destroy r _
  · change r.Attempts _ ({ r with capture := r.capture }, _)
    exact .failed _ rfl

end Recorder

/-! ## Calls -/

namespace Scene

/-- A call of a command in whatever order things happen: the scenes that it comes through, with its
answer in the last one. Meanwhile no handler is registered. -/
inductive Call (r : Recorder) (c : RecorderCommand) :
    Scene → Option (Except RecorderError RecorderReply) → Prop where
  | given : Call r c (after (r.begin c)) (r.begin c).2.result?
  | on {s s' : Scene} {a : Act} (waits : Call r c s none) (acted : s.act? a = some s')
      (silent : (Turn.mk s a s').handler? = none) : Call r c s' (Turn.mk s a s').result?

variable {r r' : Recorder} {c : RecorderCommand}

/-- A command that is run is called; then everything happens that is due by its end. -/
theorem call_run {answer : Except RecorderError RecorderReply} (h : r.run c = (r', some answer)) :
    ∃ q, Call r c ⟨q, none⟩ (some answer) ∧ r' = q.passTo q.now := by
  refine goes_run (fun {s s' m contact} hcall hgoes hmove => ?_) .given h
  have hacted : s.act? (.move m) = some s' := by rw [act?, hmove, Option.map_some]
  have hsilent : (Turn.mk s (.move m) s').handler? = none := by cases hgoes <;> rfl
  exact hcall.on hacted hsilent

end Scene

/-! ## Commands under way -/

/-- A command waits until it answers. A stop waits for its upload all the time, and answers no other
error than what that came to. -/
theorem Front.Step.while_waiting {f f' : Front} {label : Label} {w : Waiting}
    (hstep : f.Step label f') (hwaits : f.waiting = some w) :
    label.result? = none ∧ f'.waiting ≠ none ∧ (w.storePlace? = none → f'.waiting = some w) ∨
      ∃ answer, label.result? = some answer ∧ f'.waiting = none ∧
        (w.storePlace? = none → ∀ error, answer = .error error → ∃ e, error = .upload e) := by
  have hbusy : f.waiting ≠ none := by simp [hwaits]
  -- the constructors for a command that waits name what it waits for
  have hsame : ∀ {w'}, f.waiting = some w' → w' = w :=
    fun h => Option.some.inj (h.symm.trans hwaits)
  cases hstep with
  | behind kept => exact .inl ⟨rfl, hbusy, fun _ => hwaits⟩
  | registered kind handler => exact .inl ⟨rfl, hbusy, fun _ => hwaits⟩
  | misnamed handler => exact .inl ⟨rfl, hbusy, fun _ => hwaits⟩
  | undoing waits tried =>
      obtain rfl := hsame waits
      exact .inl ⟨rfl, nofun, nofun⟩
  | uncreated error waits =>
      obtain rfl := hsame waits
      exact .inr ⟨_, rfl, rfl, nofun⟩
  | started instant waits tried opens =>
      obtain rfl := hsame waits
      exact .inr ⟨_, rfl, rfl, nofun⟩
  | unstarted waits tried =>
      obtain rfl := hsame waits
      exact .inr ⟨_, rfl, rfl, nofun⟩
  | undone waits =>
      obtain rfl := hsame waits
      exact .inr ⟨_, rfl, rfl, nofun⟩
  | completed waits ended => exact .inr ⟨_, rfl, rfl, fun _ => nofun⟩
  | lost error waits =>
      exact .inr ⟨_, rfl, rfl, fun _ _ h => ⟨error, (Except.error.inj h).symm⟩⟩
  | refused c idle => exact absurd idle hbusy
  | failed idle permitted tried => exact absurd idle hbusy
  | installed idle state tried => exact absurd idle hbusy
  | asked name idle state => exact absurd idle hbusy
  | paused seconds idle state tried => exact absurd idle hbusy
  | resumed seconds idle state tried => exact absurd idle hbusy
  | stopped deadline seconds idle state held tried => exact absurd idle hbusy
  | stranded seconds idle state bare tried => exact absurd idle hbusy
  | released idle state => exact absurd idle hbusy
  | dismantled idle state tried => exact absurd idle hbusy
  | redestroyed idle state => exact absurd idle hbusy

namespace Scene

variable {accepting : Prop} {r : Recorder} {c : RecorderCommand} {s s' : Scene} {turns : List Turn}
  {result : Option (Except RecorderError RecorderReply)}

/-- How far a call has come: it failed at once, it is a start that has not succeeded, a stop that
waits, or it has ended otherwise. -/
inductive Underway (accepting : Prop) (r : Recorder) (c : RecorderCommand) :
    Scene → Option (Except RecorderError RecorderReply) → Prop where
  | failed {capture : Capture} (error : RecorderError)
      (stream : capture.stream = r.capture.stream) :
      Underway accepting r c ⟨{ r with capture }, none⟩ (some (.error error))
  | trying {s : Scene} {result : Option (Except RecorderError RecorderReply)}
      (bare : r.upload = none) (tries : Trying accepting r s)
      (ended : s.waiting = none ↔ result ≠ none) : Underway accepting r c s result
  | stopping {s : Scene} {i deadline : Nat} (stops : c = .stop)
      (waits : s.waiting = some (.uploading i deadline)) : Underway accepting r c s none
  | ended {s : Scene} {answer : Except RecorderError RecorderReply}
      (other : ∀ error, answer = .error error → ¬c.Fails error) :
      Underway accepting r c s (some answer)

theorem underway_begin (hreported : Reported turns ⟨r, none⟩) (c : RecorderCommand) :
    Underway accepting r c (after (r.begin c)) (r.begin c).2.result? := by
  have hattempts := Recorder.attempts_begin r c
  have hstep := Recorder.step_begin r c
  generalize hout : r.begin c = out at hattempts hstep
  cases hattempts with
  | failed error stream => exact .failed error stream
  | goes goes =>
      cases hresult : out.2.result? with
      | some answer => exact .ended fun error herror => goes error (by rw [hresult, herror])
      | none =>
          -- only a start and a stop have something to wait for
          rw [hresult] at hstep
          generalize hfront : (after out).front = f at hstep
          cases hstep with
          | asked name idle state =>
              have hbegin : r.begin (.start name) = r.start name := by
                have state : r.state = .installed ∨ r.state = .stopped := state
                rcases state with state | state <;> simp [Recorder.begin, state]
              have hbare : r.upload = none := by
                refine hreported.held.upload_eq_none ?_
                rcases state with state | state <;> simp [state]
              have hclosed : r.capture.stream = none := hreported.held.stream.trans hbare
              rw [← hout, hbegin]
              have hwaits : (after (r.start name)).waiting ≠ none := by
                simp [after, Recorder.start, Progress.waiting?]
              exact .trying hbare (trying_start hreported.flowing hclosed name) (by simp [hwaits])
          | stopped deadline seconds idle state held tried =>
              exact .stopping rfl (congrArg Front.waiting hfront)

/-- A call goes on with whatever happens. -/
theorem Underway.act (h : Underway accepting r c s none) (hreported : Reported turns s)
    (hfounded : s.Founded accepting) {a : Act} (hact : s.act? a = some s')
    (hsilent : (Turn.mk s a s').handler? = none) :
    Underway accepting r c s' (Turn.mk s a s').result? := by
  have hstep := front_step hact
  cases h with
  | trying bare tries ended =>
      have hbusy : s.waiting ≠ none := fun hnone => absurd rfl (ended.1 hnone)
      obtain ⟨w, hwaits⟩ := Option.ne_none_iff_exists'.1 hbusy
      have hended : s'.waiting = none ↔ (Turn.mk s a s').result? ≠ none := by
        rcases hstep.while_waiting hwaits with ⟨hresult, hwaiting, -⟩ | ⟨answer, hresult, hwaiting, -⟩
        · exact iff_of_false hwaiting fun hsome => hsome hresult
        · exact iff_of_true hwaiting fun hnone =>
            Option.some_ne_none _ (hresult.symm.trans hnone)
      by_cases hreply : ∃ reply, (Turn.mk s a s').result? = some (.ok reply)
      · obtain ⟨reply, hreply⟩ := hreply
        rw [hreply]
        exact .ended nofun
      · have htries := tries.act hreported.flowing hfounded hact hbusy hsilent
          (not_exists.1 hreply)
        exact .trying bare htries hended
  | stopping stops waits =>
      rcases hstep.while_waiting waits with ⟨hresult, -, hwaiting⟩ | ⟨answer, hresult, -, herror⟩
      · have hnone : (Turn.mk s a s').result? = none := hresult
        rw [hnone]
        exact .stopping stops (hwaiting rfl)
      · have hsome : (Turn.mk s a s').result? = some answer := hresult
        rw [hsome]
        refine .ended fun error heq hfails => ?_
        obtain ⟨e, rfl⟩ := herror rfl error heq
        cases hfails with
        | creation starts => cases starts.symm.trans stops

/-- What is known of a recorder is known of it during a call. -/
theorem Call.kept (h : Call r c s result) (hreported : Reported turns ⟨r, none⟩)
    (hfounded : Founded accepting ⟨r, none⟩) :
    (∃ turns, Reported turns s) ∧ s.Founded accepting := by
  have hbegin : act? ⟨r, none⟩ (.move (.begin c)) = some (after (r.begin c)) := rfl
  induction h with
  | given => exact ⟨⟨_, hreported.step hbegin⟩, hfounded.act hreported.flowing hbegin⟩
  | on waits acted silent ih =>
      obtain ⟨⟨turns, hreported⟩, hfounded⟩ := ih
      exact ⟨⟨_, hreported.step acted⟩, hfounded.act hreported.flowing acted⟩

theorem Call.underway (h : Call r c s result) (hreported : Reported turns ⟨r, none⟩)
    (hfounded : Founded accepting ⟨r, none⟩) : Underway accepting r c s result := by
  induction h with
  | given => exact underway_begin hreported c
  | on waits acted silent ih =>
      obtain ⟨⟨turns, hreported⟩, hfounded⟩ := waits.kept hreported hfounded
      exact ih.act hreported hfounded acted silent

end Scene

/-! ## What a call that fails leaves -/

/-- The recorder as it was, with the time, the device and the store of another one, and what its
recordings have come to there. -/
def Recorder.since (r after : Recorder) : Recorder :=
  { r with
    timeline :=
      { after.timeline with
        uploads := after.timeline.uploads.take r.timeline.uploads.length }
    pumps := after.pumps.take r.timeline.uploads.length
    capture := after.capture }

/-- A recorder is as it was: its state, its name, its devices, its clock, its handlers with what they
have heard, and the upload that stopping will wait for, with the pump and the stream of that. -/
structure Recorder.Intact (r r' : Recorder) : Prop where
  own : r' = { r with timeline := r'.timeline, pumps := r'.pumps, capture := r'.capture }
  stream : r'.capture.stream = r.capture.stream
  held : ∀ i, r.upload = some i →
    r'.pumps[i]? = r.pumps[i]? ∧ r'.timeline.uploads[i]? = r.timeline.uploads[i]?

/-- A call on a recorder came to nothing. -/
structure Scene.Undone (accepting : Prop) (r : Recorder) (s : Scene) : Prop where
  idle : s.waiting = none
  intact : r.Intact s.recorder
  /-- Whatever is tried now goes as it does if nothing was tried before. -/
  retried : s.Alike ⟨r.since s.recorder, none⟩
  /-- Where aborts pass, no upload more is pending. -/
  pending : accepting → ∀ id ∈ s.recorder.timeline.store.memory.pending.keys,
    id ∈ r.timeline.store.memory.pending.keys

namespace Scene

variable {accepting : Prop} {r : Recorder} {c : RecorderCommand} {s : Scene} {error : RecorderError}
  {turns : List Turn} {emitted : Nat → List ByteArray}
  {known : Nat → Option (Except UploadError CompletedUpload)}

/-- Nothing is due any more for the upload of a start that has ended. -/
theorem Trying.map_raise_agenda (h : Trying accepting r s) (hidle : s.waiting = none)
    (hflowing : s.Flowing emitted known) :
    s.recorder.timeline.agenda.map (·.raise r.timeline.uploads.length) =
      s.recorder.timeline.agenda := by
  obtain ⟨given, hfleet⟩ := hflowing.fleet
  obtain ⟨u, found, -, hundertaken⟩ := h.upload
  rw [hidle] at hundertaken
  cases hundertaken with
  | settled idle pending =>
      have hasked : ownerCalls r.timeline.uploads.length s.recorder.timeline.agenda = [] := by
        have hasked := (hfleet.afloat _ u found).asked
        rw [Upload.asking, idle] at hasked
        exact hasked.eq_nil
      refine (List.map_congr_left fun a ha => ?_).trans (List.map_id _)
      have hother : a.upload ≠ r.timeline.uploads.length := by
        intro hplace
        have hsome := h.lone a ha hplace
        rw [List.filterMap_eq_nil_iff.1 hasked a ha] at hsome
        cases hsome
      have hplaced := hfleet.placed a ha
      have hcount := h.count
      have hlt : a.upload < r.timeline.uploads.length := by omega
      rw [Appointment.raise, raise, if_pos hlt]
      rfl

/-- A start that has not succeeded leaves the recorder with one more recording, which was never
started. -/
theorem Trying.exists_insertAt (h : Trying accepting r s) (hbare : r.upload = none)
    (hidle : s.waiting = none) (hflowing : s.Flowing emitted known) :
    ∃ u, s = Scene.insertAt r.timeline.uploads.length u ⟨r.since s.recorder, none⟩ := by
  have hagenda := h.map_raise_agenda hidle hflowing
  obtain ⟨q, w⟩ := s
  obtain ⟨own, closed, count, pump, -, u, found, -⟩ := h
  dsimp only at *
  subst hidle
  have htimeline : (r.since q).timeline.insertAt r.timeline.uploads.length u = q.timeline := by
    dsimp only [Recorder.since, Timeline.insertAt]
    rw [insertIdx_take u count found, hagenda]
  have hpaired : q.pumps.length = q.timeline.uploads.length := hflowing.paired
  have hpumps : (q.pumps.take r.timeline.uploads.length).insertIdx r.timeline.uploads.length .idle =
      q.pumps := insertIdx_take .idle (hpaired.trans count) pump
  have hcapture : q.capture.raise r.timeline.uploads.length = q.capture := by
    rw [Capture.raise, closed, Option.map_none, ← closed]
  have hsame : (r.since q).insertAt r.timeline.uploads.length u = q :=
    calc (r.since q).insertAt r.timeline.uploads.length u
      _ = { r with
            timeline := (r.since q).timeline.insertAt r.timeline.uploads.length u
            pumps := (q.pumps.take r.timeline.uploads.length).insertIdx
              r.timeline.uploads.length .idle
            capture := q.capture.raise r.timeline.uploads.length
            upload := r.upload.map (raise r.timeline.uploads.length) } := rfl
      _ = { r with timeline := q.timeline, pumps := q.pumps, capture := q.capture } := by
        rw [htimeline, hpumps, hcapture, hbare, Option.map_none, ← hbare]
      _ = q := own.symm
  exact ⟨u, congrArg (Scene.mk · none) hsame.symm⟩

theorem Trying.undone (h : Trying accepting r s) (hbare : r.upload = none)
    (hclosed : r.capture.stream = none) (hidle : s.waiting = none)
    (hflowing : s.Flowing emitted known) : s.Undone accepting r := by
  obtain ⟨u, hinserted⟩ := h.exists_insertAt hbare hidle hflowing
  have hpaired : s.recorder.pumps.length = s.recorder.timeline.uploads.length := hflowing.paired
  have hcount := h.count
  have hroom : Room r.timeline.uploads.length ⟨r.since s.recorder, none⟩ := by
    refine ⟨?_, ?_⟩
    · change _ ≤ (s.recorder.timeline.uploads.take _).length
      rw [List.length_take]
      omega
    · change _ ≤ (s.recorder.pumps.take _).length
      rw [List.length_take]
      omega
  refine ⟨hidle, ⟨h.own, h.closed.trans hclosed.symm, fun i hi => ?_⟩, ?_, ?_⟩
  · cases hbare.symm.trans hi
  · have halike := alike_insertAt u hroom
    rwa [← hinserted] at halike
  · obtain ⟨v, -, -, hundertaken⟩ := h.upload
    rw [hidle] at hundertaken
    cases hundertaken with
    | settled idle pending => exact pending

/-- Nothing has happened yet when a command fails at once, and the device counted a call at most. -/
theorem undone_of_failed {capture : Capture} (hflowing : Flowing ⟨r, none⟩ emitted known)
    (hstream : capture.stream = r.capture.stream) :
    Undone accepting r ⟨{ r with capture }, none⟩ := by
  have hpaired : r.pumps.length = r.timeline.uploads.length := hflowing.paired
  have hsince : r.since { r with capture } = { r with capture } := by
    dsimp only [Recorder.since]
    rw [List.take_length, ← hpaired, List.take_length]
  refine ⟨rfl, ⟨rfl, hstream, fun i hi => ⟨rfl, rfl⟩⟩, ?_, fun _ id hid => hid⟩
  dsimp only
  rw [hsince]
  exact .refl _

/-- Of a call that fails nothing is left. -/
theorem Call.undone (h : Call r c s (some (.error error))) (hreported : Reported turns ⟨r, none⟩)
    (hfounded : Founded accepting ⟨r, none⟩) (hfails : c.Fails error) : s.Undone accepting r := by
  obtain ⟨⟨later, hlater⟩, -⟩ := h.kept hreported hfounded
  have hunderway := h.underway hreported hfounded
  cases hunderway with
  | failed error stream => exact undone_of_failed hreported.flowing stream
  | trying bare tries ended =>
      exact tries.undone bare (hreported.held.stream.trans bare) (ended.2 (by simp)) hlater.flowing
  | ended other => exact absurd hfails (other error rfl)

end Scene

/-- **Failed calls are undone.** Whatever was done with a recorder and whatever its uploads have come
to, a call that fails because the command does not fit the state, because the capture device fails,
or because no upload can be created, leaves the recorder as it was. Whatever is tried afterwards goes
as it does if the call was not made, and where aborts pass no upload more is pending. -/
theorem failed_calls_undone (config : RecorderConfig) (uploadConfig : UploadConfig)
    (script : Dict (List ScriptedCall)) (available : DeviceChoice)
    (failures : Dict (List (Option String))) (preferred : DeviceChoice) (origin : Timestamp) :
    let first := Scene.opening config uploadConfig script available failures preferred origin
    (∀ calls r report, first.recorder.reports calls = some (r, report) →
      ∃ past, first.Course past ⟨r, none⟩ ∧ sightsOf past = report) ∧
    ∀ past r c, first.Course past ⟨r, none⟩ →
      (∀ r' answer, r.run c = (r', some answer) →
        ∃ q, Scene.Call r c ⟨q, none⟩ (some answer) ∧ r' = q.passTo q.now) ∧
      ∀ s error, Scene.Call r c s (some (.error error)) → c.Fails error →
        s.Undone (Terms.abortsPass.Kept script) r := by
  intro first
  refine ⟨fun calls r report => Scene.course_of_reports, fun past r c hcourse => ?_⟩
  have hopening : Scene.Reported [] first :=
    .opening config uploadConfig script available failures preferred origin
  have hfounding : Scene.Founded (Terms.abortsPass.Kept script) first :=
    Scene.founded_opening id config uploadConfig available failures preferred origin
  have hreported := hopening.course hcourse
  have hfounded := hfounding.course hopening.flowing hcourse
  exact ⟨fun r' answer => Scene.call_run,
    fun s error hcall hfails => hcall.undone hreported hfounded hfails⟩

/-! The capture device is busy when a second recording is to start. By then the store has opened an
upload for it, which is aborted. -/

def busyOnce : Dict (List (Option String)) := [("start", [none, some "busy"])]

def firstCalls : List RecorderCall :=
  [.run .install, .run (.start "first"), .send ⟨#[1, 2]⟩, .run .stop]

theorem failed_calls_undone_busy :
    ∃ past r r' q, (Scene.opening {} {} [] {} busyOnce {} ⟨0, 0⟩).Course past ⟨r, none⟩ ∧
      r.run (.start "second") = (r', some (.error (.capture "busy"))) ∧ r' = q.passTo q.now ∧
      r.state = .stopped ∧ r'.timeline.keys = ["first.webm", "second.webm"] ∧
      Scene.Call r (.start "second") ⟨q, none⟩ (some (.error (.capture "busy"))) ∧
      Scene.Undone (Terms.abortsPass.Kept []) r ⟨q, none⟩ ∧
      ∀ id ∈ q.timeline.store.memory.pending.keys, id ∈ r.timeline.store.memory.pending.keys := by
  have hreports : ((Scene.opening {} {} [] {} busyOnce {} ⟨0, 0⟩).recorder.reports firstCalls).any
      (fun p => decide (p.1.state = .stopped ∧
        (p.1.run (.start "second")).1.timeline.keys = ["first.webm", "second.webm"] ∧
        (p.1.run (.start "second")).2 = some (.error (.capture "busy")))) = true := by
    decide +kernel
  obtain ⟨⟨r, report⟩, hreports, hend⟩ := (Option.any_eq_true _ _).1 hreports
  obtain ⟨hstate, hkeys, hanswer⟩ := of_decide_eq_true hend
  obtain ⟨hcourses, hundone⟩ := failed_calls_undone {} {} [] {} busyOnce {} ⟨0, 0⟩
  obtain ⟨past, hcourse, -⟩ := hcourses _ _ _ hreports
  obtain ⟨hcalls, hfailed⟩ := hundone past r (.start "second") hcourse
  have hrun : r.run (.start "second") =
      ((r.run (.start "second")).1, some (.error (.capture "busy"))) := Prod.ext rfl hanswer
  obtain ⟨q, hcall, hsettled⟩ := hcalls _ _ hrun
  have hpasses : Terms.abortsPass.Kept [] := fun name calls hnone => by cases hnone
  have hleft := hfailed _ _ hcall (.capture "busy")
  exact ⟨past, r, _, q, hcourse, hrun, hsettled, hstate, hkeys, hcall, hleft, hleft.pending hpasses⟩

end StudySession

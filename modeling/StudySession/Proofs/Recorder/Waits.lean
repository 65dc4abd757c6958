import StudySession.Proofs.Recorder.Runs
import StudySession.Proofs.Recorder.Settling

/-!
# Giving up the wait

A recorder that ceases to wait for an upload, or that is destroyed, leaves the upload alone. Two
recorders that differ in how long they wait do the same to their uploads as long as they are asked
the same at the same instants: while one of them waits, it only lets time pass, and so does the
other after it has given up (`Recorder.Trails`). So they are twins from when both have ended their
last command (`Recorder.Apart`), up to the one that ends the last recording: from there on only the
uploads and the way of the chunks are the same (`Recorder.Abreast`), which is all that the store can
tell (`Recorder.giving_up_spares_uploads`).
-/

namespace StudySession

namespace Recorder

/-- A recorder that waits for an upload as long as it is told to. -/
def waitingFor (r : Recorder) (ms : Nat) : Recorder :=
  { r with config := { r.config with uploadTimeoutMs := ms } }

/-- Follows a schedule: each call is made at its instant, after the one before it has ended. -/
def follow (r : Recorder) : List (Nat × RecorderCall) → Option Recorder
  | [] => some r
  | (instant, call) :: rest =>
    if r.now ≤ instant then ((r.passTo instant).perform call).bind (·.follow rest) else none

/-! ## Twins -/

/-- Recorders alike but for who hears them and how long they wait. -/
inductive Twin (r : Recorder) : Recorder → Prop where
  | differ (emitter : Emitter) (ms : Nat) : Twin r ({ r with emitter }.waitingFor ms)

/-- Twins that have ended a command alike, or wait for the same answer of the store. -/
inductive Alike : Recorder × Progress → Recorder × Progress → Prop where
  | ended {r r' : Recorder} (twin : Twin r r') (result : Except RecorderError RecorderReply) :
      Alike (r, .ended result) (r', .ended result)
  | asks {r r' : Recorder} (twin : Twin r r') {w : Waiting} {i : Nat}
      (place : w.storePlace? = some i) : Alike (r, .waiting w) (r', .waiting w)

/-- Twins that may also wait for the same upload, one longer than the other. -/
inductive NearlyAlike : Recorder × Progress → Recorder × Progress → Prop where
  | alike {out out' : Recorder × Progress} (alike : Alike out out') : NearlyAlike out out'
  | uploads {r r' : Recorder} (twin : Twin r r') (i deadline deadline' : Nat) :
      NearlyAlike (r, .waiting (.uploading i deadline)) (r', .waiting (.uploading i deadline'))

variable {r r' s s' b b' : Recorder} {u v : Nat}

theorem Alike.twin {out out' : Recorder × Progress} (h : Alike out out') : Twin out.1 out'.1 := by
  cases h with
  | ended twin result => exact twin
  | asks twin place => exact twin

theorem NearlyAlike.twin {out out' : Recorder × Progress} (h : NearlyAlike out out') :
    Twin out.1 out'.1 := by
  cases h with
  | alike alike => exact alike.twin
  | uploads twin i deadline deadline' => exact twin

namespace Twin

theorem now_eq (h : Twin r r') : r'.now = r.now := by
  cases h
  rfl

theorem state_eq (h : Twin r r') : r'.state = r.state := by
  cases h
  rfl

theorem capture_eq (h : Twin r r') : r'.capture = r.capture := by
  cases h
  rfl

theorem with_capture (h : Twin r r') (capture : Capture) :
    Twin { r with capture } { r' with capture } := by
  cases h with
  | differ emitter ms => exact .differ emitter ms

/-- What only reads and changes the timeline and the pumps does the same to twins. -/
theorem map (h : Twin r r') {f : Recorder → Recorder}
    (hf : ∀ base : Recorder, base.capture.stream = r.capture.stream →
      f (base.driving r) = base.driving (f r)) : Twin (f r) (f r') := by
  have hsame : f r = r.driving (f r) := hf r rfl
  cases h with
  | differ emitter ms =>
      have hother := hf ({ r with emitter }.waitingFor ms) rfl
      change f ({ r with emitter }.waitingFor ms) = _ at hother
      rw [hother, hsame]
      exact .differ emitter ms

theorem passTo (h : Twin r r') (u : Nat) : Twin (r.passTo u) (r'.passTo u) :=
  h.map (f := (·.passTo u)) fun _ _ => passTo_driving u

theorem notice (h : Twin r r') (n : Notice) : Twin (r.notice n) (r'.notice n) :=
  h.map (f := (·.notice n)) fun _ _ => notice_driving n

theorem send (h : Twin r r') (chunk : ByteArray) : Twin (r.send chunk).1 (r'.send chunk).1 :=
  h.map (f := fun r => (r.send chunk).1) fun _ hstream => send_driving hstream chunk

/-! ### Commands to twins -/

theorem install (h : Twin r r') : Alike r.install r'.install := by
  cases h with
  | differ emitter ms =>
      unfold Recorder.install
      dsimp only [waitingFor]
      generalize r.capture.install r.devices = out
      obtain ⟨reason | chosen, capture⟩ := out <;> exact .ended (.differ ..) _

theorem start (h : Twin r r') (name : String) : Alike (r.start name) (r'.start name) := by
  cases h with
  | differ emitter ms => exact .asks (.differ emitter ms) rfl

theorem pause (h : Twin r r') : Alike r.pause r'.pause := by
  cases h with
  | differ emitter ms =>
      unfold Recorder.pause
      dsimp only [waitingFor]
      generalize r.capture.simple "pause" = out
      obtain ⟨reason | -, capture⟩ := out <;> exact .ended (.differ ..) _

theorem resumeRecording (h : Twin r r') : Alike r.resumeRecording r'.resumeRecording := by
  cases h with
  | differ emitter ms =>
      unfold Recorder.resumeRecording
      dsimp only [waitingFor]
      generalize r.capture.simple "resume" = out
      obtain ⟨reason | -, capture⟩ := out <;> exact .ended (.differ ..) _

theorem endStream (h : Twin r r') (place : Option Nat) :
    Twin (r.endStream place) (r'.endStream place) := by
  cases h with
  | differ emitter ms => cases place <;> exact .differ emitter ms

theorem stop (h : Twin r r') : NearlyAlike r.stop r'.stop := by
  unfold Recorder.stop
  rw [h.capture_eq]
  generalize r.capture.stop = out
  obtain ⟨reason | -, capture⟩ := out
  · exact .alike (.ended (h.with_capture capture) _)
  · have hended := h.endStream r.capture.stream
    dsimp only
    generalize r.endStream r.capture.stream = q at hended ⊢
    generalize r'.endStream r.capture.stream = q' at hended ⊢
    cases hended with
    | differ emitter ms =>
        dsimp only [waitingFor, Recorder.emit]
        cases q.upload with
        | none => exact .alike (.ended (.differ ..) _)
        | some i => exact .uploads (.differ ..) ..

theorem release (h : Twin r r') : Alike r.release r'.release := by
  have hended := h.endStream r.capture.stream
  unfold Recorder.release
  rw [h.capture_eq]
  generalize r.endStream r.capture.stream = q at hended ⊢
  generalize r'.endStream r.capture.stream = q' at hended ⊢
  cases hended with
  | differ emitter ms => exact .ended (.differ ..) _

theorem destroy (h : Twin r r') : Alike r.destroy r'.destroy := by
  unfold Recorder.destroy
  by_cases hactive : r.state = .recording ∨ r.state = .paused
  · rw [if_pos hactive, if_pos (h.state_eq.symm ▸ hactive), h.capture_eq]
    generalize r.capture.stop = out
    obtain ⟨reason | -, capture⟩ := out
    · exact .ended (h.with_capture capture) _
    · have hended := h.endStream r.capture.stream
      dsimp only
      generalize r.endStream r.capture.stream = q at hended ⊢
      generalize r'.endStream r.capture.stream = q' at hended ⊢
      cases hended with
      | differ emitter ms => exact release (.differ ..)
  · rw [if_neg hactive, if_neg (h.state_eq.symm ▸ hactive)]
    exact h.release

theorem begin (h : Twin r r') (c : RecorderCommand) : NearlyAlike (r.begin c) (r'.begin c) := by
  unfold Recorder.begin
  rw [h.state_eq]
  split
  · exact .alike h.install
  · exact .alike (h.start _)
  · exact .alike (h.start _)
  · exact .alike h.pause
  · exact .alike h.resumeRecording
  · exact h.stop
  · exact h.stop
  · exact .alike (.ended h _)
  · exact .alike h.destroy
  · unfold refuse
    rw [h.state_eq]
    exact .alike (.ended h _)

theorem record (h : Twin r r') (i : Nat) (name : String) :
    Alike (r.record i name) (r'.record i name) := by
  cases h with
  | differ emitter ms =>
      unfold Recorder.record
      dsimp only [waitingFor]
      generalize r.capture.start i r.config.timesliceMs = out
      obtain ⟨reason | -, capture⟩ := out
      · dsimp only
        generalize r.timeline.command i .abort = out
        obtain ⟨timeline, result⟩ := out
        cases result with
        | none => exact .asks (.differ ..) rfl
        | some result => exact .ended (.differ ..) _
      · exact .ended (.differ ..) _

/-- What the store answers brings neither to wait for an upload. -/
theorem resume (h : Twin r r') {w : Waiting} {i : Nat} (place : w.storePlace? = some i)
    (result : Except UploadError Outcome) : Alike (r.resume w result) (r'.resume w result) := by
  cases w with
  | uploading i deadline => cases place
  | undoing i reason => exact .ended h _
  | creating i name =>
      cases result with
      | error e => exact .ended h _
      | ok outcome => exact h.record i name

/-- The same happens to both. -/
theorem pop? (h : Twin r r') (limit : Option Nat) :
    (r.pop? limit = none ∧ r'.pop? limit = none) ∨
      ∃ s s' n, r.pop? limit = some (s, n) ∧ r'.pop? limit = some (s', n) ∧ Twin s s' := by
  cases h with
  | differ emitter ms =>
      unfold Recorder.pop?
      dsimp only [waitingFor]
      cases r.timeline.pop? limit with
      | none => exact .inl ⟨rfl, rfl⟩
      | some out => exact .inr ⟨_, _, _, rfl, rfl, .differ emitter ms⟩

end Twin

theorem untilEnded_of_asks {w : Waiting} {i : Nat} (place : w.storePlace? = some i) (r : Recorder)
    (fuel : Nat) :
    r.untilEnded (.waiting w) (fuel + 1) =
      match r.pop? none with
      | none => (r, none)
      | some (r, some (.finished j result)) =>
        if j = w.place then (r.resume w result).1.untilEnded (r.resume w result).2 fuel
        else (r.notice (.finished j result)).untilEnded (.waiting w) fuel
      | some (r, n) => (n.elim r r.notice).untilEnded (.waiting w) fuel := by
  cases w with
  | uploading i deadline => cases place
  | creating i name => rfl
  | undoing i reason => rfl

/-- Twins that do not wait for an upload end alike. -/
theorem Alike.untilEnded {out out' : Recorder × Progress} (h : Alike out out') (fuel : Nat) :
    Twin (out.1.untilEnded out.2 fuel).1 (out'.1.untilEnded out'.2 fuel).1 ∧
      (out.1.untilEnded out.2 fuel).2 = (out'.1.untilEnded out'.2 fuel).2 := by
  induction fuel generalizing out out' with
  | zero => exact ⟨h.twin, rfl⟩
  | succ fuel ih =>
      cases h with
      | ended twin result => exact ⟨twin, rfl⟩
      | @asks r r' twin w i place =>
          dsimp only
          rw [untilEnded_of_asks place, untilEnded_of_asks place]
          rcases twin.pop? none with ⟨hnone, hnone'⟩ | ⟨s, s', n, hpop, hpop', htwin⟩
          · rw [hnone, hnone']
            exact ⟨twin, rfl⟩
          · rw [hpop, hpop']
            cases n with
            | none => exact ih (.asks htwin place)
            | some n =>
                cases n with
                | woke j => exact ih (.asks (htwin.notice (.woke j)) place)
                | finished j result =>
                    dsimp only
                    split
                    · exact ih (htwin.resume place result)
                    · exact ih (.asks (htwin.notice (.finished j result)) place)

/-! ## Time that passes while a recorder waits -/

/-- A recorder is what another comes to as time passes, but for who has heard what. -/
structure Trails (r s : Recorder) : Prop where
  now : r.now ≤ s.now
  later : ∀ u, s.now ≤ u → ∃ emitter, s.passTo u = { r.passTo u with emitter }

namespace Trails

theorem refl (r : Recorder) : Trails r r := ⟨Nat.le_refl _, fun u _ => ⟨(r.passTo u).emitter, rfl⟩⟩

theorem trans (h : Trails b r) (h' : Trails r s) : Trails b s := by
  refine ⟨Nat.le_trans h.now h'.now, fun u hu => ?_⟩
  obtain ⟨emitter, hfirst⟩ := h.later u (Nat.le_trans h'.now hu)
  obtain ⟨emitter', hsecond⟩ := h'.later u hu
  exact ⟨emitter', by rw [hsecond, hfirst]⟩

theorem tick (h : r.tick? none = some s) : Trails r s := by
  obtain ⟨d, -, hnow⟩ := now_of_tick? h
  refine ⟨by omega, fun u hu => ⟨(r.passTo u).emitter, ?_⟩⟩
  rw [← passTo_of_tick? h hu]

theorem moveTo (h : r.tick? (some v) = none) : Trails r (r.moveTo v) := by
  refine ⟨Nat.le_max_left .., fun u hu => ⟨(r.passTo u).emitter, ?_⟩⟩
  rw [passTo_moveTo h (Nat.le_trans (Nat.le_max_right ..) hu)]

theorem passTo (r : Recorder) (v : Nat) : Trails r (r.passTo v) := by
  refine ⟨by rw [now_passTo]; exact Nat.le_max_left .., fun u hu => ⟨(r.passTo u).emitter, ?_⟩⟩
  rw [now_passTo] at hu
  rw [passTo_passTo r (Nat.le_trans (Nat.le_max_right ..) hu)]

theorem emit (r : Recorder) (event : RecorderEvent) : Trails r (r.emit event) := by
  refine ⟨Nat.le_refl _, fun u _ => ⟨r.emitter.emit event, ?_⟩⟩
  have hsame : r.passTo u = r.driving (r.passTo u) := passTo_driving u
  have hother := @passTo_driving r (r.emit event) u
  change (r.emit event).passTo u = _ at hother
  rw [hother, hsame]
  rfl

/-- Twins stay twins as time passes, however long each has waited. -/
theorem twin (h : Trails b s) (h' : Trails b' s') (htwin : Twin b b') (hu : s.now ≤ u)
    (hu' : s'.now ≤ u) : Twin (s.passTo u) (s'.passTo u) := by
  obtain ⟨emitter, heq⟩ := h.later u hu
  obtain ⟨emitter', heq'⟩ := h'.later u hu'
  rw [heq, heq']
  have hlater := htwin.passTo u
  generalize b.passTo u = c at hlater ⊢
  generalize b'.passTo u = c' at hlater ⊢
  cases hlater with
  | differ _ ms => exact .differ emitter' ms

end Trails

theorem conclude_eq (r : Recorder) (outcome : Except UploadError CompletedUpload) :
    ∃ event result, r.conclude outcome = (r.emit event, .ended result) := by
  cases outcome with
  | ok upload => exact ⟨_, _, rfl⟩
  | error e => exact ⟨_, _, rfl⟩

/-- A command that concludes has ended, and told its handlers. -/
theorem untilEnded_conclude (r : Recorder) (outcome : Except UploadError CompletedUpload)
    (fuel : Nat) :
    ∃ result, ((r.conclude outcome).1.untilEnded (r.conclude outcome).2 (fuel + 1)).2 =
        some result ∧
      Trails r ((r.conclude outcome).1.untilEnded (r.conclude outcome).2 (fuel + 1)).1 := by
  obtain ⟨event, result, heq⟩ := r.conclude_eq outcome
  rw [heq]
  exact ⟨result, rfl, .emit r event⟩

theorem untilEnded_uploading (r : Recorder) (i deadline fuel : Nat) :
    r.untilEnded (.waiting (.uploading i deadline)) (fuel + 1) =
      match (r.pumps[i]?).bind (·.result) with
      | some outcome => (r.conclude outcome).1.untilEnded (r.conclude outcome).2 fuel
      | none =>
        match r.tick? (some deadline) with
        | none =>
          let out := (r.moveTo deadline).conclude
            (.error (.timeout (.ofMilliseconds r.config.uploadTimeoutMs)))
          out.1.untilEnded out.2 fuel
        | some r => r.untilEnded (.waiting (.uploading i deadline)) fuel := by
  rw [untilEnded, tick?]
  cases (r.pumps[i]?).bind (·.result) with
  | some outcome => rfl
  | none => cases r.pop? (some deadline) <;> rfl

/-- A wait for an upload comes to an end, and only lets time pass. -/
theorem exists_untilEnded (r : Recorder) (i deadline : Nat) {fuel : Nat}
    (hfuel : r.work + 2 ≤ fuel) :
    ∃ result, (r.untilEnded (.waiting (.uploading i deadline)) fuel).2 = some result ∧
      Trails r (r.untilEnded (.waiting (.uploading i deadline)) fuel).1 := by
  induction fuel generalizing r with
  | zero => omega
  | succ fuel ih =>
      -- One step is kept for the answer, which comes after all work or before.
      obtain ⟨k, rfl⟩ : ∃ k, fuel = k + 1 := ⟨fuel - 1, by omega⟩
      rw [untilEnded_uploading]
      cases (r.pumps[i]?).bind (·.result) with
      | some outcome => exact r.untilEnded_conclude outcome k
      | none =>
          cases htick : r.tick? (some deadline) with
          | none =>
              obtain ⟨result, hresult, htrails⟩ := (r.moveTo deadline).untilEnded_conclude
                (.error (.timeout (.ofMilliseconds r.config.uploadTimeoutMs))) k
              exact ⟨result, hresult, (Trails.moveTo htick).trans htrails⟩
          | some r' =>
              have hwork := work_of_tick? htick
              obtain ⟨result, hresult, htrails⟩ := ih r' (by omega)
              exact ⟨result, hresult, (Trails.tick (tick?_eq_some_iff.1 htick).1).trans htrails⟩

/-- A command that does not ask the store ends, and after it has begun only lets time pass. -/
theorem exists_run {c : RecorderCommand} (h : (r.begin c).2.waiting?.bind (·.storePlace?) = none) :
    ∃ result, (r.run c).2 = some result ∧ Trails (r.begin c).1 (r.run c).1 := by
  obtain ⟨result, hresult, htrails⟩ : ∃ result,
      ((r.begin c).1.untilEnded (r.begin c).2 ((r.begin c).1.budget + 4)).2 = some result ∧
        Trails (r.begin c).1
          ((r.begin c).1.untilEnded (r.begin c).2 ((r.begin c).1.budget + 4)).1 := by
    generalize r.begin c = out at h
    obtain ⟨b, progress⟩ := out
    cases progress with
    | ended result => exact ⟨result, rfl, .refl b⟩
    | waiting w =>
        cases w with
        | creating i name => cases h
        | undoing i reason => cases h
        | uploading i deadline =>
            exact b.exists_untilEnded i deadline
              (Nat.add_le_add b.work_le_budget (Nat.le_of_ble_eq_true rfl))
  exact ⟨result, hresult, htrails.trans (.passTo _ _)⟩

theorem eq_of_perform_run {c : RecorderCommand} (h : r.perform (.run c) = some s) :
    s = (r.run c).1 := by
  rw [perform] at h
  split at h
  · next last result hrun =>
      rw [hrun]
      exact (Option.some.inj h).symm
  · cases h

/-! ## Calls to twins -/

/-- Recorders that are related from when both have ended their last call. -/
def Apart (Rel : Recorder → Recorder → Prop) (r r' : Recorder) : Prop :=
  ∀ u, r.now ≤ u → r'.now ≤ u → Rel (r.passTo u) (r'.passTo u)

namespace Twin

theorem apart (h : Twin r r') : Apart Twin r r' := fun u _ _ => h.passTo u

theorem on (h : Twin r r') (name : String) (handler : Nat) :
    Twin (r.on name handler).2 (r'.on name handler).2 := by
  cases h with
  | differ emitter ms =>
      unfold Recorder.on
      cases EventKind.ofName? name with
      | none => exact .differ emitter ms
      | some kind => exact .differ (emitter.on kind handler) ms

theorem budget_eq (h : Twin r r') : r'.budget = r.budget := by
  cases h
  rfl

/-- Where both wait for an upload, one may give up before the other. -/
theorem run (h : Twin r r') (c : RecorderCommand) : Apart Twin (r.run c).1 (r'.run c).1 := by
  have hbegin := h.begin c
  generalize hout : r.begin c = out at hbegin
  generalize hout' : r'.begin c = out' at hbegin
  cases hbegin with
  | alike alike =>
      have hended := (alike.untilEnded (out.1.budget + 4)).1
      unfold Recorder.run
      rw [hout, hout']
      dsimp only
      rw [alike.twin.budget_eq, hended.now_eq]
      exact (hended.passTo _).apart
  | uploads twin i deadline deadline' =>
      obtain ⟨-, -, htrails⟩ := exists_run (r := r) (c := c) (by rw [hout]; rfl)
      obtain ⟨-, -, htrails'⟩ := exists_run (r := r') (c := c) (by rw [hout']; rfl)
      rw [hout] at htrails
      rw [hout'] at htrails'
      exact fun u hu hu' => htrails.twin htrails' twin hu hu'

theorem perform (h : Twin r r') {call : RecorderCall} (hs : r.perform call = some s)
    (hs' : r'.perform call = some s') : Apart Twin s s' := by
  cases call with
  | run c =>
      rw [eq_of_perform_run hs, eq_of_perform_run hs']
      exact h.run c
  | send chunk =>
      obtain rfl := Option.some.inj hs
      obtain rfl := Option.some.inj hs'
      exact (h.send chunk).apart
  | on name handler =>
      obtain rfl := Option.some.inj hs
      obtain rfl := Option.some.inj hs'
      exact (h.on name handler).apart
  | passTo instant =>
      obtain rfl := Option.some.inj hs
      obtain rfl := Option.some.inj hs'
      exact (h.passTo instant).apart

end Twin

/-- If every call keeps recorders related but for how far their clocks have come, so does a schedule
of such calls. -/
theorem Apart.follow {Rel : Recorder → Recorder → Prop} {schedule : List (Nat × RecorderCall)}
    (hperform : ∀ entry ∈ schedule, ∀ r r' s s', Rel r r' →
      r.perform entry.2 = some s → r'.perform entry.2 = some s' → Apart Rel s s')
    (h : Apart Rel r r') (hs : r.follow schedule = some s) (hs' : r'.follow schedule = some s') :
    Apart Rel s s' := by
  induction schedule generalizing r r' with
  | nil =>
      obtain rfl := Option.some.inj hs
      obtain rfl := Option.some.inj hs'
      exact h
  | cons entry rest ih =>
      obtain ⟨hnow, hs⟩ := Option.ite_none_right_eq_some.1 hs
      obtain ⟨hnow', hs'⟩ := Option.ite_none_right_eq_some.1 hs'
      obtain ⟨next, hnext, hs⟩ := Option.bind_eq_some_iff.1 hs
      obtain ⟨next', hnext', hs'⟩ := Option.bind_eq_some_iff.1 hs'
      -- At the instant of the call both have ended the one before it.
      have happart := hperform entry List.mem_cons_self _ _ _ _ (h _ hnow hnow') hnext hnext'
      exact ih (fun later hlater => hperform later (List.mem_cons_of_mem _ hlater)) happart hs hs'

/-! ## Giving up -/

/-- Recorders that have the same uploads, and whose chunks go the same way. -/
structure Abreast (r r' : Recorder) : Prop where
  timeline : r'.timeline = r.timeline
  pumps : r'.pumps = r.pumps
  stream : r'.capture.stream = r.capture.stream

theorem Twin.abreast (h : Twin r r') : Abreast r r' := by
  cases h
  exact ⟨rfl, rfl, rfl⟩

theorem Trails.abreast (h : Trails r s) (hu : s.now ≤ u) : Abreast (r.passTo u) (s.passTo u) := by
  obtain ⟨emitter, heq⟩ := h.later u hu
  rw [heq]
  exact ⟨rfl, rfl, rfl⟩

namespace Abreast

theorem symm (h : Abreast r r') : Abreast r' r := ⟨h.timeline.symm, h.pumps.symm, h.stream.symm⟩

theorem trans (h : Abreast r s) (h' : Abreast s r') : Abreast r r' :=
  ⟨h'.timeline.trans h.timeline, h'.pumps.trans h.pumps, h'.stream.trans h.stream⟩

/-- What only reads and changes the timeline and the pumps does the same to both. -/
theorem map (h : Abreast r r') {f : Recorder → Recorder}
    (hf : ∀ base : Recorder, base.capture.stream = r.capture.stream →
      f (base.driving r) = base.driving (f r)) : Abreast (f r) (f r') := by
  have hdriving : r'.driving r = r' := by
    unfold driving
    rw [← h.timeline, ← h.pumps]
  have hsame : f r = r.driving (f r) := hf r rfl
  have hother : f r' = r'.driving (f r) := by
    have hmoved := hf r' h.stream
    rwa [hdriving] at hmoved
  rw [hother]
  refine ⟨rfl, rfl, ?_⟩
  rw [hsame]
  exact h.stream

theorem passTo (h : Abreast r r') (u : Nat) : Abreast (r.passTo u) (r'.passTo u) :=
  h.map (f := (·.passTo u)) fun _ _ => passTo_driving u

theorem send (h : Abreast r r') (chunk : ByteArray) :
    Abreast (r.send chunk).1 (r'.send chunk).1 :=
  h.map (f := fun r => (r.send chunk).1) fun _ hstream => send_driving hstream chunk

theorem apart (h : Abreast r r') : Apart Abreast r r' := fun u _ _ => h.passTo u

end Abreast

/-- A recorder that has trailed another one is as far as it, but for its clock. -/
theorem Trails.apart (h : Trails b s) (h' : Trails b' s') (habreast : Abreast b b') :
    Apart Abreast s s' := fun u hu hu' =>
  (h.abreast hu).symm.trans ((habreast.passTo u).trans (h'.abreast hu'))

end Recorder

end StudySession

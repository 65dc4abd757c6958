import StudySession.Proofs.Recorder.Fronts
import StudySession.Proofs.Recorder.Runs
import StudySession.Proofs.Recorder.Sessions

/-!
# How a recorder uses its capture device

A capture device notes every call on it, and its script says which of them fail; so the calls that
were tried, and which succeeded, can be read off the notes (`attempts`). A recorder tries a call
only where one is to be made (`Uses`), and its state is the one that the successful calls lead to.
-/

namespace StudySession

/-! ## What a capture device noted -/

namespace DeviceCall

def all : List DeviceCall := [install, start, pause, resume, stop, release]

def name : DeviceCall → String
  | install => "install"
  | start => "start"
  | pause => "pause"
  | resume => "resume"
  | stop => "stop"
  | release => "release"

/-- The call that a note is of; other notes say more of the call before. -/
def ofName? (note : String) : Option DeviceCall := all.find? (·.name == note)

@[simp] theorem ofName?_name (call : DeviceCall) : ofName? call.name = some call := by
  cases call <;> decide

theorem ofName?_timeslice (ms : Nat) : ofName? ("timeslice " ++ toString ms) = none := by
  refine List.find?_eq_none.2 fun call _ heq => ?_
  -- it is longer than any name
  have hlength := congrArg String.length (beq_iff_eq.1 heq)
  have hshort : call.name.length ≤ 7 := by cases call <;> decide
  have hlong : "timeslice ".length = 10 := by decide
  rw [String.length_append] at hlength
  omega

end DeviceCall

/-- Reads a note: what is left of the script, and the call after those before, with its success. -/
def replayNote :
    Dict (List (Option String)) × List (DeviceCall × Bool) → String →
      Dict (List (Option String)) × List (DeviceCall × Bool)
  | (script, tried), note =>
    match DeviceCall.ofName? note with
    | none => (script, tried)
    | some .release => (script, tried ++ [(.release, true)])
    | some call =>
      match script.get? note with
      | some (failure :: rest) => (script.insert note rest, tried ++ [(call, failure.isNone)])
      | _ => (script, tried ++ [(call, true)])

/-- Reads all notes of a device that began with a script. -/
def replay (script : Dict (List (Option String))) (notes : List String) :
    Dict (List (Option String)) × List (DeviceCall × Bool) :=
  notes.foldl replayNote (script, [])

/-- The calls that were tried on a device, and whether they succeeded. -/
def attempts (script : Dict (List (Option String))) (notes : List String) :
    List (DeviceCall × Bool) :=
  (replay script notes).2

/-- Those that succeeded. -/
def successes (tried : List (DeviceCall × Bool)) : List DeviceCall :=
  tried.filterMap fun (call, succeeded) => if succeeded then some call else none

section Notes

variable {script : Dict (List (Option String))} {tried : List (DeviceCall × Bool)} {c c' : Capture}
  {call : DeviceCall}

/-- The notes of a device lead to what is left of its script. -/
def Capture.Tracks (script : Dict (List (Option String))) (tried : List (DeviceCall × Bool))
    (c : Capture) : Prop :=
  replay script c.calls = (c.failures, tried)

/-- A call that is noted takes its failure from the script. -/
theorem Capture.Tracks.noted (h : c.Tracks script tried) (call : DeviceCall)
    (hcall : call ≠ .release) {failure : Option String} (heq : c.call call.name = (failure, c')) :
    c'.Tracks script (tried ++ [(call, failure.isNone)]) := by
  have hnote : replay script (c.calls ++ [call.name]) =
      replayNote (c.failures, tried) call.name := by
    rw [replay, List.foldl_append, ← replay, h]
    rfl
  have hread : replayNote (c.failures, tried) call.name =
      match c.failures.get? call.name with
      | some (failure :: rest) =>
        (c.failures.insert call.name rest, tried ++ [(call, failure.isNone)])
      | _ => (c.failures, tried ++ [(call, true)]) := by
    rw [replayNote, DeviceCall.ofName?_name]
    cases call with
    | release => exact absurd rfl hcall
    | _ => rfl
  rw [Capture.call] at heq
  rw [Capture.Tracks]
  rcases hscript : c.failures.get? call.name with _ | _ | ⟨failure, rest⟩
  all_goals
    rw [hscript] at heq hread
    obtain ⟨rfl, rfl⟩ := Prod.mk.inj heq
    exact hnote.trans hread

/-- Every call is read off the notes as it was tried. -/
theorem Capture.Tries.tracks {failure : Option String} (htries : c.Tries call failure c')
    (h : c.Tracks script tried) : c'.Tracks script (tried ++ [(call, failure.isNone)]) := by
  have hsimple : ∀ call : DeviceCall, call ≠ .release →
      (c.simple call.name).2.Tracks script
        (tried ++ [(call, (failure? (c.simple call.name).1).isNone)]) := by
    intro call hcall
    unfold Capture.simple
    split <;> next heq => exact h.noted call hcall heq
  cases htries with
  | install preferred =>
      unfold Capture.install
      split <;> next heq => exact h.noted .install (by decide) heq
  | pause => exact hsimple .pause (by decide)
  | resume => exact hsimple .resume (by decide)
  | stop =>
      unfold Capture.stop
      split <;> next heq =>
        have hnoted := h.noted .stop (by decide) heq
        exact hnoted
  | start recording timesliceMs =>
      unfold Capture.start
      split
      · next heq => exact h.noted .start (by decide) heq
      · next after heq =>
          -- the timeslice is noted too, and is no call
          have hnoted := h.noted .start (by decide) heq
          rw [Capture.Tracks] at hnoted ⊢
          dsimp only
          rw [replay, List.foldl_append, ← replay, hnoted, List.foldl_cons, List.foldl_nil,
            replayNote, DeviceCall.ofName?_timeslice]
          rfl
  | release =>
      rw [Capture.Tracks, Capture.release]
      dsimp only
      rw [replay, List.foldl_append, ← replay, h]
      rfl

end Notes

/-! ## What may be called -/

/-- The calls of recordings on a device. -/
def deviceWords : SessionWords DeviceCall where
  opening := .install
  start := .start
  pause := .pause
  resume := .resume
  ending := .char .stop

/-- What a device is for: `install (start (pause resume)* pause? stop)* release`. -/
def usage : RegularExpression DeviceCall := deviceWords.sessions * .char .release

/-- Successful calls that are on their way to a full use of the device, or release it at once. -/
def Permitted (w : List DeviceCall) : Prop := Continues usage.matches' w ∨ w = [.release]

/-- The successful calls that lead to a state. -/
def Reached : RecorderState → List DeviceCall → Prop
  | .uninitialized, w => w = []
  | .installed, w | .stopped, w => w ∈ deviceWords.resting
  | .recording, w => w ∈ deviceWords.running
  | .paused, w => w ∈ deviceWords.held
  | .destroyed, w => w ∈ usage.matches' ∨ w = [.release]

section Words

variable {q q' : RecorderState} {call : DeviceCall} {w : List DeviceCall}

theorem release_mem (h : w ∈ deviceWords.resting) : w ++ [.release] ∈ usage.matches' :=
  Language.append_mem_mul h (rfl : [DeviceCall.release] = [.release])

theorem Reached.use (h : Reached q w) (huse : q.use? call = some q') :
    Reached q' (w ++ [call]) := by
  unfold RecorderState.use? at huse
  split at huse
  · obtain rfl := Option.some.inj huse
    obtain rfl : w = [] := h
    exact SessionWords.opening_mem (v := deviceWords)
  · obtain rfl := Option.some.inj huse
    exact SessionWords.start_mem (v := deviceWords) h
  · obtain rfl := Option.some.inj huse
    exact SessionWords.start_mem (v := deviceWords) h
  · obtain rfl := Option.some.inj huse
    exact SessionWords.pause_mem (v := deviceWords) h
  · obtain rfl := Option.some.inj huse
    exact SessionWords.resume_mem (v := deviceWords) h
  · obtain rfl := Option.some.inj huse
    exact SessionWords.ending_mem (v := deviceWords) (.inl h) (rfl : [DeviceCall.stop] = [.stop])
  · obtain rfl := Option.some.inj huse
    exact SessionWords.ending_mem (v := deviceWords) (.inr h) (rfl : [DeviceCall.stop] = [.stop])
  · obtain rfl := Option.some.inj huse
    obtain rfl : w = [] := h
    exact .inr rfl
  · obtain rfl := Option.some.inj huse
    exact .inl (release_mem h)
  · obtain rfl := Option.some.inj huse
    exact .inl (release_mem h)
  · cases huse

/-- Whatever state was reached, the device may be used further, or was released. -/
theorem Reached.permitted (h : Reached q w) : Permitted w := by
  have hcontinues : (w = [] ∨ w ∈ deviceWords.resting ∨ w ∈ deviceWords.running ∨
      w ∈ deviceWords.held) → Permitted w := by
    intro h
    obtain ⟨rest, hrest⟩ :=
      SessionWords.continues_of_mem (v := deviceWords) (e := [.stop])
        (rfl : [DeviceCall.stop] = [.stop]) h
    refine .inl ⟨rest ++ [.release], ?_⟩
    rw [← List.append_assoc]
    exact release_mem hrest
  cases q with
  | uninitialized => exact hcontinues (.inl h)
  | installed => exact hcontinues (.inr (.inl h))
  | stopped => exact hcontinues (.inr (.inl h))
  | recording => exact hcontinues (.inr (.inr (.inl h)))
  | paused => exact hcontinues (.inr (.inr (.inr h)))
  | destroyed =>
      rcases h with h | h
      · exact .inl ⟨[], by rwa [List.append_nil]⟩
      · exact .inr h

end Words

/-! ## What is called -/

/-- The calls that were tried on a device whose recorder is in a state: each where one was to be
made, and those that succeeded led there. -/
inductive Uses : RecorderState → List (DeviceCall × Bool) → Prop where
  | fresh : Uses .uninitialized []
  | failed {q : RecorderState} {tried : List (DeviceCall × Bool)} {call : DeviceCall}
      (sofar : Uses q tried) (permitted : (q.use? call).isSome = true) :
      Uses q (tried ++ [(call, false)])
  | done {q q' : RecorderState} {tried : List (DeviceCall × Bool)} {call : DeviceCall}
      (sofar : Uses q tried) (used : q.use? call = some q') : Uses q' (tried ++ [(call, true)])

/-- The calls that were tried on a device and the state of its recorder. -/
structure UsedWell (tried : List (DeviceCall × Bool)) (q : RecorderState) : Prop where
  /-- The successful calls are part of a proper use. -/
  permitted : Permitted (successes tried)
  /-- So would each call have been that was tried. -/
  attempts : ∀ before call succeeded after, tried = before ++ (call, succeeded) :: after →
    Permitted (successes before ++ [call])
  /-- The state is the one that the successful calls lead to. -/
  state : (successes tried).foldlM RecorderState.use? .uninitialized = some q
  destroyed_iff : q = .destroyed ↔ .release ∈ successes tried
  /-- After a release nothing is called. -/
  released : ∀ before after, tried = before ++ (.release, true) :: after → after = []

section Uses

variable {q q' : RecorderState} {tried : List (DeviceCall × Bool)} {call : DeviceCall}

theorem successes_snoc (succeeded : Bool) :
    successes (tried ++ [(call, succeeded)]) =
      successes tried ++ if succeeded then [call] else [] := by
  rw [successes, List.filterMap_append]
  cases succeeded <;> rfl

/-- A device is released into one state, which nothing leads out of. -/
theorem use?_release (huse : q.use? call = some q') : q ≠ .destroyed ∧
    (q' = .destroyed ↔ call = .release) := by
  cases q <;> cases call <;> simp_all [RecorderState.use?, eq_comm]

theorem Uses.state (h : Uses q tried) :
    (successes tried).foldlM RecorderState.use? .uninitialized = some q := by
  induction h with
  | fresh => rfl
  | failed sofar permitted ih => rwa [successes_snoc, if_neg (by simp), List.append_nil]
  | done sofar used ih =>
      rw [successes_snoc, if_pos rfl, List.foldlM_append, ih, Option.bind_eq_bind,
        Option.bind_some, List.foldlM_cons, used]
      rfl

theorem Uses.reached (h : Uses q tried) : Reached q (successes tried) := by
  induction h with
  | fresh => rfl
  | failed sofar permitted ih => rwa [successes_snoc, if_neg (by simp), List.append_nil]
  | done sofar used ih =>
      rw [successes_snoc, if_pos rfl]
      exact ih.use used

theorem Uses.destroyed_iff (h : Uses q tried) : q = .destroyed ↔ .release ∈ successes tried := by
  induction h with
  | fresh => simp [successes]
  | failed sofar permitted ih => rwa [successes_snoc, if_neg (by simp), List.append_nil]
  | done sofar used ih =>
      obtain ⟨hlive, hrelease⟩ := use?_release used
      rw [successes_snoc, if_pos rfl, List.mem_append, ← ih, List.mem_singleton, hrelease]
      exact ⟨fun h => .inr h.symm, fun h => h.elim (fun h => absurd h hlive) Eq.symm⟩

/-- What was tried last, or before. -/
theorem split_snoc {before after : List (DeviceCall × Bool)} {x y : DeviceCall × Bool}
    (h : tried ++ [x] = before ++ y :: after) :
    after = [] ∧ before = tried ∧ y = x ∨
      ∃ rest, after = rest ++ [x] ∧ tried = before ++ y :: rest := by
  rcases List.eq_nil_or_concat after with rfl | ⟨rest, last, rfl⟩
  · obtain ⟨rfl, hlast⟩ := List.append_inj' h rfl
    exact .inl ⟨rfl, rfl, (List.cons.inj hlast).1.symm⟩
  · rw [List.concat_eq_append, ← List.cons_append, ← List.append_assoc] at h
    obtain ⟨rfl, hlast⟩ := List.append_inj' h rfl
    obtain rfl := (List.cons.inj hlast).1
    exact .inr ⟨rest, List.concat_eq_append, rfl⟩

theorem Uses.attempts (h : Uses q tried) {before after : List (DeviceCall × Bool)}
    {succeeded : Bool}
    (heq : tried = before ++ (call, succeeded) :: after) :
    Permitted (successes before ++ [call]) := by
  induction h generalizing after with
  | fresh => simp at heq
  | failed sofar permitted ih =>
      rcases split_snoc heq with ⟨-, rfl, hlast⟩ | ⟨rest, -, hbefore⟩
      · obtain ⟨rfl, -⟩ := Prod.mk.inj hlast
        obtain ⟨next, hnext⟩ := Option.isSome_iff_exists.1 permitted
        exact (sofar.reached.use hnext).permitted
      · exact ih hbefore
  | done sofar used ih =>
      rcases split_snoc heq with ⟨-, rfl, hlast⟩ | ⟨rest, -, hbefore⟩
      · obtain ⟨rfl, -⟩ := Prod.mk.inj hlast
        exact (sofar.reached.use used).permitted
      · exact ih hbefore

theorem Uses.released (h : Uses q tried) {before after : List (DeviceCall × Bool)}
    (heq : tried = before ++ (.release, true) :: after) : after = [] := by
  have hmem : ∀ {q tried rest}, Uses q tried → tried = before ++ (.release, true) :: rest →
      q = .destroyed := by
    intro q tried rest huses heq
    refine huses.destroyed_iff.2 (List.mem_filterMap.2 ⟨(.release, true), ?_, rfl⟩)
    rw [heq]
    exact List.mem_append_right _ List.mem_cons_self
  cases h with
  | fresh => simp at heq
  | failed sofar permitted =>
      rcases split_snoc heq with ⟨hnone, -, -⟩ | ⟨rest, -, hbefore⟩
      · exact hnone
      · obtain rfl := hmem sofar hbefore
        simp [RecorderState.use?] at permitted
  | done sofar used =>
      rcases split_snoc heq with ⟨hnone, -, -⟩ | ⟨rest, -, hbefore⟩
      · exact hnone
      · exact absurd (hmem sofar hbefore) (use?_release used).1

theorem Uses.usedWell (h : Uses q tried) : UsedWell tried q where
  permitted := h.reached.permitted
  attempts := fun _ _ _ _ heq => h.attempts heq
  state := h.state
  destroyed_iff := h.destroyed_iff
  released := fun _ _ heq => h.released heq

end Uses

/-! ## What a recorder calls -/

/-- The device of a recorder was used as its notes tell, and a recording is about to start only
where the device may be started. -/
structure Front.InUse (script : Dict (List (Option String))) (f : Front) : Prop where
  uses : ∃ tried, f.capture.Tracks script tried ∧ Uses f.state tried
  creating : ∀ i name, f.waiting = some (.creating i name) →
    f.state = .installed ∨ f.state = .stopped

namespace Front

variable {script : Dict (List (Option String))} {f f' : Front} {label : Label}

theorem InUse.usedWell (h : f.InUse script) :
    UsedWell (attempts script f.capture.calls) f.state := by
  obtain ⟨tried, htracks, huses⟩ := h.uses
  rw [attempts, htracks]
  exact huses.usedWell

/-- A call that fails leaves the state. -/
theorem InUse.failed (h : f.InUse script) {call : DeviceCall} {reason : String} {capture : Capture}
    (tried : f.capture.Tries call (some reason) capture)
    (permitted : (f.state.use? call).isSome = true) :
    ∃ tried, capture.Tracks script tried ∧ Uses f.state tried := by
  obtain ⟨before, htracks, huses⟩ := h.uses
  exact ⟨_, tried.tracks htracks, huses.failed permitted⟩

/-- One that succeeds leads on. -/
theorem InUse.done (h : f.InUse script) {call : DeviceCall} {capture : Capture}
    (tried : f.capture.Tries call none capture) {q : RecorderState}
    (used : f.state.use? call = some q) : ∃ tried, capture.Tracks script tried ∧ Uses q tried := by
  obtain ⟨before, htracks, huses⟩ := h.uses
  exact ⟨_, tried.tracks htracks, huses.done used⟩

theorem use?_start {q : RecorderState} (h : q = .installed ∨ q = .stopped) :
    q.use? .start = some .recording := by
  rcases h with rfl | rfl <;> rfl

theorem use?_stop {q : RecorderState} (h : q = .recording ∨ q = .paused) :
    q.use? .stop = some .stopped := by
  rcases h with rfl | rfl <;> rfl

/-- Every step uses the device as it is meant to be. -/
theorem InUse.step (h : f.InUse script) (hstep : f.Step label f') : f'.InUse script := by
  have hidle : f.waiting = none → ∀ i name, f.waiting = some (.creating i name) →
      f.state = .installed ∨ f.state = .stopped := fun hidle i name heq => by
    rw [hidle] at heq
    cases heq
  cases hstep with
  | behind kept => exact ⟨h.uses, h.creating⟩
  | registered kind handler => exact ⟨h.uses, h.creating⟩
  | misnamed handler => exact h
  | refused c idle => exact h
  | failed idle permitted tried => exact ⟨h.failed tried permitted, h.creating⟩
  | installed idle state tried =>
      exact ⟨h.done tried (by rw [state]; rfl), fun i name heq => .inl rfl⟩
  | asked name idle state => exact ⟨h.uses, fun i name heq => state⟩
  | uncreated error waits => exact ⟨h.uses, nofun⟩
  | started instant waits tried => exact ⟨h.done tried (use?_start (h.creating _ _ waits)), nofun⟩
  | undoing waits tried =>
      exact ⟨h.failed tried (by rw [use?_start (h.creating _ _ waits)]; rfl), nofun⟩
  | unstarted waits tried =>
      exact ⟨h.failed tried (by rw [use?_start (h.creating _ _ waits)]; rfl), nofun⟩
  | undone waits => exact ⟨h.uses, nofun⟩
  | paused seconds idle state tried =>
      refine ⟨h.done tried (by rw [state]; rfl), fun i name heq => ?_⟩
      cases idle.symm.trans heq
  | resumed seconds idle state tried =>
      refine ⟨h.done tried (by rw [state]; rfl), fun i name heq => ?_⟩
      cases idle.symm.trans heq
  | stopped deadline seconds idle state held tried =>
      exact ⟨h.done tried (use?_stop state), nofun⟩
  | stranded seconds idle state bare tried =>
      exact ⟨h.done tried (use?_stop state), fun i name heq => .inr rfl⟩
  | completed waits ended => exact ⟨h.uses, nofun⟩
  | lost error waits => exact ⟨h.uses, nofun⟩
  | released idle state =>
      refine ⟨h.done .release ?_, fun i name heq => ?_⟩
      · rcases state with state | state | state <;> rw [state] <;> rfl
      · cases idle.symm.trans heq
  | dismantled idle state tried =>
      obtain ⟨before, htracks, huses⟩ := h.done tried (use?_stop state)
      refine ⟨⟨_, Capture.Tries.release.tracks htracks, huses.done rfl⟩, fun i name heq => ?_⟩
      cases idle.symm.trans heq
  | redestroyed idle state => exact h

/-- A command that does not fit the state changes nothing. -/
theorem Step.eq_of_refused {q : RecorderState} {c : RecorderCommand} (hstep : f.Step label f')
    (hresult : label.result? = some (.error (.invalidTransition q c))) :
    label.command? = some c ∧ q = f.state ∧ f.waiting = none ∧ f' = f := by
  cases hstep with
  | refused c' idle =>
      obtain ⟨rfl, rfl⟩ :=
        RecorderError.invalidTransition.inj (Except.error.inj (Option.some.inj hresult))
      exact ⟨rfl, rfl, idle, rfl⟩
  | _ => cases hresult

end Front

/-! ## What is refused -/

/-- A command is refused by the state alone. -/
theorem Recorder.begin_eq_refuse {r : Recorder} {c d : RecorderCommand} {q : RecorderState}
    (h : (r.begin c).2.result? = some (.error (.invalidTransition q d))) :
    r.begin c = r.refuse c := by
  have hstop : r.stop.2.result? ≠ some (.error (.invalidTransition q d)) := by
    unfold Recorder.stop
    split
    · nofun
    · dsimp only
      split <;> nofun
  unfold Recorder.begin at h ⊢
  split at h
  · unfold Recorder.install at h
    split at h <;> cases h
  · cases h
  · cases h
  · unfold Recorder.pause at h
    split at h <;> cases h
  · unfold Recorder.resumeRecording at h
    split at h <;> cases h
  · exact absurd h hstop
  · exact absurd h hstop
  · cases h
  · unfold Recorder.destroy at h
    split at h
    · split at h <;> cases h
    · cases h
  · rfl

/-- A command that is refused leaves everything as it is. -/
theorem Scene.eq_of_refused {s s' : Scene} {a : Act} {q : RecorderState} {c : RecorderCommand}
    (h : s.act? a = some s')
    (hresult : (Turn.mk s a s').result? = some (.error (.invalidTransition q c))) :
    a = .move (.begin c) ∧ q = s.recorder.state ∧ s' = s := by
  obtain ⟨hcommand, hstate, hidle, -⟩ := (front_step h).eq_of_refused hresult
  obtain ⟨r, w⟩ := s
  obtain rfl : w = none := hidle
  have hact : a = .move (.begin c) := by
    unfold Turn.label Turn.command? at hcommand
    dsimp only at hcommand
    split at hcommand
    · obtain rfl := Option.some.inj hcommand
      rfl
    · cases hcommand
  subst hact
  obtain rfl := Option.some.inj h
  exact ⟨rfl, hstate, congrArg after (Recorder.begin_eq_refuse hresult)⟩

/-! ## Whatever is asked -/

/-- A recorder uses its capture device as it is meant to be, in whatever order its commands are
given and however the device and the store fail; and a command that it refuses touches neither of
them. What calls on the recorder come to is one of its courses. -/
theorem device_used_well (config : RecorderConfig) (uploadConfig : UploadConfig)
    (script : Dict (List ScriptedCall)) (available : DeviceChoice)
    (failures : Dict (List (Option String))) (preferred : DeviceChoice) (origin : Timestamp) :
    let opening := Scene.opening config uploadConfig script available failures preferred origin
    (∀ calls r report, opening.recorder.reports calls = some (r, report) →
      ∃ turns, opening.Course turns ⟨r, none⟩ ∧ sightsOf turns = report) ∧
    ∀ turns scene, opening.Course turns scene →
      UsedWell (attempts failures scene.recorder.capture.calls) scene.recorder.state ∧
      ∀ t ∈ turns, ∀ q c, t.result? = some (.error (.invalidTransition q c)) →
        t.act = .move (.begin c) ∧ q = t.before.recorder.state ∧ t.after = t.before := by
  intro opening
  refine ⟨fun calls r report => Scene.course_of_reports, fun turns scene hcourse => ⟨?_, ?_⟩⟩
  · have hopening : opening.front.InUse failures := ⟨⟨[], rfl, .fresh⟩, nofun⟩
    have hused : scene.front.InUse failures :=
      hcourse.kept (P := fun _ s => s.front.InUse failures) hopening
        fun turns s a s' _ hused hact => hused.step (Scene.front_step hact)
    exact hused.usedWell
  · intro t ht q c hresult
    obtain ⟨earlier, later, rfl⟩ := List.append_of_mem ht
    obtain ⟨-, hact, -⟩ := hcourse.split
    exact Scene.eq_of_refused hact hresult

/-! A recorder is paused too early, and cannot be started again after its recording; so it is
destroyed, and then refuses to be installed. -/

def busyDevice : Dict (List (Option String)) := [("start", [none, some "busy"])]

def busyCalls : List RecorderCall :=
  [.run .pause, .run .install, .run (.start "first"), .run .pause, .run .stop,
    .run (.start "second"), .run .destroy, .run .install]

/-- What was refused, by its state and command. -/
def refusals (report : List Sight) : List (RecorderState × RecorderCommand) :=
  report.filterMap fun
    | .result (.error (.invalidTransition q c)) => some (q, c)
    | _ => none

theorem device_used_well_busy :
    ∃ r report, (Scene.opening {} {} [] {} busyDevice {} ⟨0, 0⟩).recorder.reports busyCalls =
        some (r, report) ∧
      attempts busyDevice r.capture.calls =
        [(.install, true), (.start, true), (.pause, true), (.stop, true), (.start, false),
          (.release, true)] ∧
      refusals report = [(.uninitialized, .pause), (.destroyed, .install)] ∧
      UsedWell (attempts busyDevice r.capture.calls) .destroyed := by
  have hreports : ((Scene.opening {} {} [] {} busyDevice {} ⟨0, 0⟩).recorder.reports busyCalls).any
      (fun p => decide (attempts busyDevice p.1.capture.calls =
          [(.install, true), (.start, true), (.pause, true), (.stop, true), (.start, false),
            (.release, true)] ∧
        refusals p.2 = [(.uninitialized, .pause), (.destroyed, .install)] ∧
        p.1.state = .destroyed)) = true := by decide +kernel
  obtain ⟨⟨r, report⟩, hreports, hend⟩ := (Option.any_eq_true _ _).1 hreports
  obtain ⟨hattempts, hrefusals, hstate⟩ := of_decide_eq_true hend
  obtain ⟨hcourses, hused⟩ := device_used_well {} {} [] {} busyDevice {} ⟨0, 0⟩
  obtain ⟨turns, hcourse, -⟩ := hcourses _ _ _ hreports
  have hwell := (hused _ _ hcourse).1
  rw [hstate] at hwell
  exact ⟨r, report, hreports, hattempts, hrefusals, hwell⟩

end StudySession

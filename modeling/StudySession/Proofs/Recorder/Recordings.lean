import StudySession.Proofs.Recorder.Grammar
import StudySession.Proofs.Recorder.Streams

/-!
# Recordings and their objects

What was recorded is read from what is seen of a recorder (`recordingsOf`): a recording begins with
a start that succeeds, has the chunks that are emitted from then on, and is over with the stop that
answers with its upload. Of each of them the store holds all chunks in order, as long as there is no
other upload for the same object, and what the stop answers is true of it. Where a pump has seen an
error of its upload, the stop answers with an error.
-/

namespace StudySession

/-! ## Recordings as they are seen -/

/-- A recording that was stopped: its name, its chunks, and the upload that the stop answered
with. -/
structure Recording where
  name : String
  chunks : List ByteArray
  upload : CompletedUpload

/-- What is seen of a turn that brings no chunk, in order. -/
def Label.sights (label : Label) : List Sight :=
  label.command?.toList.map .command ++ (label.handler?.toList.map .handler ++
    label.result?.toList.map .result)

/-- What was seen so far: the command given last, the recording under way, and those that were
stopped. -/
structure Tally where
  latest : Option RecorderCommand
  current : Option (String × List ByteArray)
  finished : List Recording

namespace Tally

def empty : Tally := ⟨none, none, []⟩

def note (t : Tally) : Sight → Tally
  | .command c => { t with latest := some c }
  | .handler _ => t
  | .chunk chunk =>
    { t with current := t.current.map fun (name, chunks) => (name, chunks ++ [chunk]) }
  | .result (.error _) => t
  | .result (.ok reply) =>
    match t.latest, reply with
    | some (.start name), _ => { t with current := some (name, []) }
    | some .stop, .uploaded upload =>
      let stopped := t.current.map fun (name, chunks) => ⟨name, chunks, upload⟩
      { t with current := none, finished := t.finished ++ stopped.toList }
    | _, _ => t

theorem latest_note_result (t : Tally) (result : Except RecorderError RecorderReply) :
    (t.note (.result result)).latest = t.latest := by
  cases result with
  | error e => rfl
  | ok reply =>
      unfold note
      dsimp only
      split <;> rfl

/-- What is seen of a turn that brings no chunk. -/
def see (t : Tally) (label : Label) : Tally := label.sights.foldl note t

theorem latest_see (t : Tally) (label : Label) :
    (t.see label).latest = label.command?.or t.latest := by
  obtain ⟨command, handler, result⟩ := label
  cases result with
  | none => cases command <;> cases handler <;> rfl
  | some result => cases command <;> cases handler <;> exact latest_note_result _ result

theorem note_started {t : Tally} {name : String} (h : t.latest = some (.start name))
    (reply : RecorderReply) :
    t.note (.result (.ok reply)) = { t with current := some (name, []) } := by
  simp only [note, h]

theorem note_uploaded {t : Tally} {name : String} {chunks : List ByteArray}
    (h : t.latest = some .stop) (hcurrent : t.current = some (name, chunks))
    (upload : CompletedUpload) :
    t.note (.result (.ok (.uploaded upload))) =
      { t with current := none, finished := t.finished ++ [⟨name, chunks, upload⟩] } := by
  simp only [note, h, hcurrent, Option.map_some, Option.toList_some]

end Tally

/-- What was seen so far, all told. -/
def tallyOf (report : List Sight) : Tally := report.foldl Tally.note .empty

/-- The recordings that were stopped, in order. -/
def recordingsOf (report : List Sight) : List Recording := (tallyOf report).finished

/-! ## Streams in front of recordings -/

namespace Capture.Tries

variable {c c' : Capture} {call : DeviceCall} {failure : Option String}

/-- The stream is left as it is by what fails, and by what is only for the devices or the
picture. -/
theorem stream_eq (h : c.Tries call failure c')
    (hother : failure ≠ none ∨ call = .install ∨ call = .pause ∨ call = .resume) :
    c'.stream = c.stream := by
  cases h with
  | install preferred => exact stream_install c preferred
  | pause => exact stream_simple c "pause"
  | resume => exact stream_simple c "resume"
  | start recording timesliceMs =>
      rcases hstart : c.start recording timesliceMs with ⟨_ | _, after⟩
      · exact stream_of_start_error hstart
      · simp [hstart, failure?] at hother
  | stop =>
      rcases hstop : c.stop with ⟨_ | _, after⟩
      · exact stream_of_stop_error hstop
      · simp [hstop, failure?] at hother
  | release => simp at hother

theorem stream_stop (h : c.Tries .stop none c') : c'.stream = none := by
  generalize hfailure : (none : Option String) = failure at h
  cases h with
  | stop =>
      rcases hstop : c.stop with ⟨_ | _, after⟩
      · simp [hstop, failure?] at hfailure
      · exact stream_stopped hstop

end Capture.Tries

namespace Front

variable {f f' : Front} {label : Label} {emitted emitted' : Nat → List ByteArray}
  {tally tally' : Tally}

/-- The open stream is that of the recording under way, which no command waits for. -/
structure Held (f : Front) : Prop where
  stream : f.capture.stream = f.upload
  active : f.upload ≠ none → f.state = .recording ∨ f.state = .paused
  idle : f.waiting ≠ none → f.upload = none

namespace Held

theorem of_idle (hstream : f.capture.stream = f.upload)
    (hactive : f.upload ≠ none → f.state = .recording ∨ f.state = .paused)
    (hidle : f.waiting = none) : f.Held :=
  ⟨hstream, hactive, fun hwaits => absurd hidle hwaits⟩

/-- Where no recording is under way there is none. -/
theorem upload_eq_none (h : f.Held) (hstate : f.state ≠ .recording ∧ f.state ≠ .paused) :
    f.upload = none := by
  by_contra hupload
  rcases h.active hupload with hactive | hactive
  · exact hstate.1 hactive
  · exact hstate.2 hactive

theorem step (h : f.Held) (hstep : f.Step label f') : f'.Held := by
  cases hstep with
  | behind kept => exact ⟨h.stream, h.active, h.idle⟩
  | registered kind handler => exact ⟨h.stream, h.active, h.idle⟩
  | misnamed handler => exact h
  | refused c idle => exact h
  | failed idle permitted tried =>
      exact .of_idle ((tried.stream_eq (.inl (by simp))).trans h.stream) h.active idle
  | installed idle state tried =>
      have hnone := h.upload_eq_none (by simp [state])
      exact .of_idle ((tried.stream_eq (.inr (.inl rfl))).trans h.stream)
        (fun hupload => absurd hnone hupload) idle
  | asked name idle state =>
      have hnone := h.upload_eq_none (by rcases state with state | state <;> simp [state])
      exact ⟨h.stream, h.active, fun _ => hnone⟩
  | uncreated error waits => exact .of_idle h.stream h.active rfl
  | started instant waits tried opens => exact .of_idle opens (fun _ => .inl rfl) rfl
  | undoing waits tried =>
      exact ⟨(tried.stream_eq (.inl (by simp))).trans h.stream, h.active,
        fun _ => h.idle (by simp [waits])⟩
  | unstarted waits tried =>
      exact .of_idle ((tried.stream_eq (.inl (by simp))).trans h.stream) h.active rfl
  | undone waits => exact .of_idle h.stream h.active rfl
  | paused seconds idle state tried =>
      exact .of_idle ((tried.stream_eq (.inr (.inr (.inl rfl)))).trans h.stream)
        (fun _ => .inr rfl) idle
  | resumed seconds idle state tried =>
      exact .of_idle ((tried.stream_eq (.inr (.inr (.inr rfl)))).trans h.stream)
        (fun _ => .inl rfl) idle
  | stopped deadline seconds idle state held tried =>
      exact ⟨tried.stream_stop, fun hupload => absurd rfl hupload, fun _ => rfl⟩
  | stranded seconds idle state bare tried =>
      exact .of_idle (tried.stream_stop.trans bare.symm) (fun hupload => absurd bare hupload) idle
  | completed waits ended => exact .of_idle h.stream h.active rfl
  | lost error waits => exact .of_idle h.stream h.active rfl
  | released idle state =>
      have hnone := h.upload_eq_none (by rcases state with state | state | state <;> simp [state])
      exact .of_idle hnone.symm (fun hupload => absurd hnone hupload) idle
  | dismantled idle state tried => exact .of_idle rfl (fun hupload => absurd rfl hupload) idle
  | redestroyed idle state => exact h

end Held

/-! ## What was seen of recordings -/

/-- The recording that is under way, or whose upload is waited for, is the one that was seen. -/
def Minds (f : Front) (i : Nat) : Prop :=
  f.upload = some i ∨ ∃ deadline, f.waiting = some (.uploading i deadline)

/-- What was seen of the recordings is what was emitted for their uploads and what these came to. -/
structure Tallied (f : Front) (tally : Tally) (emitted : Nat → List ByteArray) : Prop where
  current : ∀ i, f.Minds i →
    ∃ name, tally.current = some (name, emitted i) ∧ f.Holds i name
  finished : ∀ r ∈ tally.finished, ∃ i, f.Holds i r.name ∧
    f.results[i]? = some (some (.ok r.upload)) ∧ emitted i = r.chunks

namespace Tallied

/-- Where nothing new is minded or finished, what was seen stands. -/
theorem mono (h : f.Tallied tally emitted) (hminds : ∀ i, f'.Minds i → f.Minds i)
    (hkeys : ∀ i name, f.Holds i name → f'.Holds i name)
    (hresults : ∀ (i : Nat) (c : CompletedUpload), f.results[i]? = some (some (.ok c)) →
      f'.results[i]? = some (some (.ok c)))
    (hcurrent : tally'.current = tally.current) (hfinished : tally'.finished = tally.finished) :
    f'.Tallied tally' emitted := by
  refine ⟨fun i hi => ?_, fun r hr => ?_⟩
  · obtain ⟨name, hseen, hname⟩ := h.current i (hminds i hi)
    exact ⟨name, hcurrent.trans hseen, hkeys i name hname⟩
  · obtain ⟨i, hname, hresult, hchunks⟩ := h.finished r (hfinished ▸ hr)
    exact ⟨i, hkeys i _ hname, hresults i _ hresult, hchunks⟩

/-- A chunk belongs to the recording whose stream is open. -/
theorem chunk (h : f.Tallied tally emitted) (hheld : f.Held) {chunk : ByteArray} {i : Nat}
    (hstream : f.capture.stream = some i) (hown : emitted' i = emitted i ++ [chunk])
    (hothers : ∀ j, j ≠ i → emitted' j = emitted j)
    (hclosed : ∀ (j : Nat) (c : CompletedUpload), f.results[j]? = some (some (.ok c)) → j ≠ i) :
    f.Tallied (tally.note (.chunk chunk)) emitted' := by
  have hupload : f.upload = some i := hheld.stream.symm.trans hstream
  refine ⟨fun j hj => ?_, fun r hr => ?_⟩
  · obtain ⟨name, hseen, hname⟩ := h.current j hj
    obtain rfl : j = i := by
      rcases hj with hj | ⟨deadline, hwaits⟩
      · exact Option.some.inj (hj.symm.trans hupload)
      · cases (hheld.idle (by simp [hwaits])).symm.trans hupload
    refine ⟨name, ?_, hname⟩
    rw [hown]
    simp only [Tally.note, hseen, Option.map_some]
  · obtain ⟨j, hname, hresult, hchunks⟩ := h.finished r hr
    exact ⟨j, hname, hresult, (hothers j (hclosed j _ hresult)).trans hchunks⟩

/-- What is seen of a turn that brings no chunk is what happens to the recordings. -/
theorem step (h : f.Tallied tally emitted) (hheld : f.Held) (hmanned : f.Manned tally.latest)
    (hstep : f.Step label f')
    (hresults : ∀ (i : Nat) (c : CompletedUpload), f.results[i]? = some (some (.ok c)) →
      f'.results[i]? = some (some (.ok c)))
    (hstarts : ∀ i name, f.waiting = some (.creating i name) → emitted i = []) :
    f'.Tallied (tally.see label) emitted := by
  -- a command that ends without an upload leaves only a recording under way to mind
  have hends : ∀ {f' : Front}, f'.upload = f.upload →
      (∀ i deadline, f'.waiting ≠ some (.uploading i deadline)) → ∀ i, f'.Minds i → f.Minds i := by
    rintro f' hupload hwaits i (hi | ⟨deadline, hi⟩)
    · exact .inl (hupload ▸ hi)
    · exact absurd hi (hwaits i deadline)
  cases hstep with
  | behind kept => exact h.mono (fun _ => id) (fun _ _ => id) hresults rfl rfl
  | registered kind handler => exact h.mono (fun _ => id) (fun _ _ => id) hresults rfl rfl
  | misnamed handler => exact h
  | refused c idle => exact h.mono (fun _ => id) (fun _ _ => id) hresults rfl rfl
  | failed idle permitted tried => exact h.mono (fun _ => id) (fun _ _ => id) hresults rfl rfl
  | installed idle state tried => exact h.mono (fun _ => id) (fun _ _ => id) hresults rfl rfl
  | asked name idle state =>
      refine h.mono (hends rfl (by simp)) (fun i name hname => ?_) hresults rfl rfl
      exact (List.getElem?_append_left (List.getElem?_eq_some_iff.1 hname).1).trans hname
  | uncreated error waits => exact h.mono (hends rfl (by simp)) (fun _ _ => id) hresults rfl rfl
  | @started i name capture instant waits tried opens =>
      obtain ⟨hname, -⟩ := hmanned.creating i name waits
      have hlatest : tally.latest = some (.start name) := hmanned.command _ waits
      rw [show tally.see ⟨none, none, some (.ok .done)⟩ = tally.note (.result (.ok .done)) from rfl,
        Tally.note_started hlatest]
      refine ⟨fun j hj => ?_, h.finished⟩
      rcases hj with hj | ⟨deadline, hj⟩
      · obtain rfl := Option.some.inj hj
        exact ⟨name, by rw [hstarts _ name waits], hname⟩
      · cases hj
  | undoing waits tried => exact h.mono (hends rfl (by simp)) (fun _ _ => id) hresults rfl rfl
  | unstarted waits tried => exact h.mono (hends rfl (by simp)) (fun _ _ => id) hresults rfl rfl
  | undone waits => exact h.mono (hends rfl (by simp)) (fun _ _ => id) hresults rfl rfl
  | paused seconds idle state tried =>
      exact h.mono (fun _ => id) (fun _ _ => id) hresults rfl rfl
  | resumed seconds idle state tried =>
      exact h.mono (fun _ => id) (fun _ _ => id) hresults rfl rfl
  | stopped deadline seconds idle state held tried =>
      refine h.mono (fun j hj => ?_) (fun _ _ => id) hresults rfl rfl
      rcases hj with hj | ⟨_, hj⟩
      · cases hj
      · obtain ⟨rfl, -⟩ := Waiting.uploading.inj (Option.some.inj hj)
        exact .inl held
  | stranded seconds idle state bare tried => exact absurd bare (hmanned.upload_ne_none state)
  | @completed i deadline c waits ended =>
      obtain ⟨name, hseen, hname⟩ := h.current i (.inr ⟨deadline, waits⟩)
      have hlatest : tally.latest = some .stop := hmanned.command _ waits
      have hnone : f.upload = none := hheld.idle (by simp [waits])
      rw [show tally.see ⟨none, none, some (.ok (.uploaded c))⟩ =
        tally.note (.result (.ok (.uploaded c))) from rfl, Tally.note_uploaded hlatest hseen]
      refine ⟨fun j hj => ?_, fun r hr => ?_⟩
      · rcases hj with hj | ⟨_, hj⟩
        · cases hnone.symm.trans hj
        · cases hj
      · rcases List.mem_append.1 hr with hr | hr
        · exact h.finished r hr
        · obtain rfl := List.mem_singleton.1 hr
          exact ⟨i, hname, ended, rfl⟩
  | lost error waits => exact h.mono (hends rfl (by simp)) (fun _ _ => id) hresults rfl rfl
  | released idle state => exact h.mono (fun _ => id) (fun _ _ => id) hresults rfl rfl
  | dismantled idle state tried =>
      refine h.mono (fun j hj => ?_) (fun _ _ => id) hresults rfl rfl
      exact hj.imp_left (by simp)
  | redestroyed idle state => exact h.mono (fun _ => id) (fun _ _ => id) hresults rfl rfl

/-- Every stop that answers with an upload ends a recording. -/
theorem ends (h : f.Tallied tally emitted) (hmanned : f.Manned tally.latest)
    (hstep : f.Step label f') {c : CompletedUpload}
    (hresult : label.result? = some (.ok (.uploaded c))) :
    ∃ name chunks, (tally.see label).finished = tally.finished ++ [⟨name, chunks, c⟩] := by
  cases hstep with
  | @completed i deadline c' waits ended =>
      obtain rfl : c' = c := by simpa using hresult
      obtain ⟨name, hseen, -⟩ := h.current i (.inr ⟨deadline, waits⟩)
      have hlatest : tally.latest = some .stop := hmanned.command _ waits
      exact ⟨name, emitted i, congrArg Tally.finished (Tally.note_uploaded hlatest hseen c')⟩
  | _ => simp at hresult

end Tallied

/-- A new object comes with the command that asks for its recording. -/
theorem Step.keys_eq (hstep : f.Step label f') :
    f'.keys = f.keys ∨ ∃ name, label.command? = some (.start name) ∧
      f'.keys = f.keys ++ [videoObjectKey name] := by
  cases hstep with
  | asked name idle state => exact .inr ⟨name, rfl, rfl⟩
  | _ => exact .inl rfl

end Front

/-! ## Courses -/

/-- The name with which a recording is asked for. -/
def RecorderCommand.start? : RecorderCommand → Option String
  | start name => some name
  | _ => none

/-- The names with which recordings were asked for, in order. -/
def startsOf (turns : List Turn) : List String := (commandsOf turns).filterMap (·.start?)

theorem startsOf_snoc (turns : List Turn) (t : Turn) :
    startsOf (turns ++ [t]) = startsOf turns ++ (t.command?.bind (·.start?)).toList := by
  rw [startsOf, commandsOf, List.filterMap_append, List.filterMap_append, ← commandsOf, ← startsOf]
  cases hcommand : t.command? with
  | none => simp [hcommand]
  | some c => cases hstart : c.start? <;> simp [hcommand, hstart]

theorem tallyOf_snoc (turns : List Turn) (t : Turn) :
    tallyOf (sightsOf (turns ++ [t])) = t.sights.foldl Tally.note (tallyOf (sightsOf turns)) := by
  rw [sightsOf_snoc, tallyOf, List.foldl_append, ← tallyOf]

theorem Turn.sights_of_silent {t : Turn} (h : t.chunk? = none) : t.sights = t.label.sights := by
  rw [sights, h]
  rfl

theorem videoObjectKey_injective : Function.Injective videoObjectKey := by
  intro a b heq
  exact (String.append_left_inj _).1 heq

namespace Scene

variable {first s s' : Scene} {turns : List Turn} {i : Nat}

theorem getElem?_results_eq_some {r : Recorder} {outcome : Except UploadError CompletedUpload} :
    r.results[i]? = some (some outcome) ↔ (r.pumps[i]?).bind (·.result) = some outcome := by
  rw [Recorder.results, List.getElem?_map]
  cases r.pumps[i]? <;> simp

/-- What is known after a course: where the chunks are, what is in front of the recordings, and what
was seen of them. -/
structure Reported (turns : List Turn) (s : Scene) : Prop where
  flowing : s.Flowing (sentTo turns) fun i => (s.recorder.pumps[i]?).bind (·.result)
  manned : s.front.Manned (tallyOf (sightsOf turns)).latest
  held : s.front.Held
  tallied : s.front.Tallied (tallyOf (sightsOf turns)) (sentTo turns)
  keys : s.front.keys.Sublist ((startsOf turns).map videoObjectKey)

namespace Reported

/-- What a pump has come to does not change. -/
theorem results_kept (h : Reported turns s) {a : Act} (hact : s.act? a = some s')
    {outcome : Except UploadError CompletedUpload}
    (houtcome : s.front.results[i]? = some (some outcome)) :
    s'.front.results[i]? = some (some outcome) := by
  obtain ⟨p, hp, hresult⟩ :=
    (h.flowing.act hact).result_of_known (getElem?_results_eq_some.1 houtcome)
  exact getElem?_results_eq_some.2 (by rw [hp]; exact hresult)

/-- A chunk changes nothing in front of the recordings. -/
theorem front_of_chunk {a : Act} {chunk : ByteArray} (hact : s.act? a = some s')
    (hchunk : (Turn.mk s a s').chunk? = some chunk) :
    s'.front = s.front ∧ (∃ i, s.recorder.capture.stream = some i) ∧
      (Turn.mk s a s').sights = [.chunk chunk] ∧ (Turn.mk s a s').result? = none := by
  obtain ⟨r, w⟩ := s
  cases acts_of_act? hact with
  | @unread i other opened still =>
      obtain rfl := Option.some.inj hchunk
      exact ⟨rfl, ⟨i, opened⟩, rfl, rfl⟩
  | move moves =>
      cases moves with
      | @emit _ i other opened reads =>
          obtain rfl := Option.some.inj hchunk
          refine ⟨?_, ⟨i, opened⟩, rfl, rfl⟩
          have hresults := Recorder.results_modify r.pumps i
            (f := fun p => { p with queue := p.queue ++ [other] }) fun _ => rfl
          simp only [front, Recorder.results, Recorder.modifyPump, Timeline.keys, Timeline.wake,
            hresults]
      | _ => cases hchunk

theorem step (h : Reported turns s) {a : Act} (hact : s.act? a = some s') :
    Reported (turns ++ [⟨s, a, s'⟩]) s' := by
  have hstep := front_step hact
  have hflowing : s'.Flowing (sentTo (turns ++ [⟨s, a, s'⟩]))
      fun i => (s'.recorder.pumps[i]?).bind (·.result) := by
    have hafter := (h.flowing.act hact).learn
    simp only [← sentTo_snoc] at hafter
    exact hafter
  have hkeys : s'.front.keys.Sublist ((startsOf (turns ++ [⟨s, a, s'⟩])).map videoObjectKey) := by
    rw [startsOf_snoc, List.map_append]
    rcases hstep.keys_eq with hsame | ⟨name, hcommand, hnew⟩
    · rw [hsame]
      exact h.keys.trans (List.sublist_append_left _ _)
    · have hcommand : (Turn.mk s a s').command? = some (.start name) := hcommand
      rw [hnew, hcommand]
      exact h.keys.append (.refl _)
  have hnothing : ∀ i name, s.front.waiting = some (.creating i name) → sentTo turns i = [] := by
    intro i name hwaits
    obtain ⟨hname, -⟩ := h.manned.creating i name hwaits
    have hi : i < s.recorder.timeline.uploads.length := by
      simpa [front, Timeline.keys] using (List.getElem?_eq_some_iff.1 hname).1
    exact h.flowing.nothing_emitted hwaits hi
  cases hchunk : (Turn.mk s a s').chunk? with
  | none =>
      have htally : tallyOf (sightsOf (turns ++ [⟨s, a, s'⟩])) =
          (tallyOf (sightsOf turns)).see (Turn.mk s a s').label := by
        rw [tallyOf_snoc, Turn.sights_of_silent hchunk, Tally.see]
      have hsent : sentTo (turns ++ [⟨s, a, s'⟩]) = sentTo turns := by
        funext i
        rw [sentTo_snoc, Turn.sentTo_of_silent hchunk, List.append_nil]
      refine ⟨hflowing, ?_, h.held.step hstep, ?_, hkeys⟩
      · rw [htally, Tally.latest_see]
        exact h.manned.step hstep
      · rw [htally, hsent]
        exact h.tallied.step h.held h.manned hstep (fun i c => h.results_kept hact) hnothing
  | some chunk =>
      obtain ⟨hfront, ⟨i, hstream⟩, hsights, -⟩ := front_of_chunk hact hchunk
      have htally : tallyOf (sightsOf (turns ++ [⟨s, a, s'⟩])) =
          (tallyOf (sightsOf turns)).note (.chunk chunk) := by
        rw [tallyOf_snoc, hsights, List.foldl_cons, List.foldl_nil]
      refine ⟨hflowing, ?_, ?_, ?_, hkeys⟩
      · rw [hfront, htally]
        exact h.manned
      · rw [hfront]
        exact h.held
      · rw [hfront, htally]
        refine h.tallied.chunk h.held hstream ?_ (fun j hj => ?_) fun j c hresult heq => ?_
        · rw [sentTo_snoc, Turn.sentTo_of_open (t := Turn.mk s a s') hstream, hchunk,
            Option.toList_some]
        · rw [sentTo_snoc, Turn.sentTo_of_other (t := Turn.mk s a s') hstream hj, List.append_nil]
        · obtain ⟨p, hp, hdone⟩ :=
            Option.bind_eq_some_iff.1 (getElem?_results_eq_some.1 hresult)
          exact (h.flowing.archived hp hdone).1 (heq ▸ hstream)

theorem opening (config : RecorderConfig) (uploadConfig : UploadConfig)
    (script : Dict (List ScriptedCall)) (available : DeviceChoice)
    (failures : Dict (List (Option String))) (preferred : DeviceChoice) (origin : Timestamp) :
    Reported []
      (Scene.opening config uploadConfig script available failures preferred origin) where
  flowing := flowing_opening config uploadConfig script available failures preferred origin
  manned := .of_idle rfl (by simp [front, Scene.opening, Recorder.new])
    fun i c hc => by cases hc
  held := .of_idle rfl (fun hupload => absurd rfl hupload) rfl
  tallied := by
    refine ⟨fun i hi => ?_, fun r hr => ?_⟩
    · rcases hi with hi | ⟨deadline, hi⟩ <;> cases hi
    · cases hr
  keys := .slnil

/-- So it is after every course. -/
theorem course (h : Reported [] first) (hcourse : Course first turns s) : Reported turns s := by
  induction hcourse with
  | start => exact h
  | step sofar acted ih => exact ih.step acted

/-- A recording that was stopped has its upload, which was archived. -/
theorem archived (h : Reported turns s) {r : Recording}
    (hr : r ∈ recordingsOf (sightsOf turns)) :
    ∃ i, r.upload.key = videoObjectKey r.name ∧
      Archived s.recorder.timeline.keys s.recorder.timeline.store.memory i r.chunks r.upload := by
  obtain ⟨i, hname, hresult, hchunks⟩ := h.tallied.finished r hr
  obtain ⟨p, hp, hdone⟩ := Option.bind_eq_some_iff.1 (getElem?_results_eq_some.1 hresult)
  obtain ⟨-, harchived⟩ := h.flowing.archived hp hdone
  rw [hchunks] at harchived
  exact ⟨i, Option.some.inj (harchived.key.symm.trans hname), harchived⟩

end Reported

end Scene

end StudySession

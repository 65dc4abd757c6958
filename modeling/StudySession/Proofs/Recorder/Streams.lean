import StudySession.Proofs.Recorder.Pumps

/-!
# What streams have brought

Whatever happens to a recorder keeps every chunk where it is known to be (`Scene.Flowing.act`): a
turn brings at most one chunk, to the recording whose stream is open, and the pumps go on with their
uploads. So it is in every course (`Scene.Flowing.course`).
-/

namespace StudySession

namespace Scene

variable {r : Recorder} {w : Option Waiting} {emitted : Nat → List ByteArray}
  {known : Nat → Option (Except UploadError CompletedUpload)} {i : Nat}

/-- A pump that is let read forgets no chunk. -/
theorem flowing_runPump (h : Flowing ⟨r, w⟩ emitted known) (i : Nat) :
    Flowing ⟨r.runPump i, w⟩ emitted known := by
  unfold Recorder.runPump
  split
  · next p u hp found =>
      split
      · next hready =>
          obtain ⟨hrunning, hquiet⟩ := hready
          obtain ⟨given, hfleet⟩ := h.fleet
          have hflow := h.flows i p u hp found
          cases hflow with
          | creating waits closed took asks nothing unknown => cases hrunning
          | undoing waits unknown => cases hrunning
          | lost free still kept lost => cases still.symm.trans hrunning
          | stored free still kept result closed grounded archived =>
              cases still.symm.trans hrunning
          | reading free running pending unknown closed took all last =>
              obtain ⟨v, hadvances, hflow⟩ := Recorder.flow_readChunks free hrunning pending closed
                hfleet found took (Option.isNone_iff_eq_none.1 hquiet) p.queue all
              rw [← unknown] at hflow
              exact h.replace hadvances hflow
      · exact h
  · exact h

variable {t : Timeline} {u v : Upload}

/-- A pump that is told what its upload has done goes on reading. -/
theorem flowing_finished (h : Flowing ⟨r, w⟩ emitted known)
    (hadvances : r.timeline.Advances t i u v) (result : Except UploadError Outcome) {p : Pump}
    (hp : r.pumps[i]? = some p)
    (hflow : Flow w r.capture.stream r.timeline.keys t.store.memory i (emitted i) (known i)
      (if p.running then Recorder.readChunks.ended p result else p) v) :
    Flowing ⟨Recorder.notice { r with timeline := t } (.finished i result), w⟩ emitted known := by
  unfold Recorder.notice
  dsimp only
  rw [hp]
  dsimp only
  split
  · next hrunning =>
      rw [if_pos hrunning] at hflow
      exact flowing_runPump (r := { r with timeline := t, pumps := _ })
        (h.replace hadvances hflow) i
  · next hstill =>
      rw [if_neg hstill] at hflow
      exact h.hear hadvances hp hflow

/-- The chunks of a recording that starts go to the upload that was created for it; one that the
capture device does not start has none. -/
theorem flowing_record {name : String} (h : Flowing ⟨r, some (.creating i name)⟩ emitted known)
    (hadvances : r.timeline.Advances t i u v) (hp : r.pumps[i]? = some .idle)
    (htook : v.Took v.session.key t.store.memory (some [])) (hquiet : ¬v.Completing)
    (hnothing : emitted i = []) (hunknown : known i = none) :
    Flowing (after (Recorder.record { r with timeline := t } i name)) emitted known := by
  unfold Recorder.record
  split
  · next reason capture hcapture =>
      obtain ⟨given, hfleet⟩ := hadvances.fleet
      obtain ⟨hdropped, -⟩ := Timeline.Advances.of_command hfleet hadvances.found_after .abort
      have hall := hadvances.trans hdropped
      have hsame : capture.stream = r.capture.stream := Capture.stream_of_start_error hcapture
      dsimp only
      generalize t.command i .abort = out at hall
      obtain ⟨t', result⟩ := out
      cases result with
      | none =>
          refine h.resume hall rfl (fun j hj heq => hj (Option.some.inj heq).symm)
            (fun j hj heq => hsame ▸ heq) rfl (fun j hj => rfl) fun p hq => ?_
          obtain rfl := Option.some.inj (hp.symm.trans hq)
          exact .undoing rfl hunknown
      | some result =>
          exact (h.abandon hall rfl hp hunknown).with_stream (.inl hsame)
  · next capture hcapture =>
      have hstarted : (r.pumps.modify i fun p => { p with running := true })[i]? =
          some { Pump.idle with running := true } := by
        rw [List.getElem?_modify_eq, hp]
        rfl
      have hothers : ∀ j, j ≠ i →
          (r.pumps.modify i fun p => { p with running := true })[j]? = r.pumps[j]? :=
        fun j hj => by simp [Ne.symm hj]
      refine h.resume hadvances rfl (fun j hj heq => by cases heq) (fun j hj heq => ?_)
        (List.length_modify ..) hothers fun p hq => ?_
      · have hopened := Capture.stream_started hcapture
        exact absurd (Option.some.inj (hopened.symm.trans heq)).symm hj
      · obtain rfl := Option.some.inj (hstarted.symm.trans hq)
        exact .reading nofun rfl rfl hunknown nofun htook hnothing.symm
          fun hcompleting => absurd hcompleting hquiet

/-- Whatever is due next, its owner forgets no chunk. -/
theorem flowing_told (h : Flowing ⟨r, w⟩ emitted known) {n : Option Notice}
    (hpasses : r.timeline.Passes t n) (hfleet : ∃ given, Fleet t given) :
    Flowing (told ⟨{ r with timeline := t }, w⟩ n) emitted known := by
  cases hpasses with
  | still uploads memory => exact h.still hfleet uploads memory
  | woke placed uploads memory =>
      exact flowing_runPump (r := { r with timeline := t }) (h.still hfleet uploads memory) _
  | @heard i u event found hears uploads spares =>
      have hadvances := Timeline.Advances.of_hears found uploads spares hfleet
      obtain ⟨p, _, hp, -⟩ := h.place hadvances.lt_length
      have hflow := h.flows i p u hp found
      cases hflow with
      | creating waits closed took asks nothing unknown =>
          obtain rfl : w = some _ := waits
          rcases took.created asks hears with ⟨hnone, htook, hasks⟩ | ⟨e, hending⟩ |
            ⟨snapshot, hending, htook⟩
          · rw [hnone]
            rw [← hadvances.key] at htook
            exact h.hear hadvances hp (.creating rfl closed htook hasks nothing unknown)
          · rw [hending, Option.map_some, told_of_waits rfl]
            exact h.abandon hadvances rfl hp unknown
          · rw [hending, Option.map_some, told_of_waits rfl]
            rw [← hadvances.key] at htook
            have hquiet : ¬(u.react event).1.Completing := fun hcompleting =>
              asks.not_completing (Upload.completing_of_react hears hcompleting)
            exact flowing_record h hadvances hp htook hquiet nothing unknown
      | undoing waits unknown =>
          obtain rfl : w = some _ := waits
          cases hending : Effect.ending? (u.react event).2 with
          | none => exact h.hear hadvances hp (.undoing rfl unknown)
          | some result =>
              rw [Option.map_some, told_of_waits rfl]
              exact h.abandon hadvances rfl hp unknown
      | reading free running pending unknown closed took all last =>
          have hkey : r.timeline.keys[i]? = some u.session.key := by
            rw [Timeline.keys, List.getElem?_map, found, Option.map_some]
          obtain ⟨hnone, hsome⟩ :=
            Recorder.flow_heard free running pending closed took all last hears hkey
          cases hending : Effect.ending? (u.react event).2 with
          | none => exact h.hear hadvances hp (unknown ▸ hnone hending)
          | some result =>
              rw [Option.map_some, told_of_free free]
              refine flowing_finished h hadvances result hp ?_
              rw [if_pos running, unknown]
              exact hsome result hending
      | lost free still kept lost =>
          cases Effect.ending? (u.react event).2 with
          | none => exact h.hear hadvances hp (.lost free still kept lost)
          | some result =>
              rw [Option.map_some, told_of_free free]
              refine flowing_finished h hadvances result hp ?_
              rw [if_neg (by simp [still])]
              exact .lost free still kept lost
      | stored free still kept result closed grounded archived =>
          obtain ⟨who, call, hcall⟩ := hears.exists_call
          cases (grounded who).symm.trans hcall

/-! ### Commands -/

/-- The upload of a new recording has taken in nothing, and nothing was emitted for it. -/
theorem flowing_start (h : Flowing ⟨r, none⟩ emitted known) (name : String) :
    Flowing (after (r.start name)) emitted known := by
  obtain ⟨given, hfleet⟩ := h.fleet
  have found : (r.timeline.add (.new r.uploadConfig name)).uploads[r.timeline.uploads.length]? =
      some (.new r.uploadConfig name) := List.getElem?_concat_length
  obtain ⟨hadvances, hstore, -⟩ :=
    Timeline.Advances.of_command (hfleet.add r.uploadConfig name) found .create
  obtain ⟨htook, hasks⟩ := Upload.took_create r.uploadConfig name r.timeline.store.memory
  obtain ⟨hnothing, hunknown⟩ := h.unborn _ le_rfl
  have hpaired : r.pumps.length = r.timeline.uploads.length := h.paired
  have hcount := hadvances.length_eq.trans List.length_append
  have hkeys := hadvances.keys.trans (Timeline.keys_add ..)
  refine ⟨hadvances.fleet, ?_, fun j p x hp hx => ?_, fun j hj => ?_, fun j hj => ?_⟩
  · exact (List.length_append ..).trans (by rw [hpaired]; exact hcount.symm)
  · dsimp only [after, Recorder.start] at hx ⊢
    rw [hkeys, hstore]
    rcases getElem?_snoc_eq_some hp with hp | ⟨hj, rfl⟩
    · have hlt : j < r.timeline.uploads.length := h.paired ▸ (List.getElem?_eq_some_iff.1 hp).1
      have hj : j ≠ r.timeline.uploads.length := Nat.ne_of_lt hlt
      rw [hadvances.others hj, Timeline.add, List.getElem?_append_left hlt] at hx
      refine (h.flows j p x hp hx).aside (fun heq => ?_) id (fun _ _ => rfl)
        fun c archived => archived.append _
      rcases heq with heq | heq
      · cases heq
      · exact absurd (Option.some.inj heq).symm hj
    · rw [hpaired] at hj
      subst hj
      obtain rfl := Option.some.inj (hadvances.found_after.symm.trans hx)
      refine .creating rfl (fun heq => ?_) ?_ hasks hnothing hunknown
      · exact Nat.lt_irrefl _ (h.stream _ heq)
      · rw [hadvances.key]
        exact htook
  · exact lt_of_lt_of_eq (Nat.lt_succ_of_lt (h.stream j hj)) hcount.symm
  · exact h.unborn j ((Nat.le_succ _).trans (hcount.ge.trans hj))

/-- A stream that is closed has brought all its chunks, and its pump will know. -/
theorem flowing_endStream (h : Flowing ⟨r, none⟩ emitted known) :
    StudySession.Flowing none (r.endStream r.capture.stream).timeline
      (r.endStream r.capture.stream).pumps none emitted known := by
  have hplace := h.stream
  unfold Recorder.endStream
  split
  · exact h.with_stream (.inr rfl)
  · next i hi =>
      obtain ⟨given, hfleet⟩ := h.fleet
      obtain ⟨_, u, -, found⟩ := h.place (hplace i hi)
      refine h.advance (Timeline.Advances.wake hfleet found) (fun j hj _ => rfl) (by simp)
        (List.length_modify ..) (fun j hj => by simp [Recorder.modifyPump, Ne.symm hj])
        (fun j hj => rfl) fun q hq => ?_
      rw [Recorder.modifyPump, List.getElem?_modify_eq] at hq
      obtain ⟨p, hp, rfl⟩ := Option.map_eq_some_iff.1 hq
      cases h.flows i p _ hp found with
      | creating waits closed took asks nothing unknown => cases waits
      | undoing waits unknown => cases waits
      | reading free running pending unknown closed took all last =>
          exact .reading free running pending unknown (by simp) took all
            fun hcompleting => absurd hi (closed (last hcompleting).1)
      | lost free still kept lost => exact .lost free still kept lost
      | stored free still kept result closed grounded archived => exact absurd hi closed

theorem flowing_begin (h : Flowing ⟨r, none⟩ emitted known) (c : RecorderCommand) :
    Flowing (after (r.begin c)) emitted known := by
  have hbegins := begins_begin r c
  generalize after (r.begin c) = s at hbegins
  cases hbegins with
  | still timeline pumps stream =>
      rw [Scene.Flowing, timeline, pumps, stream]
      exact h
  | asked name => exact flowing_start h name
  | closed free timeline pumps stream =>
      have hended := flowing_endStream h
      rw [← timeline, ← pumps, ← stream] at hended
      exact hended.change rfl free

theorem flowing_conclude (h : Flowing ⟨r, w⟩ emitted known) (hwaits : w.bind (·.storePlace?) = none)
    (outcome : Except UploadError CompletedUpload) :
    Flowing (after (r.conclude outcome)) emitted known := by
  unfold Recorder.conclude
  split <;> exact h.change hwaits rfl

/-! ### Chunks -/

/-- A chunk that will be read comes behind those in the queue. -/
theorem flowing_emit {chunk : ByteArray} {emitted' : Nat → List ByteArray}
    (h : Flowing ⟨r, w⟩ emitted known) (hstream : r.capture.stream = some i)
    (hrunning : (r.pumps[i]?).any (·.running) = true) (hown : emitted' i = emitted i ++ [chunk])
    (hothers : ∀ j, j ≠ i → emitted' j = emitted j) :
    Flowing
      ⟨{ r.modifyPump i fun p => { p with queue := p.queue ++ [chunk] } with
        timeline := r.timeline.wake i }, w⟩ emitted' known := by
  obtain ⟨given, hfleet⟩ := h.fleet
  obtain ⟨_, u, -, found⟩ := h.place (h.stream i hstream)
  obtain ⟨p, hp, hrunning⟩ := (Option.any_eq_true _ _).1 hrunning
  refine h.advance (Timeline.Advances.wake hfleet found) (fun j hj _ => rfl) (fun j hj heq => heq)
    (List.length_modify ..) (fun j hj => by simp [Recorder.modifyPump, Ne.symm hj]) hothers
    fun q hq => ?_
  have hflow := h.flows i p u hp found
  replace hp : r.pumps[i]? = some p := hp
  have hq : (r.pumps.modify i fun p => { p with queue := p.queue ++ [chunk] })[i]? = some q := hq
  rw [List.getElem?_modify_eq, hp] at hq
  obtain rfl := Option.some.inj hq
  cases hflow with
  | creating waits closed took asks nothing unknown => cases hrunning
  | undoing waits unknown => cases hrunning
  | reading free running pending unknown closed took all last =>
      refine .reading free running pending unknown closed took ?_
        fun hcompleting => absurd hstream (closed (last hcompleting).1)
      rw [hown, ← all, List.append_assoc]
  | lost free still kept lost => cases still.symm.trans hrunning
  | stored free still kept result closed grounded archived => cases still.symm.trans hrunning

/-- A chunk is not read any more only if the recording is lost already. -/
theorem flowing_unread {emitted' : Nat → List ByteArray} (h : Flowing ⟨r, w⟩ emitted known)
    (hstream : r.capture.stream = some i) (hstill : ¬(r.pumps[i]?).any (·.running) = true)
    (hothers : ∀ j, j ≠ i → emitted' j = emitted j) : Flowing ⟨r, w⟩ emitted' known := by
  obtain ⟨_, u, -, found⟩ := h.place (h.stream i hstream)
  refine h.advance (Timeline.Advances.of_still found rfl rfl h.fleet) (fun j hj _ => rfl)
    (fun j hj heq => heq) rfl (fun j hj => rfl) hothers fun p hp => ?_
  cases h.flows i p u hp found with
  | creating waits closed took asks nothing unknown => exact absurd hstream closed
  | undoing waits unknown => exact .undoing waits unknown
  | reading free running pending unknown closed took all last =>
      exact absurd ((Option.any_eq_true _ _).2 ⟨p, hp, running⟩) hstill
  | lost free still kept lost => exact .lost free still kept lost
  | stored free still kept result closed grounded archived => exact absurd hstream closed

end Scene

/-! ### Turns -/

/-- The chunk that a turn brings to a recording, if its stream is open. -/
def Turn.sentTo (t : Turn) (i : Nat) : List ByteArray :=
  if t.before.recorder.capture.stream = some i then t.chunk?.toList else []

theorem Turn.sentTo_of_open {t : Turn} {i : Nat}
    (h : t.before.recorder.capture.stream = some i) : t.sentTo i = t.chunk?.toList :=
  if_pos h

theorem Turn.sentTo_of_closed {t : Turn} {i : Nat}
    (h : t.before.recorder.capture.stream ≠ some i) : t.sentTo i = [] :=
  if_neg h

theorem Turn.sentTo_of_other {t : Turn} {i j : Nat}
    (h : t.before.recorder.capture.stream = some i) (hj : j ≠ i) : t.sentTo j = [] := by
  refine sentTo_of_closed ?_
  rw [h]
  exact fun heq => hj (Option.some.inj heq).symm

theorem Turn.sentTo_of_silent {t : Turn} (h : t.chunk? = none) (i : Nat) : t.sentTo i = [] := by
  rw [sentTo, h, Option.toList_none, ite_self]

/-- The chunks that some turns bring to a recording. -/
def sentTo (turns : List Turn) (i : Nat) : List ByteArray := turns.flatMap (·.sentTo i)

theorem sentTo_snoc (turns : List Turn) (t : Turn) (i : Nat) :
    sentTo (turns ++ [t]) i = sentTo turns i ++ t.sentTo i := by
  rw [sentTo, List.flatMap_append, List.flatMap_singleton, ← sentTo]

namespace Scene

variable {s s' : Scene} {emitted : Nat → List ByteArray}
  {known : Nat → Option (Except UploadError CompletedUpload)}

/-- A move that brings no chunk forgets none. -/
theorem Flowing.move {r : Recorder} {w : Option Waiting} (h : Flowing ⟨r, w⟩ emitted known)
    {m : RecorderMove} {contact : Option Contact} (moves : Moves r w m s' contact)
    (hsilent : ∀ chunk, m ≠ .emit chunk) : s'.Flowing emitted known := by
  cases moves with
  | begin c => exact flowing_begin h c
  | occur occurs =>
      obtain ⟨given, hfleet⟩ := h.fleet
      obtain ⟨hpasses, hfleet'⟩ := hfleet.occur occurs
      exact flowing_told h hpasses hfleet'
  | conclude ended => exact flowing_conclude h rfl _
  | expire i deadline =>
      exact flowing_conclude (r := r.moveTo deadline) (h.at_instant _) rfl _
  | emit chunk opened reads => exact absurd rfl (hsilent chunk)
  | on name handler =>
      rw [Recorder.on]
      split <;> exact h
  | pass now => exact h.at_instant now

/-- Whatever happens to a recorder, no chunk is forgotten that a stream has brought. -/
theorem Flowing.act (h : s.Flowing emitted known) {a : Act} (hact : s.act? a = some s') :
    s'.Flowing (fun i => emitted i ++ (Turn.mk s a s').sentTo i) known := by
  have hsilent : (Turn.mk s a s').chunk? = none →
      (fun i => emitted i ++ (Turn.mk s a s').sentTo i) = emitted := by
    intro hnone
    funext i
    rw [Turn.sentTo_of_silent hnone, List.append_nil]
  have hothers : ∀ i, s.recorder.capture.stream = some i → ∀ j, j ≠ i →
      emitted j ++ (Turn.mk s a s').sentTo j = emitted j := by
    intro i hstream j hj
    rw [Turn.sentTo_of_other (t := Turn.mk s a s') hstream hj, List.append_nil]
  obtain ⟨r, w⟩ := s
  cases acts_of_act? hact with
  | @unread i chunk opened still => exact flowing_unread h opened still (hothers i opened)
  | move moves =>
      have hmoves := moves
      cases hmoves with
      | @emit _ i _ opened reads =>
          refine flowing_emit h opened reads ?_ (hothers i opened)
          rw [Turn.sentTo_of_open (t := Turn.mk ⟨r, w⟩ _ _) opened]
          rfl
      | _ =>
          rw [hsilent rfl]
          exact h.move moves (by simp)

/-- So it is in every course. -/
theorem Flowing.course {turns : List Turn} (h : s.Flowing emitted known)
    (hcourse : Course s turns s') :
    s'.Flowing (fun i => emitted i ++ sentTo turns i) known := by
  induction hcourse with
  | start =>
      simp only [sentTo, List.flatMap_nil, List.append_nil]
      exact h
  | step sofar acted ih =>
      have hafter := ih.act acted
      simp only [List.append_assoc, ← sentTo_snoc] at hafter
      exact hafter

/-- At first there are no recordings. -/
theorem flowing_opening (config : RecorderConfig) (uploadConfig : UploadConfig)
    (script : Dict (List ScriptedCall)) (available : DeviceChoice)
    (failures : Dict (List (Option String))) (preferred : DeviceChoice) (origin : Timestamp) :
    (opening config uploadConfig script available failures preferred origin).Flowing
      (fun _ => []) (fun _ => none) := by
  refine ⟨⟨_, .new script⟩, rfl, fun i p u hp => ?_, fun i hi => ?_, fun _ _ => ⟨rfl, rfl⟩⟩
  · cases hp
  · cases hi

end Scene

end StudySession

import StudySession.Proofs.Recorder.Founding

/-!
# Starts that fail

A start asks the store for an upload before it asks the capture device for a stream. When one of them
fails, the recorder has a recording more, which was never started: `Scene.Trying` says that all else
is as it was, and what is pending on the store on its account (`Scene.Undertaken`). Whatever happens
keeps that up until the start succeeds (`Scene.Trying.act`): only its own upload does anything for
that place, other uploads make nothing pending, and no stream is open whose chunks could arrive.
-/

namespace StudySession

/-! ## Uploads without parts -/

/-- An owner that waits for an upload without parts to be created or dropped makes no other call. -/
theorem Upload.owner_of_call {u : Upload} (hquiet : u.session.tasks = []) {purpose : Purpose}
    {asked : StoreCall} {attempt : Nat} (hasks : u.awaiting = some (.store purpose asked attempt))
    (hpurpose : purpose = .creating ∨ purpose = .aborting) {event : Event}
    (hevent : ∀ c, event ≠ .command c) {who : Caller} {pause : Duration} {call : StoreCall}
    (h : Effect.call who pause call ∈ (u.react event).2) : who = .owner := by
  cases event with
  | command c => exact absurd rfl (hevent c)
  | died caller =>
      cases caller with
      | owner => cases List.mem_singleton.1 h
      | part number => simp [react, partDied, hquiet] at h
  | answered caller answer =>
      cases caller with
      | part number => simp [react, partAnswered, hquiet] at h
      | owner =>
          have htold := ownerTold_of_awaiting hasks answer
          generalize u.react (.answered .owner answer) = out at htold h
          cases htold with
          | again retried pause => exact (Effect.call.inj (List.mem_singleton.1 h)).1
          | concluded last =>
              rcases hpurpose with rfl | rfl <;> cases answer <;> cases List.mem_singleton.1 h

/-- Of the upload that is to be created, only the answer makes something new pending. -/
theorem Upload.Hears.pending_of_creation {u : Upload} {memory memory' : MemoryStore} {event : Event}
    (h : u.Hears memory event memory') (hquiet : u.session.tasks = []) {purpose : Purpose}
    {key contentType : String} {attempt : Nat}
    (hasks : u.awaiting = some (.store purpose (.create key contentType) attempt)) :
    ∀ id ∈ memory'.pending.keys,
      id ∈ memory.pending.keys ∨ event = .answered .owner (.ok id) := by
  intro id hid
  cases h with
  | failed error asked => exact .inl hid
  | died asked => exact .inl hid
  | @passed who call answer _ asked performed =>
      have hexpected : u.expects who = true := by rw [← Upload.isSome_call?, asked]; rfl
      obtain rfl := Transfer.expects_of_quiet hquiet hexpected
      rw [Upload.call?, Upload.asking, hasks] at asked
      obtain rfl := Option.some.inj asked
      have hmemory : (memory.perform (.create key contentType)).2 = memory' :=
        congrArg Prod.snd performed
      rw [← hmemory] at hid
      rcases MemoryStore.pending_perform hid with hid | ⟨-, rfl⟩
      · exact .inl hid
      · obtain rfl : _ = answer := congrArg Prod.fst performed
        exact .inr rfl

/-- What an upload that is to be created does with what it hears: it tries again, it gives up, or it
is open. -/
inductive Upload.Creates (call : StoreCall) (event : Event) : Upload × List Effect → Prop where
  | again {v : Upload} {effects : List Effect} {attempt : Nat} (quiet : v.session.tasks = [])
      (asks : v.awaiting = some (.store .creating call attempt))
      (silent : Effect.ending? effects = none)
      (refused : ∀ id, event ≠ .answered .owner (.ok id)) : Creates call event (v, effects)
  | failed {v : Upload} (error : UploadError) (quiet : v.session.tasks = [])
      (idle : v.awaiting = none) (refused : ∀ id, event ≠ .answered .owner (.ok id)) :
      Creates call event (v, [.finished (.error error)])
  | opened {v : Upload} {id : String} (outcome : Outcome) (idle : v.awaiting = none)
      (phase : v.session.phase = .opened id) (given : event = .answered .owner (.ok id)) :
      Creates call event (v, [.finished (.ok outcome)])

theorem Upload.Hears.creates {u : Upload} {memory memory' : MemoryStore} {event : Event}
    (h : u.Hears memory event memory') (hquiet : u.session.tasks = []) {call : StoreCall}
    {attempt : Nat} (hasks : u.awaiting = some (.store .creating call attempt)) :
    Upload.Creates call event (u.react event) := by
  rcases h.of_quiet hquiet with ⟨answer, rfl⟩ | rfl
  · have htold := Upload.ownerTold_of_awaiting hasks answer
    generalize u.react (.answered .owner answer) = out at htold
    cases htold with
    | again retried pause => exact .again hquiet rfl rfl (by simp)
    | concluded last =>
        cases answer with
        | error e => exact .failed _ hquiet rfl (by simp)
        | ok id => exact .opened _ rfl rfl rfl
  · exact .failed _ rfl rfl (by simp)

/-- Whatever an upload hears that is to be dropped, it is done with it. -/
theorem Upload.Hears.dropped {u : Upload} {memory memory' : MemoryStore} {event : Event}
    (h : u.Hears memory event memory') (hquiet : u.session.tasks = []) {call : StoreCall}
    {attempt : Nat} (hasks : u.awaiting = some (.store .aborting call attempt)) :
    ∃ v result, u.react event = (v, [.finished result]) ∧ v.session.tasks = [] ∧
      v.awaiting = none := by
  rcases h.of_quiet hquiet with ⟨answer, rfl⟩ | rfl
  · have htold := Upload.ownerTold_of_awaiting hasks answer
    generalize u.react (.answered .owner answer) = out at htold
    cases htold with
    | again retried pause => cases retried
    | concluded last => cases answer <;> exact ⟨_, _, rfl, hquiet, rfl⟩
  · exact ⟨_, _, rfl, rfl, rfl⟩

/-! ## Timelines -/

namespace Timeline

variable {t t' : Timeline} {given : Nat → Option String} {i j k now : Nat} {u : Upload}
  {contact : Option Contact} {notice : Option Notice}

/-- Only calls of the owner are due for a place. -/
def Lone (t : Timeline) (i : Nat) : Prop :=
  ∀ a ∈ t.agenda, a.upload = i → (a.ownerCall? i).isSome = true

theorem Lone.aside (h : t.Lone i) (haside : t.Aside t' j) (hij : i ≠ j) : t'.Lone i :=
  fun a ha hi => h a (haside.due a ha (hi ▸ hij)) hi

/-- An upload that only calls for its owner adds no other entries. -/
theorem Lone.happen (h : t.Lone i) (found : t.uploads[i]? = some u) {event : Event}
    (hown : ∀ who pause call, Effect.call who pause call ∈ (u.react event).2 → who = .owner) :
    (t.happen i event).1.Lone i := by
  obtain ⟨agenda, heq, hperm⟩ := happen_eq found event
  rw [heq]
  intro a ha hi
  rcases List.mem_append.1 (hperm.subset ha) with ha | ha
  · obtain ⟨who, pause, call, hcall, rfl⟩ := mem_launched ha
    obtain rfl := hown who pause call hcall
    simp [Appointment.ownerCall?]
  · exact h a ha hi

/-- So it is whatever is due next. -/
theorem Lone.occur (h : t.Lone i) (found : t.uploads[i]? = some u)
    (hown : ∀ event, (∀ c, event ≠ .command c) → ∀ who pause call,
      Effect.call who pause call ∈ (u.react event).2 → who = .owner)
    (hoccur : t.occur? k now = some (contact, t', notice)) : t'.Lone i := by
  obtain ⟨a, rest, hperm, hoccurs⟩ := occurs_of_occur? hoccur
  have hrest : ∀ store, Timeline.Lone { t with now, agenda := rest, store } i :=
    fun store b hb => h b (hperm.symm.subset (List.mem_cons_of_mem a hb))
  have hheard : ∀ store event, (∀ c, event ≠ .command c) →
      (Timeline.happen { t with now, agenda := rest, store } a.upload event).1.Lone i := by
    intro store event hevent
    by_cases hi : i = a.upload
    · subst hi
      exact (hrest store).happen found (hown event hevent)
    · exact (hrest store).aside (aside_happen _ _ _) hi
  cases hoccurs with
  | woke due => exact hrest t.store
  | missed due unexpected => exact hrest t.store
  | passed due expected performed => exact hheard _ _ (by simp)
  | failed due expected => exact hheard t.store _ (by simp)
  | died due expected => exact hheard t.store _ (by simp)
  | @made who call scripted store due taken =>
      intro b hb hi
      rcases List.mem_cons.1 ((enter_perm rest _).subset hb) with rfl | hb
      · -- the end of a call is entered in place of the call
        have hsome := h a (hperm.symm.subset List.mem_cons_self) hi
        rw [Appointment.ownerCall?, if_pos hi, due] at hsome
        rw [Appointment.ownerCall?, if_pos hi]
        cases who with
        | owner => rfl
        | part number => cases hsome
      · exact hrest t.store b hb hi

/-- Where aborts pass, an upload that was to be dropped is pending no longer once the owner hears of
that, and nothing new is pending. -/
theorem pending_of_dropped (hfleet : Fleet t given) (hgoverns : Terms.abortsPass.Governs t)
    (found : t.uploads[i]? = some u) (hquiet : u.session.tasks = []) {key id : String}
    {attempt : Nat} (hasks : u.awaiting = some (.store .aborting (.abort key id) attempt))
    {result : Except UploadError Outcome}
    (hoccur : t.occur? k now = some (contact, t', some (.finished i result))) :
    ∀ other ∈ t'.store.memory.pending.keys,
      other ∈ t.store.memory.pending.keys ∧ other ≠ id := by
  obtain ⟨a, rest, hperm, hoccurs⟩ := occurs_of_occur? hoccur
  have htaken : Fleet { { t with now, agenda := rest } with agenda := a :: rest } given :=
    hfleet.of_perm now hperm
  -- what ends is the call to drop the upload
  have hcall : ∀ {who call verdict}, a.due = .settle who call verdict → a.upload = i →
      Timeline.expects { t with now, agenda := rest } a.upload who = true →
      call = .abort key id := by
    rintro who call verdict hdue rfl hexpected
    have hexpected : u.expects who = true := by simpa [Timeline.expects, found] using hexpected
    have hasked := (htaken.afloat a.upload u found).call?_eq (by rw [hdue]; rfl) hexpected
    obtain rfl := Transfer.expects_of_quiet hquiet hexpected
    rw [Upload.call?, Upload.asking, hasks] at hasked
    exact (Option.some.inj hasked).symm
  have hpassed : ∀ {who verdict}, a.due = .settle who (.abort key id) verdict → verdict = .passed :=
    fun hdue => hgoverns.agenda a (hperm.symm.subset List.mem_cons_self) _ _ _ hdue rfl
  generalize hnotice : some (Notice.finished i result) = notice at hoccurs
  cases hoccurs with
  | woke due => cases hnotice
  | missed due unexpected => cases hnotice
  | made due taken => cases hnotice
  | @passed who call answer memory due expected performed =>
      obtain ⟨_, -, heq⟩ := Option.map_eq_some_iff.1 hnotice.symm
      obtain rfl := hcall due (Notice.finished.inj heq).1 expected
      intro other hother
      rw [store_happen] at hother
      have hmemory : (t.store.memory.perform (.abort key id)).2 = memory :=
        congrArg Prod.snd performed
      dsimp only at hother
      rw [← hmemory] at hother
      refine ⟨MemoryStore.pending_perform_of_not_create rfl hother, ?_⟩
      rintro rfl
      exact MemoryStore.not_pending_perform (.inr rfl) hother
  | failed due expected =>
      obtain ⟨_, -, heq⟩ := Option.map_eq_some_iff.1 hnotice.symm
      obtain rfl := hcall due (Notice.finished.inj heq).1 expected
      cases hpassed due
  | died due expected =>
      obtain ⟨_, -, heq⟩ := Option.map_eq_some_iff.1 hnotice.symm
      obtain rfl := hcall due (Notice.finished.inj heq).1 expected
      cases hpassed due

end Timeline

/-! ## Starts -/

namespace Scene

/-- How far the upload of a start has come that has not succeeded, and what is pending on the store:
nothing but what was before, and what the upload has still to drop. -/
inductive Undertaken (accepting : Prop) (before : List String) (i : Nat) (memory : MemoryStore)
    (u : Upload) : Option Waiting → Prop where
  | creating {name key contentType : String} {attempt : Nat}
      (asks : u.awaiting = some (.store .creating (.create key contentType) attempt))
      (pending : ∀ id ∈ memory.pending.keys, id ∈ before) :
      Undertaken accepting before i memory u (some (.creating i name))
  | undoing {reason key id : String} {attempt : Nat}
      (asks : u.awaiting = some (.store .aborting (.abort key id) attempt))
      (pending : ∀ other ∈ memory.pending.keys, other ∈ before ∨ other = id) :
      Undertaken accepting before i memory u (some (.undoing i reason))
  | settled (idle : u.awaiting = none)
      (pending : accepting → ∀ id ∈ memory.pending.keys, id ∈ before) :
      Undertaken accepting before i memory u none

/-- A start of a recorder has not succeeded: there is a recording more, which was never started and
for which only what its upload asks for is due, and all else of the recorder is as it was. -/
structure Trying (accepting : Prop) (r : Recorder) (s : Scene) : Prop where
  own : s.recorder =
    { r with
      timeline := s.recorder.timeline
      pumps := s.recorder.pumps
      capture := s.recorder.capture }
  closed : s.recorder.capture.stream = none
  count : s.recorder.timeline.uploads.length = r.timeline.uploads.length + 1
  pump : s.recorder.pumps[r.timeline.uploads.length]? = some .idle
  lone : s.recorder.timeline.Lone r.timeline.uploads.length
  upload : ∃ u, s.recorder.timeline.uploads[r.timeline.uploads.length]? = some u ∧
    u.session.tasks = [] ∧
    Undertaken accepting r.timeline.store.memory.pending.keys r.timeline.uploads.length
      s.recorder.timeline.store.memory u s.waiting

variable {accepting : Prop} {r q : Recorder} {w : Option Waiting} {s s' : Scene}
  {emitted : Nat → List ByteArray} {known : Nat → Option (Except UploadError CompletedUpload)}

theorem Undertaken.mono {before : List String} {i : Nat} {memory memory' : MemoryStore} {u : Upload}
    (h : Undertaken accepting before i memory u w)
    (hpending : ∀ id ∈ memory'.pending.keys, id ∈ memory.pending.keys) :
    Undertaken accepting before i memory' u w := by
  cases h with
  | creating asks pending => exact .creating asks fun id hid => pending id (hpending id hid)
  | undoing asks pending => exact .undoing asks fun id hid => pending id (hpending id hid)
  | settled idle pending => exact .settled idle fun h id hid => pending h id (hpending id hid)

/-- The upload is asked for. -/
theorem trying_start (hflowing : Flowing ⟨r, none⟩ emitted known)
    (hclosed : r.capture.stream = none) (name : String) : Trying accepting r (after (r.start name)) := by
  obtain ⟨given, hfleet⟩ := hflowing.fleet
  have found : (r.timeline.add (.new r.uploadConfig name)).uploads[r.timeline.uploads.length]? =
      some (.new r.uploadConfig name) := List.getElem?_concat_length
  have haside := Timeline.aside_happen (r.timeline.add (.new r.uploadConfig name))
    r.timeline.uploads.length (.command .create)
  have hlone : (r.timeline.add (.new r.uploadConfig name)).Lone r.timeline.uploads.length := by
    intro a ha hi
    exact absurd hi (Nat.ne_of_lt (hfleet.placed a ha))
  have hown : ∀ who pause call, Effect.call who pause call ∈
      ((Upload.new r.uploadConfig name).react (.command .create)).2 → who = .owner := by
    intro who pause call hcall
    exact (Effect.call.inj (List.mem_singleton.1 hcall)).1
  have hpaired : r.pumps.length = r.timeline.uploads.length := hflowing.paired
  refine ⟨rfl, hclosed, haside.length.trans List.length_append, ?_, hlone.happen found hown, ?_⟩
  · change (r.pumps ++ [Pump.idle])[r.timeline.uploads.length]? = some .idle
    rw [← hpaired]
    exact List.getElem?_concat_length
  · obtain ⟨agenda, heq, -⟩ := Timeline.happen_eq found (.command .create)
    refine ⟨((Upload.new r.uploadConfig name).react (.command .create)).1, ?_, rfl, ?_⟩
    · change (Timeline.happen _ _ (.command .create)).1.uploads[_]? = _
      rw [heq]
      have hadded : r.timeline.uploads.length <
          (r.timeline.add (.new r.uploadConfig name)).uploads.length := by
        rw [Timeline.add, List.length_append]
        exact Nat.lt_succ_self _
      exact List.getElem?_set_self hadded
    · change Undertaken _ _ _ (Timeline.happen _ _ (.command .create)).1.store.memory _
        (some (.creating r.timeline.uploads.length name))
      rw [Timeline.store_happen]
      exact .creating rfl fun id hid => hid

/-- What the other recordings do is of no account. -/
theorem Trying.beside (h : Trying accepting r ⟨q, w⟩) {t : Timeline} {pumps : List Pump}
    (hcount : t.uploads.length = q.timeline.uploads.length)
    (hupload : t.uploads[r.timeline.uploads.length]? =
      q.timeline.uploads[r.timeline.uploads.length]?)
    (hpump : pumps[r.timeline.uploads.length]? = q.pumps[r.timeline.uploads.length]?)
    (hlone : t.Lone r.timeline.uploads.length)
    (hpending : ∀ id ∈ t.store.memory.pending.keys, id ∈ q.timeline.store.memory.pending.keys) :
    Trying accepting r ⟨{ q with timeline := t, pumps }, w⟩ := by
  obtain ⟨own, closed, count, pump, lone, u, found, quiet, undertaken⟩ := h
  dsimp only at own
  refine ⟨?_, closed, hcount.trans count, hpump.trans pump, hlone, u, hupload.trans found, quiet,
    undertaken.mono hpending⟩
  rw [own]

/-- The start goes on with its upload. -/
theorem Trying.replace (h : Trying accepting r ⟨q, w⟩) {t : Timeline} {v : Upload}
    {capture : Capture} {w' : Option Waiting}
    (huploads : t.uploads = q.timeline.uploads.set r.timeline.uploads.length v)
    (hquiet : v.session.tasks = []) (hlone : t.Lone r.timeline.uploads.length)
    (hclosed : capture.stream = none)
    (hundertaken : Undertaken accepting r.timeline.store.memory.pending.keys
      r.timeline.uploads.length t.store.memory v w') :
    Trying accepting r ⟨{ q with timeline := t, capture }, w'⟩ := by
  obtain ⟨own, closed, count, pump, lone, -⟩ := h
  dsimp only at own count
  refine ⟨?_, hclosed, ?_, pump, hlone, v, ?_, hquiet, hundertaken⟩
  · rw [own]
  · rw [huploads, List.length_set]
    exact count
  · rw [huploads]
    exact List.getElem?_set_self (by rw [count]; exact Nat.lt_succ_self _)

/-- The device does not start for an upload that was just created, which is then dropped. -/
theorem Trying.drop {i : Nat} {name id : String} {t : Timeline} {v : Upload}
    (h : Trying accepting r ⟨q, some (.creating i name)⟩) (hi : i = r.timeline.uploads.length)
    (huploads : t.uploads = q.timeline.uploads.set i v) (hphase : v.session.phase = .opened id)
    (hidle : v.awaiting = none) (hlone : t.Lone i)
    (hpending : ∀ other ∈ t.store.memory.pending.keys,
      other ∈ r.timeline.store.memory.pending.keys ∨ other = id)
    (hfailed : ∀ reply, (Recorder.record { q with timeline := t } i name).2.result? ≠
      some (.ok reply)) :
    Trying accepting r (after (Recorder.record { q with timeline := t } i name)) := by
  subst hi
  have hcount : r.timeline.uploads.length < q.timeline.uploads.length := by
    rw [h.count]
    exact Nat.lt_succ_self _
  have found : t.uploads[r.timeline.uploads.length]? = some v := by
    rw [huploads, List.getElem?_set_self hcount]
  let dropped : Session :=
    { v.session with tasks := [], pending := .empty, phase := .failed .sessionFailed }
  have haborted : v.react (.command .abort) =
      Upload.ask dropped .aborting (.abort v.session.key id) := by
    rw [Upload.react_command hidle, Upload.begin, hphase]
  obtain ⟨agenda, heq, -⟩ := Timeline.happen_eq found (.command .abort)
  have hdropping : (t.happen r.timeline.uploads.length (.command .abort)).1.Lone
      r.timeline.uploads.length := by
    refine hlone.happen found fun who pause call hcall => ?_
    rw [haborted] at hcall
    exact (Effect.call.inj (List.mem_singleton.1 hcall)).1
  rw [heq, haborted] at hdropping
  unfold Recorder.record at hfailed ⊢
  split
  · next reason capture hcapture =>
      have hclosed := (Capture.stream_of_start_error hcapture).trans h.closed
      rw [Timeline.command, heq, haborted]
      refine h.replace (v := (Upload.ask dropped .aborting (.abort v.session.key id)).1) ?_ rfl
        hdropping hclosed (.undoing rfl hpending)
      dsimp only
      rw [huploads, List.set_set]
  · next capture hcapture =>
      rw [hcapture] at hfailed
      exact absurd rfl (hfailed .done)

/-- The upload of the start hears of its creation. -/
theorem Trying.heard_creation {name key contentType : String} {attempt : Nat} {t : Timeline}
    {u : Upload} {event : Event}
    (h : Trying accepting r ⟨q, some (.creating r.timeline.uploads.length name)⟩)
    (hquiet : u.session.tasks = [])
    (hasks : u.awaiting = some (.store .creating (.create key contentType) attempt))
    (hbefore : ∀ id ∈ q.timeline.store.memory.pending.keys,
      id ∈ r.timeline.store.memory.pending.keys)
    (hears : u.Hears q.timeline.store.memory event t.store.memory)
    (huploads : t.uploads =
      q.timeline.uploads.set r.timeline.uploads.length (u.react event).1)
    (hlone : t.Lone r.timeline.uploads.length)
    (hfailed : ∀ reply,
      (heeded? ⟨{ q with timeline := t }, some (.creating r.timeline.uploads.length name)⟩
        ((Effect.ending? (u.react event).2).map (.finished r.timeline.uploads.length))).bind
      (·.result?) ≠ some (.ok reply)) :
    Trying accepting r
      (told ⟨{ q with timeline := t }, some (.creating r.timeline.uploads.length name)⟩
        ((Effect.ending? (u.react event).2).map (.finished r.timeline.uploads.length))) := by
  have hcreation := hears.pending_of_creation hquiet hasks
  have hnothing : (∀ id, event ≠ .answered .owner (.ok id)) →
      ∀ id ∈ t.store.memory.pending.keys, id ∈ r.timeline.store.memory.pending.keys :=
    fun hother id hid => (hcreation id hid).elim (hbefore id) fun heq => absurd heq (hother id)
  have hcreates := hears.creates hquiet hasks
  generalize u.react event = out at hcreates huploads hfailed
  cases hcreates with
  | again quiet asks silent refused =>
      rw [silent]
      exact h.replace huploads quiet hlone h.closed (.creating asks (hnothing refused))
  | failed error quiet idle refused =>
      change Trying accepting r (told _ (some (.finished _ _)))
      rw [told_of_waits rfl]
      exact h.replace huploads quiet hlone h.closed (.settled idle fun _ => hnothing refused)
  | opened outcome idle phase given =>
      change ∀ reply, (heeded? _ (some (.finished _ _))).bind _ ≠ _ at hfailed
      rw [heeded?_of_waits rfl, Option.bind_some] at hfailed
      change Trying accepting r (told _ (some (.finished _ _)))
      rw [told_of_waits rfl]
      refine h.drop rfl huploads phase idle hlone (fun other hother => ?_) hfailed
      refine (hcreation other hother).imp (hbefore other) fun heq => ?_
      exact (Except.ok.inj (Event.answered.inj (given.symm.trans heq)).2).symm

/-- The upload of the start hears of its call. -/
theorem Trying.heard (h : Trying accepting r ⟨q, w⟩) {t : Timeline} {u : Upload} {event : Event}
    (found : q.timeline.uploads[r.timeline.uploads.length]? = some u)
    (hears : u.Hears q.timeline.store.memory event t.store.memory)
    (huploads : t.uploads =
      q.timeline.uploads.set r.timeline.uploads.length (u.react event).1)
    (hlone : t.Lone r.timeline.uploads.length)
    (hdropped : accepting → ∀ result key id attempt,
      Effect.ending? (u.react event).2 = some result →
      u.awaiting = some (.store .aborting (.abort key id) attempt) →
      ∀ other ∈ t.store.memory.pending.keys,
        other ∈ q.timeline.store.memory.pending.keys ∧ other ≠ id)
    (hfailed : ∀ reply, (heeded? ⟨{ q with timeline := t }, w⟩
        ((Effect.ending? (u.react event).2).map (.finished r.timeline.uploads.length))).bind
      (·.result?) ≠ some (.ok reply)) :
    Trying accepting r (told ⟨{ q with timeline := t }, w⟩
      ((Effect.ending? (u.react event).2).map (.finished r.timeline.uploads.length))) := by
  obtain ⟨v, hv, hquiet, hundertaken⟩ := h.upload
  obtain rfl := Option.some.inj (found.symm.trans hv)
  dsimp only at hundertaken
  cases hundertaken with
  | creating asks pending =>
      exact h.heard_creation hquiet asks pending hears huploads hlone hfailed
  | @undoing reason key id attempt asks pending =>
      obtain ⟨v, result, hreact, hquiet, hidle⟩ := hears.dropped hquiet asks
      rw [hreact] at huploads hdropped ⊢
      change Trying accepting r (told _ (some (.finished _ _)))
      rw [told_of_waits rfl]
      refine h.replace huploads hquiet hlone h.closed (.settled hidle ?_)
      intro haccepting other hother
      obtain ⟨hbefore, hne⟩ := hdropped haccepting result key id attempt rfl asks other hother
      exact (pending other hbefore).resolve_right hne
  | settled idle pending =>
      -- an upload that waits for nothing hears nothing
      obtain ⟨who, call, hcall⟩ := hears.exists_call
      have hexpected : u.expects who = true := by rw [← Upload.isSome_call?, hcall]; rfl
      obtain rfl := Transfer.expects_of_quiet hquiet hexpected
      rw [Upload.expects, idle] at hexpected
      cases hexpected

/-- What another recording does, or its pump, is of no account. -/
theorem Trying.pumped (h : Trying accepting r ⟨q, w⟩) {q' : Recorder} {i : Nat}
    (hpumped : q.PumpedOn i q') (hi : r.timeline.uploads.length ≠ i) :
    Trying accepting r ⟨q', w⟩ := by
  obtain ⟨own, driven, -, others⟩ := hpumped
  have haside := driven.aside
  rw [own]
  refine h.beside haside.length (haside.others _ hi) (others _ hi) (h.lone.aside haside hi) ?_
  rw [driven.store_eq]
  exact fun id hid => hid

/-- Until it ends, a start waits for its upload. -/
theorem Undertaken.storePlace? {before : List String} {i : Nat} {memory : MemoryStore} {u : Upload}
    (h : Undertaken accepting before i memory u w) (hwaits : w ≠ none) :
    w.bind (·.storePlace?) = some i := by
  cases h with
  | creating asks pending => rfl
  | undoing asks pending => rfl
  | settled idle pending => exact absurd rfl hwaits

/-- Still only what its upload asks for is due. -/
theorem Trying.lone_occur (h : Trying accepting r ⟨q, w⟩) {k now : Nat} {contact : Option Contact}
    {t : Timeline} {notice : Option Notice}
    (hoccur : q.timeline.occur? k now = some (contact, t, notice)) (hwaits : w ≠ none) :
    t.Lone r.timeline.uploads.length := by
  obtain ⟨u, found, hquiet, hundertaken⟩ := h.upload
  refine h.lone.occur found (fun event hevent who pause call hcall => ?_) hoccur
  cases hundertaken with
  | creating asks pending => exact Upload.owner_of_call hquiet asks (.inl rfl) hevent hcall
  | undoing asks pending => exact Upload.owner_of_call hquiet asks (.inr rfl) hevent hcall
  | settled idle pending => exact absurd rfl hwaits

/-- Whatever is due next, a start that has not succeeded by it has changed nothing else. -/
theorem Trying.occur (h : Trying accepting r ⟨q, w⟩) (hflowing : Flowing ⟨q, w⟩ emitted known)
    (hfounded : Founded accepting ⟨q, w⟩) {k now : Nat} {contact : Option Contact} {t : Timeline}
    {notice : Option Notice} (hoccur : q.timeline.occur? k now = some (contact, t, notice))
    (hwaits : w ≠ none)
    (hfailed : ∀ reply,
      (heeded? ⟨{ q with timeline := t }, w⟩ notice).bind (·.result?) ≠ some (.ok reply)) :
    Trying accepting r (told ⟨{ q with timeline := t }, w⟩ notice) := by
  obtain ⟨given, hfleet⟩ := hflowing.fleet
  obtain ⟨hpasses, -⟩ := hfleet.occur hoccur
  obtain ⟨u, found, hquiet, hundertaken⟩ := h.upload
  have hplace := hundertaken.storePlace? hwaits
  have hlone := h.lone_occur hoccur hwaits
  -- on the store the others only take away
  have hbarren : ∀ {i}, i ≠ r.timeline.uploads.length → q.timeline.BarrenAt i := by
    intro i hi
    refine hfounded.barrenAt fun name hname => hi ?_
    obtain rfl : w = some _ := hname
    exact Option.some.inj hplace
  cases hpasses with
  | still uploads memory =>
      refine h.beside (by rw [uploads]) (by rw [uploads]) rfl hlone ?_
      rw [memory]
      exact fun id hid => hid
  | @woke i placed uploads memory =>
      have htries : Trying accepting r ⟨{ q with timeline := t }, w⟩ := by
        refine h.beside (by rw [uploads]) (by rw [uploads]) rfl hlone ?_
        rw [memory]
        exact fun id hid => hid
      by_cases hi : r.timeline.uploads.length = i
      · subst hi
        have hsame : Recorder.notice { q with timeline := t } (.woke r.timeline.uploads.length) =
            { q with timeline := t } := Recorder.notice_of_still h.pump rfl
        change Trying accepting r ⟨Recorder.notice _ _, w⟩
        rw [hsame]
        exact htries
      · exact htries.pumped (Recorder.pumpedOn_runPump _ i) hi
  | @heard i v event hv hears uploads spares =>
      by_cases hi : i = r.timeline.uploads.length
      · subst hi
        obtain rfl := Option.some.inj (found.symm.trans hv)
        refine h.heard found hears uploads hlone ?_ hfailed
        intro haccepting result key id attempt hended hasks
        rw [hended] at hoccur
        exact Timeline.pending_of_dropped hfleet (hfounded.governed haccepting) found hquiet hasks
          hoccur
      · have htries : Trying accepting r ⟨{ q with timeline := t }, w⟩ := by
          refine h.beside (by rw [uploads, List.length_set]) ?_ rfl hlone fun id hid => ?_
          · rw [uploads]
            exact List.getElem?_set_ne hi
          · exact (hbarren hi v hv).pending_of_hears hears hid
        cases Effect.ending? (v.react event).2 with
        | none => exact htries
        | some result =>
            rw [Option.map_some, told_of_free (by rw [hplace]; simpa using Ne.symm hi)]
            exact htries.pumped (Recorder.pumpedOn_notice _ (.finished i result)) (Ne.symm hi)

/-- So it is whatever happens. -/
theorem Trying.act (h : Trying accepting r s) (hflowing : s.Flowing emitted known)
    (hfounded : s.Founded accepting) {a : Act} (hact : s.act? a = some s')
    (hwaits : s.waiting ≠ none) (hsilent : (Turn.mk s a s').handler? = none)
    (hfailed : ∀ reply, (Turn.mk s a s').result? ≠ some (.ok reply)) : Trying accepting r s' := by
  obtain ⟨q, w⟩ := s
  have hclosed : q.capture.stream = none := h.closed
  obtain ⟨u, -, -, hundertaken⟩ := h.upload
  cases acts_of_act? hact with
  | unread chunk opened still => cases hclosed.symm.trans opened
  | move moves =>
      cases moves with
      | begin c => exact absurd rfl hwaits
      | occur occurs =>
          refine h.occur hflowing hfounded occurs hwaits fun reply hreply => hfailed reply ?_
          rw [Turn.result?_occur occurs]
          exact hreply
      | conclude ended => cases hundertaken
      | expire i deadline => cases hundertaken
      | emit chunk opened reads => cases hclosed.symm.trans opened
      | on name handler => cases hsilent
      | pass now =>
          exact h.beside (t := { q.timeline with now }) rfl rfl rfl h.lone fun id hid => hid

end Scene

end StudySession

import StudySession.Proofs.Recorder.Streams

/-!
# Who creates uploads

An upload is created on the store by the start that waits for it, and by nothing else. Of the other
uploads every call is for a part, for the completion or for the end (`Upload.Barren`), whatever they
hear and whatever their pumps tell them; so once the start waits no longer, nothing that goes on
makes a new upload pending (`Scene.Founded`).
-/

namespace StudySession

/-! ## Calls that create -/

/-- Whether a call creates an upload. -/
def StoreCall.isCreate : StoreCall → Bool
  | create _ _ => true
  | _ => false

theorem MemoryStore.pending_perform_of_not_create {s : MemoryStore} {call : StoreCall} {id : String}
    (hcall : call.isCreate = false) (h : id ∈ (s.perform call).2.pending.keys) :
    id ∈ s.pending.keys := by
  rcases pending_perform h with hid | ⟨⟨key, contentType, rfl⟩, -⟩
  · exact hid
  · cases hcall

namespace Upload

/-- The owner asks for no creation. -/
def Uncreating (u : Upload) : Prop := ∀ call ∈ u.asking, call.isCreate = false

/-- No call of the upload is a creation. -/
structure Barren (u : Upload) : Prop where
  asks : u.Uncreating
  sends : u.session.SendsParts

variable {u : Upload} {s : Session} {id : String} {c : Command} {out : Upload × List Effect}

theorem uncreating_finish (s : Session) (result : Except UploadError Outcome) :
    (finish s result).1.Uncreating := by
  intro call hcall
  cases hcall

theorem uncreating_ask (s : Session) (purpose : Purpose) {call : StoreCall}
    (hcall : call.isCreate = false) : (ask s purpose call).1.Uncreating := by
  intro asked hasked
  rw [List.mem_singleton.1 hasked]
  exact hcall

theorem uncreating_fail (s : Session) (error : UploadError) : (fail s error).1.Uncreating := by
  unfold fail
  dsimp only
  split
  · exact uncreating_ask _ _ rfl
  · exact uncreating_finish _ _

theorem Joined.uncreating (h : Joined s id out) : out.1.Uncreating := by
  cases h with
  | waits busy => intro call hcall; cases hcall
  | completes quiet acked nonempty => exact uncreating_ask _ _ rfl
  | fails error => exact uncreating_fail _ _

theorem Told.uncreating (h : Told s id c out) : out.1.Uncreating := by
  cases h with
  | reopened => exact uncreating_finish _ _
  | refused gate lost => exact uncreating_fail _ _
  | gathered healthy few => exact uncreating_finish _ _
  | flushed healthy enough => intro call hcall; cases hcall
  | sent => exact uncreating_ask _ _ rfl
  | joined healthy empty joined => exact joined.uncreating
  | flushedLast healthy rest => intro call hcall; cases hcall
  | aborted => exact uncreating_ask _ _ rfl

theorem uncreating_begin (s : Session) (hc : c ≠ .create) : (begin s c).1.Uncreating := by
  have hbegun := begun_begin s c
  generalize begin s c = out at hbegun
  cases hbegun with
  | creating phase => exact absurd rfl hc
  | told phase told => exact told.uncreating
  | dismissed shut refused => exact uncreating_finish _ _
  | failed shut lost => exact uncreating_fail _ _

theorem uncreating_conclude (s : Session) (purpose : Purpose) (attempt : Nat)
    (answer : Except StoreError String) : (conclude s purpose attempt answer).1.Uncreating := by
  cases purpose with
  | completing id listed total =>
      cases answer with
      | ok tag => exact uncreating_finish _ _
      | error e => exact uncreating_fail _ _
  | _ => cases answer <;> exact uncreating_finish _ _

/-- Nor does it when a part is on its way no longer. -/
theorem uncreating_afterPart (h : u.Uncreating) : u.afterPart.1.Uncreating := by
  rcases afterPart_cases u with ⟨id, -, hjoined⟩ | ⟨-, hnone⟩
  · exact hjoined.uncreating
  · rw [hnone]
    exact h

/-- Only the command to create an upload leads to its creation. -/
theorem Barren.react (h : u.Barren) {event : Event} (hevent : event ≠ .command .create) :
    (u.react event).1.Barren := by
  refine ⟨?_, (sendsParts_react h.sends event).tasks⟩
  cases event with
  | command c =>
      rw [Upload.react]
      split
      · exact uncreating_begin _ fun hc => hevent (congrArg _ hc)
      · exact h.asks
  | died who =>
      cases who with
      | owner => exact uncreating_finish _ _
      | part number =>
          rw [Upload.react, partDied]
          split
          · exact uncreating_afterPart h.asks
          · exact h.asks
  | answered who answer =>
      cases who with
      | owner =>
          rw [Upload.react, ownerAnswered]
          split
          · next purpose call attempt hawaiting =>
              have hcall : call.isCreate = false :=
                h.asks call (by rw [asking, hawaiting]; exact List.mem_cons_self)
              dsimp only
              split
              · exact uncreating_ask u.session purpose hcall
              · exact uncreating_conclude _ _ _ _
          · exact h.asks
      | part number =>
          rw [Upload.react, partAnswered]
          dsimp only
          split
          · exact h.asks
          · split
            · exact uncreating_afterPart h.asks
            · split
              · exact h.asks
              · exact uncreating_afterPart h.asks

/-- What a barren upload hears of makes nothing new pending. -/
theorem Barren.pending_of_hears (h : u.Barren) {memory memory' : MemoryStore} {event : Event}
    (hears : u.Hears memory event memory') (hid : id ∈ memory'.pending.keys) :
    id ∈ memory.pending.keys := by
  cases hears with
  | failed error asked => exact hid
  | died asked => exact hid
  | @passed who call answer _ asked performed =>
      rw [← show (memory.perform call).2 = memory' from congrArg Prod.snd performed] at hid
      refine MemoryStore.pending_perform_of_not_create ?_ hid
      cases who with
      | owner => exact h.asks call (List.mem_of_mem_head? asked)
      | part number =>
          obtain ⟨task, hfound, rfl⟩ := Option.map_eq_some_iff.1 asked
          have hpart := h.sends task (List.mem_of_find?_eq_some hfound)
          cases hcall : task.call with
          | create key contentType => rw [hcall] at hpart; cases hpart
          | _ => rfl

/-- Once its creation has been answered for good, an upload is barren. -/
theorem barren_of_created {memory memory' : MemoryStore} {event : Event} (hcreating : u.Creating)
    (hquiet : u.session.tasks = []) (hears : u.Hears memory event memory')
    (hended : (Effect.ending? (u.react event).2).isSome = true) : (u.react event).1.Barren := by
  have hsends : u.session.SendsParts := by
    intro task htask
    rw [hquiet] at htask
    cases htask
  refine ⟨?_, (sendsParts_react hsends event).tasks⟩
  rcases hears.of_quiet hquiet with ⟨answer, rfl⟩ | rfl
  · obtain ⟨call, attempt, hwaits⟩ := hcreating
    have htold := ownerTold_of_awaiting hwaits answer
    generalize u.react (.answered .owner answer) = out at htold hended
    cases htold with
    | again retried pause => cases hended
    | concluded last => exact uncreating_conclude _ _ _ _
  · exact uncreating_finish _ _

end Upload

/-! ## One place goes on -/

namespace Timeline

variable {t t' t'' : Timeline} {i j : Nat}

/-- Only what belongs to one place has changed of the uploads and of what is due. -/
structure Aside (t t' : Timeline) (i : Nat) : Prop where
  length : t'.uploads.length = t.uploads.length
  others : ∀ j, j ≠ i → t'.uploads[j]? = t.uploads[j]?
  due : ∀ a ∈ t'.agenda, a.upload ≠ i → a ∈ t.agenda

theorem Aside.refl (t : Timeline) (i : Nat) : t.Aside t i := ⟨rfl, fun _ _ => rfl, fun _ ha _ => ha⟩

theorem Aside.trans (h : t.Aside t' i) (h' : t'.Aside t'' i) : t.Aside t'' i :=
  ⟨h'.length.trans h.length, fun j hj => (h'.others j hj).trans (h.others j hj),
    fun a ha hi => h.due a (h'.due a ha hi) hi⟩

theorem aside_happen (t : Timeline) (i : Nat) (event : Event) : t.Aside (t.happen i event).1 i := by
  cases found : t.uploads[i]? with
  | none =>
      rw [happen_eq_self found]
      exact .refl t i
  | some u =>
      obtain ⟨agenda, heq, hperm⟩ := happen_eq found event
      rw [heq]
      refine ⟨List.length_set, fun j hj => List.getElem?_set_ne (Ne.symm hj), fun a ha hi => ?_⟩
      rcases List.mem_append.1 (hperm.subset ha) with ha | ha
      · obtain ⟨who, pause, call, -, rfl⟩ := mem_launched ha
        exact absurd rfl hi
      · exact ha

/-- The owner of an upload has given it some commands, but none to create it. -/
inductive Driven (t : Timeline) (i : Nat) : Timeline → Prop where
  | still : Driven t i t
  | command {t' : Timeline} {c : Command} (sofar : Driven t i t') (other : c ≠ .create) :
      Driven t i (t'.command i c).1

theorem Driven.trans (h : t.Driven i t') (h' : t'.Driven i t'') : t.Driven i t'' := by
  induction h' with
  | still => exact h
  | command sofar other ih => exact .command ih other

theorem Driven.aside (h : t.Driven i t') : t.Aside t' i := by
  induction h with
  | still => exact .refl t i
  | command sofar other ih => exact ih.trans (aside_happen _ _ _)

theorem Driven.store_eq (h : t.Driven i t') : t'.store = t.store := by
  induction h with
  | still => rfl
  | command sofar other ih => rw [Timeline.command, store_happen, ih]

theorem Driven.governs {terms : Terms} (h : t.Driven i t') (hgoverns : terms.Governs t) :
    terms.Governs t' := by
  induction h with
  | still => exact hgoverns
  | command sofar other ih => exact ih.happen _ _

/-- The upload at a place is barren, if there is one. -/
def BarrenAt (t : Timeline) (i : Nat) : Prop := ∀ u, t.uploads[i]? = some u → u.Barren

theorem BarrenAt.of_uploads (h : t.BarrenAt i) (huploads : t'.uploads = t.uploads) :
    t'.BarrenAt i := by
  intro u found
  exact h u (huploads ▸ found)

/-- Where one upload goes on, the barren ones stay so if that one does. -/
theorem BarrenAt.set (h : t.BarrenAt j) {v : Upload} (huploads : t'.uploads = t.uploads.set i v)
    (hbarren : t.BarrenAt i → v.Barren) : t'.BarrenAt j := by
  intro u found
  rw [huploads] at found
  rcases eq_or_getElem?_of_set found with ⟨rfl, rfl⟩ | ⟨-, found⟩
  · exact hbarren h
  · exact h u found

theorem BarrenAt.driven (h : t.BarrenAt j) (hdriven : t.Driven i t') : t'.BarrenAt j := by
  induction hdriven with
  | still => exact h
  | @command t' c sofar other ih =>
      cases found : t'.uploads[i]? with
      | none =>
          rw [Timeline.command, happen_eq_self found]
          exact ih
      | some u =>
          obtain ⟨agenda, heq, -⟩ := happen_eq found (.command c)
          refine ih.set (v := (u.react (.command c)).1) (by rw [Timeline.command, heq]) fun hi => ?_
          exact (hi u found).react fun hc => other (Event.command.inj hc)

/-- What is due next leaves the barren uploads so. -/
theorem BarrenAt.passes (h : t.BarrenAt j) {notice : Option Notice} (hpasses : t.Passes t' notice) :
    t'.BarrenAt j := by
  cases hpasses with
  | still uploads memory => exact h.of_uploads uploads
  | woke placed uploads memory => exact h.of_uploads uploads
  | @heard i u event found hears uploads spares =>
      refine h.set uploads fun hi => (hi u found).react ?_
      rintro rfl
      cases hears

end Timeline

/-- The place that a notice is of. -/
def Notice.place : Notice → Nat
  | finished i _ => i
  | woke i => i

namespace Recorder

variable {r r' : Recorder} {i : Nat}

/-- A pump and its upload have gone on, and nothing else of the recorder. -/
structure PumpedOn (r : Recorder) (i : Nat) (r' : Recorder) : Prop where
  own : r' = { r with timeline := r'.timeline, pumps := r'.pumps }
  driven : r.timeline.Driven i r'.timeline
  count : r'.pumps.length = r.pumps.length
  others : ∀ j, j ≠ i → r'.pumps[j]? = r.pumps[j]?

theorem PumpedOn.refl (r : Recorder) (i : Nat) : r.PumpedOn i r :=
  ⟨rfl, .still, rfl, fun _ _ => rfl⟩

theorem driven_readChunks (t : Timeline) (i : Nat) (p : Pump) (chunks : List ByteArray) :
    t.Driven i (readChunks t i p chunks).1 := by
  induction chunks generalizing t with
  | nil =>
      have htold : t.Driven i (t.command i .complete).1 := .command .still (by simp)
      rw [readChunks]
      split
      · generalize t.command i .complete = out at htold
        obtain ⟨t', result⟩ := out
        cases result <;> exact htold
      · exact .still
  | cons chunk rest ih =>
      have htold : t.Driven i (t.command i (.accept chunk)).1 := .command .still (by simp)
      rw [readChunks]
      generalize t.command i (.accept chunk) = out at htold
      obtain ⟨t', result⟩ := out
      rcases result with _ | e | outcome
      · exact htold
      · exact htold
      · exact htold.trans (ih t')

theorem pumpedOn_runPump (r : Recorder) (i : Nat) : r.PumpedOn i (r.runPump i) := by
  unfold runPump
  split
  · next p upload hpump found =>
      split
      · exact ⟨rfl, driven_readChunks r.timeline i p p.queue, List.length_set,
          fun j hj => List.getElem?_set_ne (Ne.symm hj)⟩
      · exact .refl r i
  · exact .refl r i

theorem pumpedOn_notice (r : Recorder) (notice : Notice) :
    r.PumpedOn notice.place (r.notice notice) := by
  cases notice with
  | woke i => exact pumpedOn_runPump r i
  | finished i result =>
      unfold Recorder.notice
      dsimp only
      split
      · next p hpump =>
          split
          · obtain ⟨own, driven, count, others⟩ := pumpedOn_runPump
              { r with pumps := r.pumps.set i (readChunks.ended p result) } i
            refine ⟨own, driven, count.trans List.length_set, fun j hj => ?_⟩
            exact (others j hj).trans (List.getElem?_set_ne (Ne.symm hj))
          · exact .refl r i
      · exact .refl r i

/-- A pump that does not run takes no notice. -/
theorem notice_of_still {notice : Notice} {p : Pump} (hpump : r.pumps[notice.place]? = some p)
    (hstill : p.running = false) : r.notice notice = r := by
  cases notice with
  | woke i =>
      have hpump : r.pumps[i]? = some p := hpump
      rw [Recorder.notice, runPump, hpump]
      split
      · next q upload hq found =>
          obtain rfl := Option.some.inj hq
          rw [if_neg (by simp [hstill])]
      · rfl
  | finished i result =>
      have hpump : r.pumps[i]? = some p := hpump
      rw [Recorder.notice, hpump]
      dsimp only
      rw [if_neg (by simp [hstill])]

/-- When a command goes on with its upload, only that one is concerned. -/
theorem driven_resume {w : Waiting} (r : Recorder) (hplace : w.storePlace? = some i)
    (result : Except UploadError Outcome) :
    r.timeline.Driven i (r.resume w result).1.timeline := by
  cases w with
  | uploading j deadline => cases hplace
  | undoing j reason => exact .still
  | creating j name =>
      obtain rfl := Option.some.inj hplace
      cases result with
      | error e => exact .still
      | ok outcome =>
          have habort : r.timeline.Driven j (r.timeline.command j .abort).1 :=
            .command .still (by simp)
          rw [resume, record]
          split
          · generalize r.timeline.command j .abort = out at habort
            obtain ⟨t, ended⟩ := out
            cases ended <;> exact habort
          · exact .still

end Recorder

/-! ## Scenes -/

namespace Scene

/-- Every upload but the one that a start waits for is barren. Where aborts are to pass, they do. -/
structure Founded (accepting : Prop) (s : Scene) : Prop where
  barren : ∀ i, (∃ name, s.waiting = some (.creating i name)) ∨ s.recorder.timeline.BarrenAt i
  governed : accepting → Terms.abortsPass.Governs s.recorder.timeline

variable {accepting : Prop} {r : Recorder} {w : Option Waiting} {s s' : Scene}
  {emitted : Nat → List ByteArray} {known : Nat → Option (Except UploadError CompletedUpload)}

/-- While nothing waits for a creation, there is none. -/
theorem Founded.barrenAt (h : s.Founded accepting) {i : Nat}
    (hwaits : ∀ name, s.waiting ≠ some (.creating i name)) : s.recorder.timeline.BarrenAt i := by
  rcases h.barren i with ⟨name, hname⟩ | hbarren
  · exact absurd hname (hwaits name)
  · exact hbarren

theorem founded_begin (h : Founded accepting ⟨r, none⟩) (c : RecorderCommand) :
    Founded accepting (after (r.begin c)) := by
  have hall : ∀ i, r.timeline.BarrenAt i := fun i => h.barrenAt (by simp)
  have hbegins := begins_begin r c
  generalize after (r.begin c) = s at hbegins
  cases hbegins with
  | still timeline pumps stream =>
      refine ⟨fun i => .inr ?_, fun haccepting => ?_⟩
      · rw [timeline]
        exact hall i
      · rw [timeline]
        exact h.governed haccepting
  | closed free timeline pumps stream =>
      have huploads : (r.endStream r.capture.stream).timeline.uploads = r.timeline.uploads := by
        cases r.capture.stream <;> rfl
      refine ⟨fun i => .inr ?_, fun haccepting => ?_⟩
      · rw [timeline]
        exact (hall i).of_uploads huploads
      · rw [timeline]
        cases r.capture.stream with
        | none => exact h.governed haccepting
        | some j => exact (h.governed haccepting).wake j
  | asked name =>
      let added := r.timeline.add (.new r.uploadConfig name)
      refine ⟨fun i => ?_, fun haccepting => ?_⟩
      · by_cases hi : i = r.timeline.uploads.length
        · exact .inl ⟨name, by rw [hi]; rfl⟩
        · refine .inr fun u found => ?_
          have haside := Timeline.aside_happen added r.timeline.uploads.length (.command .create)
          have found : added.uploads[i]? = some u := (haside.others i hi).symm.trans found
          rcases getElem?_snoc_eq_some found with found | ⟨rfl, -⟩
          · exact hall i u found
          · exact absurd rfl hi
      · have hadded : Terms.abortsPass.Governs added :=
          ⟨(h.governed haccepting).script, (h.governed haccepting).agenda⟩
        exact hadded.happen _ _

/-- Once the store has answered the command that waited for it, every upload is barren. -/
theorem barrenAt_of_finished {t : Timeline} {w : Waiting} {i : Nat}
    {result : Except UploadError Outcome} (h : Founded accepting ⟨r, some w⟩)
    (hflowing : Flowing ⟨r, some w⟩ emitted known)
    (hpasses : r.timeline.Passes t (some (.finished i result)))
    (hplace : w.storePlace? = some i) (j : Nat) : t.BarrenAt j := by
  by_cases hcreating : ∃ name, w = .creating j name
  · obtain ⟨name, rfl⟩ := hcreating
    obtain rfl : j = i := Option.some.inj hplace
    generalize hnotice : some (Notice.finished j result) = notice at hpasses
    cases hpasses with
    | still uploads memory => cases hnotice
    | woke placed uploads memory => cases hnotice
    | @heard i u event found hears uploads spares =>
        obtain ⟨outcome, hended, heq⟩ := Option.map_eq_some_iff.1 hnotice.symm
        obtain ⟨rfl, rfl⟩ := Notice.finished.inj heq
        have hlt : i < r.timeline.uploads.length := (List.getElem?_eq_some_iff.1 found).1
        obtain ⟨p, _, hp, -⟩ := hflowing.place hlt
        intro v hv
        rw [uploads, List.getElem?_set_self hlt] at hv
        obtain rfl := Option.some.inj hv
        cases hflowing.flows i p u hp found with
        | creating waits closed took asks nothing unknown =>
            refine Upload.barren_of_created asks (took.tasks_eq_nil asks) hears ?_
            rw [hended]
            rfl
        | undoing waits unknown => cases waits
        | reading free => exact absurd rfl free
        | lost free => exact absurd rfl free
        | stored free => exact absurd rfl free
  · exact (h.barrenAt fun name hname => hcreating ⟨name, Option.some.inj hname⟩).passes hpasses

/-- What is due next makes no other upload ask for its creation. -/
theorem founded_told {t : Timeline} {notice : Option Notice} (h : Founded accepting ⟨r, w⟩)
    (hflowing : Flowing ⟨r, w⟩ emitted known) (hpasses : r.timeline.Passes t notice)
    (hgoverns : accepting → Terms.abortsPass.Governs t) :
    Founded accepting (told ⟨{ r with timeline := t }, w⟩ notice) := by
  have hkept : ∀ {i t'}, t.Driven i t' → ∀ j,
      (∃ name, w = some (.creating j name)) ∨ t'.BarrenAt j :=
    fun hdriven j => (h.barren j).imp_right fun hbarren => (hbarren.passes hpasses).driven hdriven
  -- where the command does not go on, at most a pump does
  have hpumped : ∀ n : Notice,
      Founded accepting ⟨Recorder.notice { r with timeline := t } n, w⟩ := by
    intro n
    have hdriven := (Recorder.pumpedOn_notice { r with timeline := t } n).driven
    exact ⟨hkept hdriven, fun haccepting => hdriven.governs (hgoverns haccepting)⟩
  cases notice with
  | none => exact ⟨hkept (i := 0) .still, hgoverns⟩
  | some n =>
      cases n with
      | woke i => exact hpumped _
      | finished i result =>
          by_cases hfree : w.bind (·.storePlace?) = some i
          · obtain ⟨w, rfl, hplace⟩ := Option.bind_eq_some_iff.1 hfree
            rw [told_of_waits hplace]
            have hdriven := Recorder.driven_resume { r with timeline := t } hplace result
            have hall := barrenAt_of_finished h hflowing hpasses hplace
            exact ⟨fun j => .inr ((hall j).driven hdriven),
              fun haccepting => hdriven.governs (hgoverns haccepting)⟩
          · rw [told_of_free hfree]
            exact hpumped _

/-- Whatever happens to a recorder, the other uploads stay barren. -/
theorem Founded.act (h : s.Founded accepting) (hflowing : s.Flowing emitted known) {a : Act}
    (hact : s.act? a = some s') : s'.Founded accepting := by
  obtain ⟨r, w⟩ := s
  cases acts_of_act? hact with
  | unread chunk opened still => exact h
  | move moves =>
      -- a command that waits for its pump waits for no creation, and ends without one
      have hended : ∀ (now : Nat) (outcome : Except UploadError CompletedUpload),
          w.bind (·.storePlace?) = none → Founded accepting
            (after (Recorder.conclude { r with timeline := { r.timeline with now } } outcome)) := by
        intro now outcome hfree
        have hall : ∀ i, r.timeline.BarrenAt i :=
          fun i => h.barrenAt fun name hname => by rw [show w = _ from hname] at hfree; cases hfree
        have hgoverns : accepting → Terms.abortsPass.Governs { r.timeline with now } :=
          fun haccepting => ⟨(h.governed haccepting).script, (h.governed haccepting).agenda⟩
        cases outcome <;> exact ⟨fun i => .inr (hall i), hgoverns⟩
      cases moves with
      | begin c => exact founded_begin h c
      | occur occurs =>
          obtain ⟨given, hfleet⟩ := hflowing.fleet
          obtain ⟨hpasses, -⟩ := hfleet.occur occurs
          exact founded_told h hflowing hpasses fun haccepting =>
            (h.governed haccepting).occur (fun _ _ => rfl) occurs
      | conclude ended => exact hended r.timeline.now _ rfl
      | expire i deadline => exact hended (max r.now deadline) _ rfl
      | @emit _ i chunk opened reads =>
          exact ⟨h.barren, fun haccepting => (h.governed haccepting).wake i⟩
      | on name handler =>
          rw [Recorder.on]
          split
          · exact h
          · exact ⟨h.barren, h.governed⟩
      | pass now =>
          exact ⟨h.barren, fun haccepting =>
            ⟨(h.governed haccepting).script, (h.governed haccepting).agenda⟩⟩

theorem founded_opening {script : Dict (List ScriptedCall)}
    (haccepting : accepting → Terms.abortsPass.Kept script) (config : RecorderConfig)
    (uploadConfig : UploadConfig) (available : DeviceChoice)
    (failures : Dict (List (Option String))) (preferred : DeviceChoice) (origin : Timestamp) :
    (opening config uploadConfig script available failures preferred origin).Founded accepting := by
  refine ⟨fun i => .inr fun u found => ?_, fun h => ⟨haccepting h, fun a ha => ?_⟩⟩
  · cases found
  · cases ha

/-- So it is in every course. -/
theorem Founded.course {turns : List Turn} (h : s.Founded accepting)
    (hflowing : s.Flowing emitted known) (hcourse : Course s turns s') : s'.Founded accepting := by
  induction hcourse with
  | start => exact h
  | step sofar acted ih => exact ih.act (hflowing.course sofar) acted

end Scene

end StudySession

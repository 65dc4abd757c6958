import StudySession.Proofs.Upload.Ledger
import StudySession.Recorder.Recorder

/-!
# Scenes

A `Scene` is a recorder with the command that it is at. A play of moves is any run of it: commands
one after the other, chunks and handlers at any time, and whatever is due in any order. Of each
recording, the pump and the upload have come as far as their `Berth` says: a command still waits
for the upload to be created or undone, the pump reads into it, or it is over. Every move keeps
that (`Scene.Staged.move`), so once no command waits and no pump runs, no upload is open.
-/

namespace StudySession

/-! ## Moves -/

/-- The place of the upload for whose answer a command waits itself. -/
def Waiting.storePlace? : Waiting → Option Nat
  | creating i _ | undoing i _ => some i
  | uploading _ _ => none

/-- What a command waits for, unless it has ended. -/
def Progress.waiting? : Progress → Option Waiting
  | ended _ => none
  | waiting w => some w

/-- A recorder, and what the command under way waits for. -/
structure Scene where
  recorder : Recorder
  waiting : Option Waiting

/-- What can happen to a recorder. -/
inductive RecorderMove where
  /-- A command is given while none is under way. -/
  | begin (c : RecorderCommand)
  /-- An entry of the agenda happens at an instant. -/
  | occur (k now : Nat)
  /-- The pump that the command waits for has ended. -/
  | conclude
  /-- The command has waited for its pump long enough. -/
  | expire
  /-- The capture device emits a chunk that a pump will read. -/
  | emit (chunk : ByteArray)
  | on (name : String) (handler : Nat)
  | pass (now : Nat)

namespace Scene

def after (out : Recorder × Progress) : Scene := ⟨out.1, out.2.waiting?⟩

/-- A command that waits for the store goes on when its upload is done; else the pump is told. -/
def told (s : Scene) : Option Notice → Scene
  | none => s
  | some (.woke i) => ⟨s.recorder.notice (.woke i), s.waiting⟩
  | some (.finished i result) =>
    match s.waiting with
    | some w =>
      if w.storePlace? = some i then after (s.recorder.resume w result)
      else ⟨s.recorder.notice (.finished i result), s.waiting⟩
    | none => ⟨s.recorder.notice (.finished i result), s.waiting⟩

theorem told_of_waits {r : Recorder} {w : Waiting} {i : Nat} (h : w.storePlace? = some i)
    (result : Except UploadError Outcome) :
    told ⟨r, some w⟩ (some (.finished i result)) = after (r.resume w result) :=
  if_pos h

theorem told_of_free {r : Recorder} {w : Option Waiting} {i : Nat}
    (h : w.bind (·.storePlace?) ≠ some i) (result : Except UploadError Outcome) :
    told ⟨r, w⟩ (some (.finished i result)) = ⟨r.notice (.finished i result), w⟩ := by
  cases w with
  | none => rfl
  | some w => exact if_neg h

/-- Makes a move, if it can be made: the scene after it, and what the store answered. -/
def move? (s : Scene) : RecorderMove → Option (Scene × Option Contact)
  | .begin c => if s.waiting.isNone then some (after (s.recorder.begin c), none) else none
  | .occur k now =>
    (s.recorder.timeline.occur? k now).map fun (contact, timeline, notice) =>
      (told ⟨{ s.recorder with timeline }, s.waiting⟩ notice, contact)
  | .conclude =>
    match s.waiting with
    | some (.uploading i _) =>
      ((s.recorder.pumps[i]?).bind (·.result)).map fun outcome =>
        (after (s.recorder.conclude outcome), none)
    | _ => none
  | .expire =>
    match s.waiting with
    | some (.uploading _ deadline) =>
      some (after ((s.recorder.moveTo deadline).conclude
        (.error (.timeout (.ofMilliseconds s.recorder.config.uploadTimeoutMs)))), none)
    | _ => none
  | .emit chunk =>
    s.recorder.capture.stream.bind fun i =>
      if (s.recorder.pumps[i]?).any (·.running) then
        let r := s.recorder.modifyPump i fun p => { p with queue := p.queue ++ [chunk] }
        some (⟨{ r with timeline := r.timeline.wake i }, s.waiting⟩, none)
      else none
  | .on name handler => some (⟨(s.recorder.on name handler).2, s.waiting⟩, none)
  | .pass now =>
    some (⟨{ s.recorder with timeline := { s.recorder.timeline with now } }, s.waiting⟩, none)

/-- What a move comes to, and what has to be for it. -/
inductive Moves (r : Recorder) : Option Waiting → RecorderMove → Scene → Option Contact → Prop where
  | begin (c : RecorderCommand) : Moves r none (.begin c) (after (r.begin c)) none
  | occur {w : Option Waiting} {k now : Nat} {contact : Option Contact} {t : Timeline}
      {notice : Option Notice} (occurs : r.timeline.occur? k now = some (contact, t, notice)) :
      Moves r w (.occur k now) (told ⟨{ r with timeline := t }, w⟩ notice) contact
  | conclude {i deadline : Nat} {outcome : Except UploadError CompletedUpload}
      (ended : (r.pumps[i]?).bind (·.result) = some outcome) :
      Moves r (some (.uploading i deadline)) .conclude (after (r.conclude outcome)) none
  | expire (i deadline : Nat) :
      Moves r (some (.uploading i deadline)) .expire
        (after ((r.moveTo deadline).conclude
          (.error (.timeout (.ofMilliseconds r.config.uploadTimeoutMs))))) none
  | emit {w : Option Waiting} {i : Nat} (chunk : ByteArray) (opened : r.capture.stream = some i)
      (reads : (r.pumps[i]?).any (·.running) = true) :
      Moves r w (.emit chunk)
        ⟨{ r.modifyPump i fun p => { p with queue := p.queue ++ [chunk] } with
          timeline := r.timeline.wake i }, w⟩ none
  | on {w : Option Waiting} (name : String) (handler : Nat) :
      Moves r w (.on name handler) ⟨(r.on name handler).2, w⟩ none
  | pass {w : Option Waiting} (now : Nat) :
      Moves r w (.pass now) ⟨{ r with timeline := { r.timeline with now } }, w⟩ none

theorem moves_of_move? {r : Recorder} {w : Option Waiting} {m : RecorderMove} {s' : Scene}
    {contact : Option Contact} (h : move? ⟨r, w⟩ m = some (s', contact)) :
    Moves r w m s' contact := by
  cases m with
  | begin c =>
      obtain ⟨hnone, heq⟩ := Option.ite_none_right_eq_some.1 h
      obtain ⟨rfl, rfl⟩ := Prod.mk.inj (Option.some.inj heq)
      obtain rfl : w = none := Option.isNone_iff_eq_none.1 hnone
      exact .begin c
  | occur k now =>
      obtain ⟨⟨contact', t, notice⟩, hoccur, heq⟩ := Option.map_eq_some_iff.1 h
      obtain ⟨rfl, rfl⟩ := Prod.mk.inj heq
      exact .occur hoccur
  | conclude =>
      rw [move?] at h
      split at h
      · next i deadline hwaiting =>
          obtain rfl : w = some _ := hwaiting
          obtain ⟨outcome, hended, heq⟩ := Option.map_eq_some_iff.1 h
          obtain ⟨rfl, rfl⟩ := Prod.mk.inj heq
          exact .conclude hended
      · cases h
  | expire =>
      rw [move?] at h
      split at h
      · next i deadline hwaiting =>
          obtain rfl : w = some _ := hwaiting
          obtain ⟨rfl, rfl⟩ := Prod.mk.inj (Option.some.inj h)
          exact .expire i deadline
      · cases h
  | emit chunk =>
      obtain ⟨i, hstream, heq⟩ := Option.bind_eq_some_iff.1 h
      obtain ⟨hrunning, heq⟩ := Option.ite_none_right_eq_some.1 heq
      obtain ⟨rfl, rfl⟩ := Prod.mk.inj (Option.some.inj heq)
      exact .emit chunk hstream hrunning
  | on name handler =>
      obtain ⟨rfl, rfl⟩ := Prod.mk.inj (Option.some.inj h)
      exact .on name handler
  | pass now =>
      obtain ⟨rfl, rfl⟩ := Prod.mk.inj (Option.some.inj h)
      exact .pass now

/-- The scene after some moves, and all that the store answered. -/
def play (s : Scene) (moves : List RecorderMove) : Option (Scene × List Contact) :=
  playMoves move? s moves

/-- No command is under way, and every pump that was started has ended. -/
def Quiescent (s : Scene) : Prop := s.waiting = none ∧ ∀ p ∈ s.recorder.pumps, p.running = false

instance (s : Scene) : Decidable s.Quiescent :=
  inferInstanceAs (Decidable (s.waiting = none ∧ ∀ p ∈ s.recorder.pumps, p.running = false))

end Scene

/-! ## The capture device -/

namespace Capture

variable {c c' : Capture}

@[simp] theorem stream_call (c : Capture) (name : String) : (c.call name).2.stream = c.stream := by
  unfold call
  dsimp only
  split <;> rfl

theorem stream_install (c : Capture) (preferred : DeviceChoice) :
    (c.install preferred).2.stream = c.stream := by
  have hcall := stream_call c "install"
  unfold install
  split <;> next heq => rw [heq] at hcall; exact hcall

theorem stream_simple (c : Capture) (name : String) : (c.simple name).2.stream = c.stream := by
  have hcall := stream_call c name
  unfold simple
  split <;> next heq => rw [heq] at hcall; exact hcall

/-- A start that fails leaves the stream as it is. -/
theorem stream_of_start_error {i timesliceMs : Nat} {reason : String}
    (h : c.start i timesliceMs = (.error reason, c')) : c'.stream = c.stream := by
  have hcall := stream_call c "start"
  unfold start at h
  split at h
  · next heq =>
      rw [heq] at hcall
      obtain ⟨-, rfl⟩ := Prod.mk.inj h
      exact hcall
  · cases h

theorem stream_started {i timesliceMs : Nat} (h : c.start i timesliceMs = (.ok (), c')) :
    c'.stream = some i := by
  unfold start at h
  split at h
  · cases h
  · obtain ⟨-, rfl⟩ := Prod.mk.inj h
    rfl

/-- So does a stop that fails. -/
theorem stream_of_stop_error {reason : String} (h : c.stop = (.error reason, c')) :
    c'.stream = c.stream := by
  have hcall := stream_call c "stop"
  unfold stop at h
  split at h
  · next heq =>
      rw [heq] at hcall
      obtain ⟨-, rfl⟩ := Prod.mk.inj h
      exact hcall
  · cases h

theorem stream_stopped (h : c.stop = (.ok (), c')) : c'.stream = none := by
  unfold stop at h
  split at h
  · cases h
  · obtain ⟨-, rfl⟩ := Prod.mk.inj h
    rfl

end Capture

/-! ## Berths -/

/-- How far a recording has come: what the command under way waits for, whether the recording's pump
is running, and the stance of its upload. -/
inductive Berth (w : Option Waiting) (i : Nat) : Bool → Stance → Prop where
  | creating {name : String} (waits : w = some (.creating i name)) : Berth w i false .creating
  | undoing {reason : String} (waits : w = some (.undoing i reason)) : Berth w i false .closing
  /-- The pump reads into the upload, which may be over before the pump knows. -/
  | reading {stance : Stance} (free : w.bind (·.storePlace?) ≠ some i)
      (used : stance = .opened ∨ stance = .closing ∨ stance = .past) : Berth w i true stance
  | past {stance : Stance} (free : w.bind (·.storePlace?) ≠ some i)
      (done : stance = .unopened ∨ stance = .past) : Berth w i false stance

/-- A recording of which no command waits for the store is not concerned by what commands do. -/
theorem Berth.change {w w' : Option Waiting} {i : Nat} {running : Bool} {stance : Stance}
    (h : Berth w i running stance) (hold : w.bind (·.storePlace?) ≠ some i)
    (hnew : w'.bind (·.storePlace?) ≠ some i) : Berth w' i running stance := by
  cases h with
  | creating waits => exact absurd (by rw [waits]; rfl) hold
  | undoing waits => exact absurd (by rw [waits]; rfl) hold
  | reading free used => exact .reading hnew used
  | past free done => exact .past hnew done

/-- A command that waits for the store waits before the pump of its recording is started. -/
theorem Berth.still {w : Option Waiting} {i : Nat} {running : Bool} {stance : Stance}
    (h : Berth w i running stance) (hwaits : w.bind (·.storePlace?) = some i) :
    running = false := by
  cases h with
  | reading free used => exact absurd hwaits free
  | _ => rfl

/-- An upload that no command waits for is closed by its pump. -/
theorem Berth.running_of_closing {w : Option Waiting} {i : Nat} {running : Bool}
    (h : Berth w i running .closing) (hfree : w.bind (·.storePlace?) ≠ some i) :
    running = true := by
  cases h with
  | undoing waits => exact absurd (by rw [waits]; rfl) hfree
  | reading free used => rfl
  | past free done => simp at done

/-- A scene in which the ledger is kept and every recording is at its berth. -/
structure Staged (passing : Prop) (w : Option Waiting) (t : Timeline) (pumps : List Pump)
    (stream : Option Nat) (stances : Nat → Stance) (log : List Contact) : Prop where
  ledger : Ledger passing t stances log
  paired : pumps.length = t.uploads.length
  berths : ∀ i p, pumps[i]? = some p → Berth w i p.running (stances i)
  stream : ∀ i, stream = some i → i < t.uploads.length

/-- What a scene has to be for the uploads not to be forgotten. -/
abbrev Scene.Staged (passing : Prop) (s : Scene) (stances : Nat → Stance) (log : List Contact) :
    Prop :=
  StudySession.Staged passing s.waiting s.recorder.timeline s.recorder.pumps
    s.recorder.capture.stream stances log

namespace Staged

variable {passing : Prop} {w w' : Option Waiting} {t t' : Timeline} {pumps : List Pump}
  {stream : Option Nat} {stances : Nat → Stance} {log : List Contact} {i : Nat}

/-- Where no command waits for the store, one may begin or end to wait for a pump. -/
theorem change (h : Staged passing w t pumps stream stances log)
    (hold : w.bind (·.storePlace?) = none) (hnew : w'.bind (·.storePlace?) = none) :
    Staged passing w' t pumps stream stances log :=
  ⟨h.ledger, h.paired, fun i p hp => (h.berths i p hp).change (by simp [hold]) (by simp [hnew]),
    h.stream⟩

theorem with_stream (h : Staged passing w t pumps stream stances log) {stream' : Option Nat}
    (hstream : stream' = stream ∨ stream' = none) :
    Staged passing w t pumps stream' stances log := by
  refine ⟨h.ledger, h.paired, h.berths, fun i hi => ?_⟩
  rcases hstream with rfl | rfl
  · exact h.stream i hi
  · cases hi

/-- What a pump has read or been sent says nothing about its upload. -/
theorem modify (h : Staged passing w t pumps stream stances log) (i : Nat) {f : Pump → Pump}
    (hf : ∀ p, (f p).running = p.running) :
    Staged passing w t (pumps.modify i f) stream stances log := by
  refine ⟨h.ledger, by rw [List.length_modify, h.paired], fun j p hp => ?_, h.stream⟩
  rw [List.getElem?_modify] at hp
  obtain ⟨before, hbefore, rfl⟩ := Option.map_eq_some_iff.1 hp
  have hberth := h.berths j before hbefore
  split
  · rw [hf]
    exact hberth
  · exact hberth

/-- The timeline goes on, and no stance changes. -/
theorem advance (h : Staged passing w t pumps stream stances log) {log' : List Contact}
    (hledger : Ledger passing t' stances log')
    (hlength : t'.uploads.length = t.uploads.length) :
    Staged passing w t' pumps stream stances log' :=
  ⟨hledger, h.paired.trans hlength.symm, h.berths, fun j hj => lt_of_lt_of_eq (h.stream j hj)
    hlength.symm⟩

theorem wake (h : Staged passing w t pumps stream stances log) (hi : i < t.uploads.length) :
    Staged passing w (t.wake i) pumps stream stances log :=
  h.advance (h.ledger.wake hi) rfl

theorem at_instant (h : Staged passing w t pumps stream stances log) (now : Nat) :
    Staged passing w { t with now } pumps stream stances log :=
  h.advance (h.ledger.at_instant now) rfl

/-- One recording goes on, and the others stay at their berths. -/
theorem replace (h : Staged passing w t pumps stream stances log) {after : Stance}
    {log' : List Contact} (hledger : Ledger passing t' (Function.update stances i after) log')
    (hlength : t'.uploads.length = t.uploads.length) {p : Pump}
    (hberth : Berth w i p.running after) :
    Staged passing w t' (pumps.set i p) stream (Function.update stances i after) log' := by
  refine ⟨hledger, by rw [List.length_set, hlength, h.paired], fun j q hq => ?_, fun j hj => ?_⟩
  · rcases eq_or_getElem?_of_set hq with ⟨rfl, rfl⟩ | ⟨hj, hq⟩
    · rw [Function.update_self]
      exact hberth
    · rw [Function.update_of_ne hj]
      exact h.berths j q hq
  · rw [hlength]
    exact h.stream j hj

/-- The store has answered the command that waited for it: the command goes on, with the recording
of which it waited, and the others stay at their berths. -/
theorem resume (h : Staged passing w t pumps stream stances log) (w' : Option Waiting)
    (hwaits : w.bind (·.storePlace?) = some i) {after : Stance} {log' : List Contact}
    (hledger : Ledger passing t' (Function.update stances i after) log')
    (hlength : t'.uploads.length = t.uploads.length)
    (hfree : ∀ j, j ≠ i → w'.bind (·.storePlace?) ≠ some j) {pumps' : List Pump}
    (hcount : pumps'.length = pumps.length) (hpumps : ∀ j, j ≠ i → pumps'[j]? = pumps[j]?)
    (hberth : ∀ p, pumps'[i]? = some p → Berth w' i p.running after) :
    Staged passing w' t' pumps' stream (Function.update stances i after) log' := by
  refine ⟨hledger, by rw [hcount, hlength, h.paired], fun j p hp => ?_, fun j hj => ?_⟩
  · by_cases hj : j = i
    · subst hj
      rw [Function.update_self]
      exact hberth p hp
    · rw [hpumps j hj] at hp
      rw [Function.update_of_ne hj]
      refine (h.berths j p hp).change ?_ (hfree j hj)
      rw [hwaits]
      exact fun heq => hj (Option.some.inj heq).symm
  · rw [hlength]
    exact h.stream j hj

/-- Before its pump is started, the recording is still. -/
theorem still (h : Staged passing w t pumps stream stances log)
    (hwaits : w.bind (·.storePlace?) = some i) {p : Pump} (hp : pumps[i]? = some p) :
    p.running = false :=
  (h.berths i p hp).still hwaits

end Staged

/-! ## Pumps -/

/-- A command that has ended at once changed nothing. -/
theorem Told.eq_of_some {stance after : Stance} {c : Command}
    {result : Except UploadError Outcome} (h : Told stance c after (some result)) :
    after = stance := by
  cases h <;> rfl

/-- An open upload takes a chunk; all else that ends at once is refused by one that is over. -/
theorem Told.past_of_some {stance after : Stance} {c : Command}
    {result : Except UploadError Outcome} (h : Told stance c after (some result))
    (hother : (∀ chunk, c ≠ .accept chunk) ∨ result ≠ .ok .done) : after = .past := by
  cases h with
  | taken =>
      rcases hother with hother | hother
      · exact absurd rfl (hother _)
      · exact absurd rfl hother
  | dismissed => rfl

/-- A command to an open upload that does not end at once may have to end the upload. -/
theorem Told.closing_of_none {stance after : Stance} {c : Command} (h : Told stance c after none)
    (hopen : stance ≠ .unopened) : after = .closing := by
  cases h with
  | created => exact absurd rfl hopen
  | closing => rfl

namespace Recorder

variable {passing : Prop} {w : Option Waiting} {t : Timeline} {stances : Nat → Stance}
  {log : List Contact} {i : Nat}

theorem berth_ended {p : Pump} (hrunning : p.running = true)
    (hfree : w.bind (·.storePlace?) ≠ some i) (result : Except UploadError Outcome) :
    Berth w i (readChunks.ended p result).running .past := by
  unfold readChunks.ended
  split
  · exact .past hfree (.inr rfl)
  · rw [hrunning]
    exact .reading hfree (.inr (.inr rfl))
  · exact .past hfree (.inr rfl)

/-- A pump reads into an upload that is open or past, until that has to wait. -/
theorem berth_readChunks {p : Pump} (hrunning : p.running = true)
    (hfree : w.bind (·.storePlace?) ≠ some i) (h : Ledger passing t stances log)
    (hi : i < t.uploads.length) (hready : stances i = .opened ∨ stances i = .past)
    (chunks : List ByteArray) :
    ∃ after, Ledger passing (readChunks t i p chunks).1 (Function.update stances i after) log ∧
      (readChunks t i p chunks).1.uploads.length = t.uploads.length ∧
      Berth w i (readChunks t i p chunks).2.running after := by
  have hopen : stances i ≠ .unopened := by rcases hready with h | h <;> rw [h] <;> decide
  induction chunks generalizing t stances with
  | nil =>
      rw [readChunks]
      split
      · have hfits : Account.Fits (stances i) .complete := by
          rcases hready with h | h <;> rw [h] <;> simp [Account.Fits]
        obtain ⟨after, htold, hledger, hlength⟩ := h.command hi hfits
        generalize t.command i .complete = out at htold hledger hlength
        obtain ⟨t', result⟩ := out
        refine ⟨after, ?_⟩
        cases result with
        | none =>
            obtain rfl := htold.closing_of_none hopen
            exact ⟨hledger, hlength, by rw [hrunning]; exact .reading hfree (.inr (.inl rfl))⟩
        | some result =>
            obtain rfl := htold.past_of_some (.inl fun chunk heq => by cases heq)
            exact ⟨hledger, hlength, berth_ended hrunning hfree result⟩
      · refine ⟨stances i, by rwa [Function.update_eq_self], rfl, ?_⟩
        rw [hrunning]
        refine .reading hfree ?_
        rcases hready with h | h <;> simp [h]
  | cons chunk rest ih =>
      have hfits : Account.Fits (stances i) (.accept chunk) := by
        rcases hready with h | h <;> rw [h] <;> simp [Account.Fits]
      obtain ⟨after, htold, hledger, hlength⟩ := h.command hi hfits
      rw [readChunks]
      generalize t.command i (.accept chunk) = out at htold hledger hlength
      obtain ⟨t', result⟩ := out
      cases result with
      | none =>
          obtain rfl := htold.closing_of_none hopen
          exact ⟨_, hledger, hlength, by rw [hrunning]; exact .reading hfree (.inr (.inl rfl))⟩
      | some result =>
          cases result with
          | error e =>
              obtain rfl := htold.past_of_some (.inr fun heq => by cases heq)
              exact ⟨_, hledger, hlength, berth_ended hrunning hfree (.error e)⟩
          | ok outcome =>
              obtain rfl := htold.eq_of_some
              rw [Function.update_eq_self] at hledger
              obtain ⟨last, hledger', hlength', hberth⟩ :=
                ih hledger (by rw [hlength]; exact hi) hready hopen
              exact ⟨last, hledger', hlength'.trans hlength, hberth⟩

end Recorder

/-! ## What moves keep -/

namespace Scene

variable {passing : Prop} {r : Recorder} {w : Option Waiting} {stances : Nat → Stance}
  {log : List Contact} {i : Nat}

/-- A pump that is let read leaves its recording at its berth. -/
theorem staged_runPump (h : Staged passing ⟨r, w⟩ stances log) (i : Nat) :
    ∃ stances', Staged passing ⟨r.runPump i, w⟩ stances' log := by
  unfold Recorder.runPump
  split
  · next p upload hpump found =>
      split
      · next hready =>
          obtain ⟨hrunning, hquiet⟩ := hready
          have hi : i < r.timeline.uploads.length := (List.getElem?_eq_some_iff.1 found).1
          have hberth := h.berths i p hpump
          rw [hrunning] at hberth
          obtain ⟨account, -, -⟩ := h.ledger.accounted.inOrder i upload found
          generalize hstance : stances i = stance at hberth account
          cases hberth with
          | reading free used =>
              have hopen : stances i = .opened ∨ stances i = .past := by
                rw [hstance]
                rcases used with rfl | rfl | rfl
                · exact .inl rfl
                · -- an upload that is being closed waits
                  rw [← Option.not_isSome, account.isSome_awaiting (.inr rfl)] at hquiet
                  cases hquiet
                · exact .inr rfl
              obtain ⟨after, hledger, hlength, hafter⟩ :=
                Recorder.berth_readChunks hrunning free h.ledger hi hopen p.queue
              exact ⟨_, h.replace hledger hlength hafter⟩
      · exact ⟨stances, h⟩
  · exact ⟨stances, h⟩

variable {t : Timeline} {log' : List Contact}

/-- Where the upload of a running pump was closed, the pump hears of it. -/
theorem staged_finished (h : Staged passing ⟨r, w⟩ stances log)
    (hledger : Ledger passing t (Function.update stances i .past) log')
    (hlength : t.uploads.length = r.timeline.uploads.length) (hi : i < r.timeline.uploads.length)
    (hclosing : stances i = .closing) (hfree : w.bind (·.storePlace?) ≠ some i)
    (result : Except UploadError Outcome) :
    ∃ stances', Staged passing
      ⟨Recorder.notice { r with timeline := t } (.finished i result), w⟩ stances' log' := by
  have hplace : i < r.pumps.length := lt_of_lt_of_eq hi h.paired.symm
  have hpump : r.pumps[i]? = some r.pumps[i] := List.getElem?_eq_getElem hplace
  have hrunning : r.pumps[i].running = true := by
    have hberth := h.berths i _ hpump
    rw [hclosing] at hberth
    exact hberth.running_of_closing hfree
  have hended := h.replace hledger hlength (Recorder.berth_ended hrunning hfree result)
  unfold Recorder.notice
  dsimp only
  rw [hpump]
  dsimp only
  rw [if_pos hrunning]
  exact staged_runPump (r := { r with timeline := t, pumps := _ }) hended i

/-- The upload of a recording that the capture device does not start is dropped at once. -/
theorem staged_record {name : String} (h : Staged passing ⟨r, some (.creating i name)⟩ stances log)
    (hledger : Ledger passing t (Function.update stances i .opened) log')
    (hlength : t.uploads.length = r.timeline.uploads.length) (hi : i < r.timeline.uploads.length) :
    ∃ stances', Staged passing (after (Recorder.record { r with timeline := t } i name)) stances'
      log' := by
  unfold Recorder.record
  split
  · next reason capture hcapture =>
      have hopened : Function.update stances i Stance.opened i = .opened := Function.update_self ..
      have hfits : Account.Fits (Function.update stances i Stance.opened i) .abort := by
        rw [hopened]
        exact .inr (.inr rfl)
      obtain ⟨last, htold, hdropped, hlength'⟩ := hledger.command (by rw [hlength]; exact hi) hfits
      rw [hopened] at htold
      rw [Function.update_idem] at hdropped
      dsimp only
      generalize t.command i .abort = out at htold hdropped hlength'
      obtain ⟨t', ended⟩ := out
      cases htold with
      | closing =>
          have hundoing := h.resume (some (.undoing i reason)) rfl hdropped
            (hlength'.trans hlength) (fun j hj heq => hj (Option.some.inj heq).symm) rfl
            (fun j hj => rfl) fun p hp => by rw [h.still rfl hp]; exact .undoing rfl
          exact ⟨_, hundoing.with_stream (.inl (Capture.stream_of_start_error hcapture))⟩
  · next capture hcapture =>
      have hreading : ∀ p, (r.pumps.modify i fun p => { p with running := true })[i]? = some p →
          Berth none i p.running .opened := by
        intro p hp
        rw [List.getElem?_modify_eq] at hp
        obtain ⟨before, -, rfl⟩ := Option.map_eq_some_iff.1 hp
        exact .reading (by simp) (.inl rfl)
      obtain ⟨hledger, hpaired, hberths, hstream⟩ := h.resume none rfl hledger hlength
        (fun j hj => by simp) (List.length_modify ..)
        (fun j hj => by simp [Ne.symm hj]) hreading
      refine ⟨_, hledger, hpaired, hberths, fun j hj => ?_⟩
      obtain rfl := Option.some.inj ((Capture.stream_started hcapture).symm.trans hj)
      exact lt_of_lt_of_eq hi hlength.symm

/-- Whatever the owner of a recording is told, the recording stays at its berth. -/
theorem staged_told (h : Staged passing ⟨r, w⟩ stances log) {notice : Option Notice}
    {stances' : Nat → Stance} (hnoted : Noted r.timeline.uploads.length stances notice stances')
    (hledger : Ledger passing t stances' log')
    (hlength : t.uploads.length = r.timeline.uploads.length) :
    ∃ stances', Staged passing (told ⟨{ r with timeline := t }, w⟩ notice) stances' log' := by
  cases hnoted with
  | woke placed =>
      exact staged_runPump (r := { r with timeline := t }) (h.advance hledger hlength) _
  | @dealt i last result placed dealt =>
      have hplace : i < r.pumps.length := lt_of_lt_of_eq placed h.paired.symm
      have hberth := h.berths i _ (List.getElem?_eq_getElem hplace)
      -- a command that ends with its upload goes on without waiting for the store
      have hresumed : ∀ last, Ledger passing t (Function.update stances i last) log' →
          w.bind (·.storePlace?) = some i → (last = .unopened ∨ last = .past) →
          Staged passing ⟨{ r with timeline := t }, none⟩ (Function.update stances i last)
            log' := by
        intro last hledger hwaits hdone
        exact h.resume none hwaits hledger hlength (fun j hj => by simp) rfl
          (fun j hj => rfl) fun p hp => by
            rw [h.still hwaits hp]
            exact .past (by simp) hdone
      generalize hstance : stances i = stance at dealt hberth
      generalize r.pumps[i].running = running at hberth
      cases dealt with
      | waits =>
          rw [← hstance, Function.update_eq_self] at hledger
          exact ⟨stances, h.advance hledger hlength⟩
      | created =>
          cases hberth with
          | creating waits =>
              obtain rfl : w = some _ := waits
              rw [Option.map_some, told_of_waits rfl]
              exact staged_record h hledger hlength placed
          | reading free used => simp at used
          | past free done => simp at done
      | refused =>
          cases hberth with
          | creating waits =>
              obtain rfl : w = some _ := waits
              rw [Option.map_some, told_of_waits rfl]
              exact ⟨_, hresumed _ hledger rfl (.inl rfl)⟩
          | reading free used => simp at used
          | past free done => simp at done
      | closed =>
          cases hberth with
          | undoing waits =>
              obtain rfl : w = some _ := waits
              rw [Option.map_some, told_of_waits rfl]
              exact ⟨_, hresumed _ hledger rfl (.inr rfl)⟩
          | past free done => simp at done
          | reading free used =>
              rw [Option.map_some, told_of_free free]
              exact staged_finished h hledger hlength placed hstance free _

/-! ### Commands -/

/-- What a command does with the recordings when it is given: it leaves them as they are, asks for a
new one, or ends and closes the stream that is open. -/
inductive Begins (r : Recorder) : Scene → Prop where
  | still {r' : Recorder} (timeline : r'.timeline = r.timeline) (pumps : r'.pumps = r.pumps)
      (stream : r'.capture.stream = r.capture.stream) : Begins r ⟨r', none⟩
  | asked (name : String) : Begins r (after (r.start name))
  | closed {r' : Recorder} {w : Option Waiting} (free : w.bind (·.storePlace?) = none)
      (timeline : r'.timeline = (r.endStream r.capture.stream).timeline)
      (pumps : r'.pumps = (r.endStream r.capture.stream).pumps)
      (stream : r'.capture.stream = none) : Begins r ⟨r', w⟩

theorem begins_install (r : Recorder) : Begins r (after r.install) := by
  have hstream := Capture.stream_install r.capture r.devices
  unfold Recorder.install
  split <;> next heq => rw [heq] at hstream; exact .still rfl rfl hstream

theorem begins_pause (r : Recorder) : Begins r (after r.pause) := by
  have hstream := Capture.stream_simple r.capture "pause"
  unfold Recorder.pause
  split <;> next heq => rw [heq] at hstream; exact .still rfl rfl hstream

theorem begins_resumeRecording (r : Recorder) : Begins r (after r.resumeRecording) := by
  have hstream := Capture.stream_simple r.capture "resume"
  unfold Recorder.resumeRecording
  split <;> next heq => rw [heq] at hstream; exact .still rfl rfl hstream

theorem begins_stop (r : Recorder) : Begins r (after r.stop) := by
  unfold Recorder.stop
  split
  · next reason capture hcapture => exact .still rfl rfl (Capture.stream_of_stop_error hcapture)
  · next capture hcapture =>
      have hclosed := Capture.stream_stopped hcapture
      dsimp only
      split <;> exact .closed rfl rfl rfl hclosed

/-- After a stop, the release finds no stream to end. -/
theorem release_of_closed {r : Recorder} (h : r.capture.stream = none) :
    r.release.1.timeline = r.timeline ∧ r.release.1.pumps = r.pumps := by
  rw [Recorder.release, h]
  exact ⟨rfl, rfl⟩

theorem begins_destroy (r : Recorder) : Begins r (after r.destroy) := by
  unfold Recorder.destroy
  split
  · split
    · next reason capture hcapture => exact .still rfl rfl (Capture.stream_of_stop_error hcapture)
    · next capture hcapture =>
        have hclosed := Capture.stream_stopped hcapture
        exact .closed rfl (release_of_closed hclosed).1 (release_of_closed hclosed).2 rfl
  · exact .closed rfl rfl rfl rfl

theorem begins_begin (r : Recorder) (c : RecorderCommand) : Begins r (after (r.begin c)) := by
  unfold Recorder.begin
  split
  · exact begins_install r
  · exact .asked _
  · exact .asked _
  · exact begins_pause r
  · exact begins_resumeRecording r
  · exact begins_stop r
  · exact begins_stop r
  · exact .still rfl rfl rfl
  · exact begins_destroy r
  · exact .still rfl rfl rfl

/-- The upload of a new recording is being created, and nothing reads into it yet. -/
theorem staged_start (h : Staged passing ⟨r, none⟩ stances log) (name : String) :
    ∃ stances', Staged passing (after (r.start name)) stances' log := by
  have hadded := h.ledger.add r.uploadConfig name
  have hplace : r.timeline.uploads.length <
      (r.timeline.add (.new r.uploadConfig name)).uploads.length := by
    rw [Timeline.add, List.length_append]
    exact Nat.lt_succ_self _
  obtain ⟨last, htold, hledger, hlength⟩ :=
    hadded.command (c := .create) hplace (by rw [Function.update_self]; rfl)
  rw [Function.update_self] at htold
  rw [Function.update_idem] at hledger
  obtain rfl : last = .creating := by
    generalize (Timeline.command _ _ _).2 = result at htold
    cases htold with
    | created => rfl
  have hpaired : r.pumps.length = r.timeline.uploads.length := h.paired
  have hcount : ((r.timeline.add (.new r.uploadConfig name)).command r.timeline.uploads.length
      .create).1.uploads.length = r.timeline.uploads.length + 1 := by
    rw [hlength, Timeline.add, List.length_append, List.length_singleton]
  refine ⟨_, hledger, ?_, fun j p hp => ?_, fun j hj => ?_⟩
  · exact (List.length_append ..).trans (by rw [hpaired]; exact hcount.symm)
  · have hp : (r.pumps ++ [.idle])[j]? = some p := hp
    rcases lt_trichotomy j r.timeline.uploads.length with hj | rfl | hj
    · rw [List.getElem?_append_left (by rw [hpaired]; exact hj)] at hp
      rw [Function.update_of_ne (Nat.ne_of_lt hj)]
      refine (h.berths j p hp).change (by simp) fun heq => ?_
      exact Nat.ne_of_lt hj (Option.some.inj heq).symm
    · rw [List.getElem?_append_right (by rw [hpaired]), hpaired, Nat.sub_self] at hp
      obtain rfl := Option.some.inj hp
      rw [Function.update_self]
      exact .creating rfl
    · rw [List.getElem?_eq_none] at hp
      · cases hp
      · rw [List.length_append, List.length_singleton, hpaired]
        exact hj
  · exact lt_of_lt_of_eq (Nat.lt_succ_of_lt (h.stream j hj)) hcount.symm

/-- The stream of a recording may be ended and closed. -/
theorem staged_endStream (h : Staged passing ⟨r, none⟩ stances log) :
    StudySession.Staged passing none (r.endStream r.capture.stream).timeline
      (r.endStream r.capture.stream).pumps none stances log := by
  have hclosed := h.with_stream (.inr rfl)
  have hplace := h.stream
  unfold Recorder.endStream
  split
  · exact hclosed
  · next i hi =>
      exact (hclosed.modify i (f := fun p => { p with ended := true }) fun _ => rfl).wake
        (hplace i hi)

theorem staged_begin (h : Staged passing ⟨r, none⟩ stances log) (c : RecorderCommand) :
    ∃ stances', Staged passing (after (r.begin c)) stances' log := by
  have hbegins := begins_begin r c
  generalize after (r.begin c) = s at hbegins
  cases hbegins with
  | still timeline pumps stream =>
      refine ⟨stances, ?_⟩
      rw [Scene.Staged, timeline, pumps, stream]
      exact h
  | asked name => exact staged_start h name
  | closed free timeline pumps stream =>
      have hended := staged_endStream h
      rw [← timeline, ← pumps, ← stream] at hended
      exact ⟨stances, hended.change rfl free⟩

/-! ### Moves -/

/-- Telling how an upload ended is the end of a command. -/
theorem staged_conclude {w : Option Waiting} (h : Staged passing ⟨r, w⟩ stances log)
    (hwaits : w.bind (·.storePlace?) = none) (outcome : Except UploadError CompletedUpload) :
    Staged passing (after (r.conclude outcome)) stances log := by
  unfold Recorder.conclude
  split <;> exact h.change hwaits rfl

theorem staged_emit {chunk : ByteArray} (h : Staged passing ⟨r, w⟩ stances log)
    (hstream : r.capture.stream = some i) :
    Staged passing
      ⟨{ r.modifyPump i fun p => { p with queue := p.queue ++ [chunk] } with
        timeline := r.timeline.wake i }, w⟩ stances log :=
  (h.modify i (f := fun p => { p with queue := p.queue ++ [chunk] }) fun _ => rfl).wake
    (h.stream i hstream)

/-- Whatever happens to a recorder, every recording stays at its berth. -/
theorem Staged.move {s s' : Scene} (h : Staged passing s stances log) {m : RecorderMove}
    {contact : Option Contact} (hmove : s.move? m = some (s', contact)) :
    ∃ stances', Staged passing s' stances' (log ++ contact.toList) := by
  obtain ⟨r, w⟩ := s
  have hmoves := moves_of_move? hmove
  cases hmoves with
  | occur occurs =>
      obtain ⟨stances', hnoted, hledger, hlength⟩ := h.ledger.occur occurs
      exact staged_told h hnoted hledger hlength
  | begin c =>
      rw [Option.toList_none, List.append_nil]
      exact staged_begin h c
  | conclude ended =>
      rw [Option.toList_none, List.append_nil]
      exact ⟨stances, staged_conclude h rfl _⟩
  | expire i deadline =>
      rw [Option.toList_none, List.append_nil]
      exact ⟨stances, staged_conclude (r := r.moveTo deadline) (h.at_instant _) rfl _⟩
  | emit chunk opened reads =>
      rw [Option.toList_none, List.append_nil]
      exact ⟨stances, staged_emit h opened⟩
  | on name handler =>
      rw [Option.toList_none, List.append_nil, Recorder.on]
      refine ⟨stances, ?_⟩
      split <;> exact h
  | pass now =>
      rw [Option.toList_none, List.append_nil]
      exact ⟨stances, h.at_instant now⟩

/-- So they do in every play. -/
theorem Staged.play {s s' : Scene} (h : Staged passing s stances log) {moves : List RecorderMove}
    {later : List Contact} (hplay : s.play moves = some (s', later)) :
    ∃ stances', Staged passing s' stances' (log ++ later) := by
  refine kept_of_playMoves (P := fun s log => ∃ stances, Staged passing s stances log) ?_
    ⟨stances, h⟩ hplay
  rintro s m s' contact log ⟨stances, h⟩ hmove
  exact h.move hmove

/-- Once no command waits and no pump runs, no upload is open. -/
theorem Staged.settled {s : Scene} (h : Staged passing s stances log) (hquiescent : s.Quiescent) :
    Accounted.Settled s.recorder.timeline stances := by
  intro i hi
  obtain ⟨hwaiting, hpumps⟩ := hquiescent
  have hplace : i < s.recorder.pumps.length := lt_of_lt_of_eq hi h.paired.symm
  have hberth := h.berths i _ (List.getElem?_eq_getElem hplace)
  rw [hwaiting, hpumps _ (List.getElem_mem hplace)] at hberth
  generalize stances i = stance at hberth
  cases hberth with
  | creating waits => cases waits
  | undoing waits => cases waits
  | past free done => exact done

/-- A recorder that nothing has happened to yet, with its capture device and the store's script. -/
def opening (config : RecorderConfig) (uploadConfig : UploadConfig)
    (script : Dict (List ScriptedCall)) (available : DeviceChoice)
    (failures : Dict (List (Option String))) (preferred : DeviceChoice) (origin : Timestamp) :
    Scene :=
  ⟨.new config uploadConfig (.new script) ⟨available, failures, [], none⟩ preferred origin, none⟩

end Scene

end StudySession

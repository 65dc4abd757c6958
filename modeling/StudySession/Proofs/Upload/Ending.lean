import StudySession.Proofs.Upload.Stages

/-!
# How uploads end

Whatever the store answers, an upload ends once. It is completed by one command from the parts that
were acknowledged, or it fails, is dropped on the store once, and from then on refuses every command
with the same error. Neither end is followed by a call.
-/

namespace StudySession

namespace Traffic

/-- A command ends in a completed upload. -/
def Completing (o : Happening) : Prop := ∃ c, Effect.finished (.ok (.completed c)) ∈ o.effects

/-- An upload asks the store to complete it from some parts. -/
structure Completes (w : Traffic) (trace : List Happening) (id : String)
    (listed : List CompletedPart) : Prop where
  phase : w.upload.session.phase = .opened id
  /-- The command to complete the upload is under way. -/
  told : lastCommand? trace = some .complete
  awaiting : w.upload.awaiting.isSome = true
  nonempty : 1 ≤ (bodiesFlushed trace).length
  count : w.upload.session.parts.length = (bodiesFlushed trace).length
  listed_length : listed.length = (bodiesFlushed trace).length
  /-- Each part that was flushed is acknowledged, and listed with its tag. -/
  acknowledged : ∀ i < (bodiesFlushed trace).length, ∃ tag,
    (∃ bytes, w.upload.session.parts[i]? = some ⟨i + 1, bytes, .acknowledged tag⟩) ∧
      listed[i]? = some ⟨i + 1, tag⟩ ∧ Acknowledged trace (i + 1) tag

/-- A failed upload answers every further command with its error and makes no call, but for the one
that a command to abort it waits for. -/
structure Refuses (error : UploadError) (w : Traffic) (later : List Happening) (w' : Traffic) :
    Prop where
  phase : w'.upload.session.phase = .failed error
  snapshot : w'.upload.session.snapshot = .error error
  awaiting : w'.upload.awaiting = none ∨ w'.upload.awaiting = w.upload.awaiting
  told : ∀ c effects, .told c effects ∈ later → effects = [.finished (Upload.refusal error c)]
  called : ∀ call ∈ callsMade later, ∃ attempt,
    w.upload.awaiting = some (.store .aborting call attempt)

/-- An upload ends once. -/
structure EndsOnce (w : Traffic) (trace : List Happening) : Prop where
  completes : ∀ o w' who key id listed, Step w o w' →
    o.made? = some (who, .complete key id listed) →
    who = .owner ∧ key = w.upload.session.key ∧ Completes w trace id listed
  refuses : ∀ error, w.upload.session.phase = .failed error →
    ∀ later w', Run w later w' → Refuses error w later w'
  /-- The upload is dropped by the command with which it fails. -/
  drops : ∀ o w' who key id, Step w o w' → o.made? = some (who, .abort key id) →
    who = .owner ∧ ∃ error purpose attempt, Drops w.upload.session error purpose ∧
      w.upload.awaiting = some (.store purpose (.abort key id) attempt)
  /-- It has failed, with the error it was dropped for, once that command ends. -/
  fails : ∀ error call attempt, w.upload.awaiting = some (.store (.failing error) call attempt) →
    ∀ later w', Run w later w' → w'.upload.awaiting = none →
    w'.upload.session.phase = .failed error
  /-- The store is told to drop it once, and by the end of the command that fails it. -/
  droppedOnce : (abortsMade trace).length ≤ 1
  dropped_iff : w.upload.awaiting = none →
    ((abortsMade trace).length = 1 ↔ ∃ error, w.upload.session.phase = .failed error)
  /-- An upload that was completed is never dropped. -/
  kept : (∃ o ∈ trace, Completing o) → abortsMade trace = []
  /-- Nothing is called once it is completed. -/
  completed : ∀ before o after, trace = before ++ o :: after → Completing o → callsMade after = []

variable {size : Nat} {id : String} {w w' : Traffic} {trace later : List Happening} {o : Happening}
  {error : UploadError}

/-! ## The calls that are made -/

/-- The calls that an upload makes on the store. -/
inductive Makes (w : Traffic) (trace : List Happening) : Caller → StoreCall → Prop where
  | creating {key contentType : String} : Makes w trace .owner (.create key contentType)
  | sending {who : Caller} {key id : String} {number : Nat} {body : ByteArray} :
      Makes w trace who (.part key id number body)
  | completing {id : String} {listed : List CompletedPart} (completes : Completes w trace id listed) :
      Makes w trace .owner (.complete w.upload.session.key id listed)
  | dropping {error : UploadError} {purpose : Purpose} {key id : String} {attempt : Nat}
      (drops : Drops w.upload.session error purpose)
      (awaiting : w.upload.awaiting = some (.store purpose (.abort key id) attempt)) :
      Makes w trace .owner (.abort key id)

/-- An upload is completed from the parts that were acknowledged. -/
theorem Opened.completes (h : Opened size id w trace) {listed : List CompletedPart} {total : Nat}
    (hsealed : Sealed size w.upload.session trace)
    (hacked : Session.acknowledged 1 w.upload.session.parts = .ok (listed, total))
    (hnonempty : listed ≠ []) (hawaiting : w.upload.awaiting.isSome = true) :
    Completes w trace id listed := by
  obtain ⟨hparts, -, -⟩ := Session.forall₂_of_acknowledged hacked
  have hlength : listed.length = (bodiesFlushed trace).length := by
    rw [← hparts.length_eq, h.books.count]
  refine
    { phase := h.books.phase
      told := hsealed.told
      awaiting := hawaiting
      nonempty := by rw [← hlength]; exact List.length_pos_iff.2 hnonempty
      count := h.books.count
      listed_length := hlength
      acknowledged := fun i hi => ?_ }
  have hp : i < w.upload.session.parts.length := by rwa [h.books.count]
  have hl : i < listed.length := by rwa [hlength]
  have hstate : w.upload.session.parts[i].state = .acknowledged listed[i].eTag :=
    ((List.forall₂_iff_get.1 hparts).2 i hp hl).2
  obtain ⟨hnumber, -, -⟩ := h.books.part i _ (List.getElem?_eq_getElem hp)
  obtain ⟨hlisted, hack⟩ := h.books.listed hacked (List.getElem?_eq_getElem hl)
  refine ⟨listed[i].eTag, ⟨w.upload.session.parts[i].size, ?_⟩, ?_, hack⟩
  · rw [List.getElem?_eq_getElem hp, ← hnumber, ← hstate]
  · rw [List.getElem?_eq_getElem hl, ← hlisted]

/-- What the command under way asks of the store, and what it is for. -/
inductive Asks (size : Nat) (w : Traffic) (trace : List Happening) : Purpose → StoreCall → Prop where
  | creating : Asks size w trace .creating (.create w.upload.session.key videoContentType)
  | sending {id : String} {number bytes : Nat} {body : ByteArray} :
      Asks size w trace (.sending number bytes) (.part w.upload.session.key id number body)
  | completing {id : String} {listed : List CompletedPart} {total : Nat}
      (opened : Opened size id w trace) (completes : Completes w trace id listed) :
      Asks size w trace (.completing id listed total)
        (.complete w.upload.session.key id listed)
  | dropping {error : UploadError} {purpose : Purpose} {key id : String}
      (drops : Drops w.upload.session error purpose) (quiet : w.upload.session.tasks = []) :
      Asks size w trace purpose (.abort key id)

/-- A command that waits for the store has one call in the air. -/
theorem Stage.asks (h : Stage size w trace) {purpose : Purpose} {asked : StoreCall} {attempt : Nat}
    (hawaiting : w.upload.awaiting = some (.store purpose asked attempt)) :
    Asks size w trace purpose asked ∧ ∃ answer, w.flying .owner = some ⟨asked, answer⟩ := by
  have hwaits : w.upload.awaiting.isSome = true := by rw [hawaiting]; rfl
  cases h with
  | fresh unopened idle => rw [idle] at hawaiting; cases hawaiting
  | creating unopened told awaiting flying =>
      rw [awaiting] at hawaiting
      cases hawaiting
      exact ⟨.creating, _, flying⟩
  | live opened busy =>
      cases busy with
      | resting idle gathered => rw [idle] at hawaiting; cases hawaiting
      | sending awaiting flying gathered =>
          rw [awaiting] at hawaiting
          cases hawaiting
          exact ⟨.sending, _, flying⟩
      | joining waits sealed => rw [waits] at hawaiting; cases hawaiting
      | completing quiet acked nonempty awaiting flying sealed =>
          have hcompletes := opened.completes sealed acked nonempty hwaits
          rw [awaiting] at hawaiting
          cases hawaiting
          exact ⟨.completing opened hcompletes, _, flying⟩
  | dropping drops quiet awaiting flying aborted =>
      rw [awaiting] at hawaiting
      cases hawaiting
      exact ⟨.dropping drops quiet, _, flying⟩
  | failed phase quiet idle aborted => rw [idle] at hawaiting; cases hawaiting
  | completed phase healthy quiet idle unaborted => rw [idle] at hawaiting; cases hawaiting

theorem Stage.makes (h : Stage size w trace) (hstep : Step w o w') {who : Caller} {call : StoreCall}
    (hmade : o.made? = some (who, call)) : Makes w trace who call := by
  cases hstep.moved with
  | told idle begun => cases hmade
  | ownerAnswered awaiting flying told => cases hmade
  | partAnswered onWay told => cases hmade
  | partDied onWay dropped => cases hmade
  | ownerReached awaiting flying =>
      obtain ⟨rfl, rfl⟩ := Prod.mk.inj (Option.some.inj hmade)
      obtain ⟨hasks, answer, hsent⟩ := h.asks awaiting
      rw [hsent] at flying
      obtain ⟨rfl, -⟩ := Flight.mk.inj (Option.some.inj flying)
      cases hasks with
      | creating => exact .creating
      | sending => exact .sending
      | completing opened completes => exact .completing completes
      | dropping drops quiet => exact .dropping drops awaiting
  | @partReached task call answer onWay flying =>
      obtain ⟨rfl, rfl⟩ := Prod.mk.inj (Option.some.inj hmade)
      -- a task's call is that of a part
      obtain ⟨id, hopened⟩ := h.opened_of_onWay onWay
      obtain rfl : call = task.call := hopened.carried task onWay _ flying
      rw [(hopened.books.task task onWay).1]
      exact .sending

/-! ## Failed uploads -/

/-- An upload that is given up: it has failed, or will have once the store was told to drop it. -/
inductive GivenUp (error : UploadError) (w : Traffic) : Prop where
  | dropping {purpose : Purpose} {key id : String} {attempt : Nat}
      {answer : Option (Except StoreError String)} (drops : Drops w.upload.session error purpose)
      (quiet : w.upload.session.tasks = [])
      (awaiting : w.upload.awaiting = some (.store purpose (.abort key id) attempt))
      (flying : w.flying .owner = some ⟨.abort key id, answer⟩)
  | failed (phase : w.upload.session.phase = .failed error) (quiet : w.upload.session.tasks = [])
      (awaiting : w.upload.awaiting = none)

theorem Stage.givenUp_of_failed (h : Stage size w trace)
    (hphase : w.upload.session.phase = .failed error) : GivenUp error w := by
  cases h with
  | fresh unopened idle => rw [unopened.untouched.phase] at hphase; cases hphase
  | creating unopened told asked created => rw [unopened.untouched.phase] at hphase; cases hphase
  | live opened busy => rw [opened.books.phase] at hphase; cases hphase
  | dropping drops quiet asked sent aborted =>
      cases drops with
      | failing phase => rw [phase] at hphase; cases hphase
      | aborting phase =>
          rw [phase] at hphase
          obtain rfl := Phase.failed.inj hphase
          exact .dropping (.aborting phase) quiet asked sent
  | failed phase quiet idle aborted =>
      rw [phase] at hphase
      obtain rfl := Phase.failed.inj hphase
      exact .failed phase quiet idle
  | completed phase healthy quiet idle unaborted => rw [phase] at hphase; cases hphase

theorem Stage.givenUp_of_failing (h : Stage size w trace) {call : StoreCall} {attempt : Nat}
    (hawaiting : w.upload.awaiting = some (.store (.failing error) call attempt)) :
    GivenUp error w := by
  obtain ⟨hasks, answer, hflying⟩ := h.asks hawaiting
  cases hasks with
  | dropping drops quiet =>
      cases drops with
      | failing phase => exact .dropping (.failing phase) quiet hawaiting hflying

/-- What can still happen to an upload that is given up. -/
inductive Winds (error : UploadError) (w : Traffic) : Happening → Traffic → Prop where
  | refused {c : Command} (phase : w.upload.session.phase = .failed error) :
      Winds error w (.told c [.finished (Upload.refusal error c)])
        ⟨⟨w.upload.session, none⟩, w.flying⟩
  | reached {purpose : Purpose} {call : StoreCall} {attempt : Nat}
      {answer : Except StoreError String} {flying : Caller → Option Flight}
      (drops : Drops w.upload.session error purpose)
      (awaiting : w.upload.awaiting = some (.store purpose call attempt)) :
      Winds error w (.reached .owner call answer) ⟨w.upload, flying⟩
  | answered {call : StoreCall} {answer : Except StoreError String} {s : Session}
      {effects : List Effect} {flying : Caller → Option Flight} (phase : s.phase = .failed error) :
      Winds error w (.answered .owner call answer effects) ⟨⟨s, none⟩, flying⟩

theorem GivenUp.winds (h : GivenUp error w) (hstep : Step w o w') :
    Winds error w o w' ∧ GivenUp error w' := by
  cases h with
  | dropping drops quiet asked sent =>
      cases hstep.moved with
      | told idle begun => rw [asked] at idle; cases idle
      | ownerReached awaiting flying =>
          rw [sent] at flying
          obtain ⟨rfl, -⟩ := Flight.mk.inj (Option.some.inj flying)
          exact ⟨.reached drops asked, .dropping drops quiet asked (Transfer.update_owner w.flying _)⟩
      | @ownerAnswered purpose call _ attempt answer result awaiting flying told =>
          rw [asked] at awaiting
          obtain ⟨rfl, rfl, rfl⟩ := Await.store.inj (Option.some.inj awaiting)
          -- the store is told to drop it once, and what it answers makes no difference
          cases told with
          | again retried pause => cases drops <;> cases retried
          | concluded last =>
              cases drops with
              | failing phase => exact ⟨.answered rfl, .failed rfl quiet rfl⟩
              | aborting phase =>
                  cases answer with
                  | ok tag => exact ⟨.answered phase, .failed phase quiet rfl⟩
                  | error e => exact ⟨.answered phase, .failed phase quiet rfl⟩
      | partReached onWay flying => exact absurd onWay (not_onWay_of_quiet quiet)
      | partAnswered onWay told => exact absurd onWay (not_onWay_of_quiet quiet)
      | partDied onWay dropped => exact absurd onWay (not_onWay_of_quiet quiet)
  | failed phase quiet idle =>
      obtain ⟨c, u, effects, rfl, rfl, begun⟩ := hstep.moved.told_of_idle quiet idle
      rw [Upload.begin_of_failed phase] at begun
      obtain ⟨rfl, rfl⟩ := Prod.mk.inj begun
      exact ⟨.refused phase, .failed phase quiet rfl⟩

theorem GivenUp.run (h : GivenUp error w) (hrun : Run w later w') : GivenUp error w' := by
  induction hrun with
  | start => exact h
  | step sofar step ih => exact (ih.winds step).2

/-- At rest, an upload that is given up has failed. -/
theorem GivenUp.failed_of_idle (h : GivenUp error w) (hidle : w.upload.awaiting = none) :
    w.upload.session.phase = .failed error := by
  cases h with
  | dropping drops quiet asked sent => rw [asked] at hidle; cases hidle
  | failed phase quiet idle => exact phase

theorem Refuses.step (h : Refuses error w later w') {w'' : Traffic} (hgiven : GivenUp error w')
    (hstep : Step w' o w'') : Refuses error w (later ++ [o]) w'' := by
  have hsnapshot : ∀ u : Upload, u.session.phase = .failed error →
      u.session.snapshot = .error error := by
    intro u hphase
    rw [Session.snapshot, Session.openId, hphase]
    rfl
  obtain ⟨hwinds, -⟩ := hgiven.winds hstep
  cases hwinds with
  | refused phase =>
      refine ⟨phase, hsnapshot _ phase, .inl rfl, ?_, ?_⟩
      · intro c effects hmem
        rcases List.mem_append.1 hmem with hmem | hmem
        · exact h.told c effects hmem
        · cases List.mem_singleton.1 hmem
          rfl
      · rw [callsMade_snoc_of_none rfl]
        exact h.called
  | @reached purpose call attempt answer flying drops awaiting =>
      refine ⟨h.phase, h.snapshot, h.awaiting, ?_, ?_⟩
      · intro c effects hmem
        exact h.told c effects (by simpa using hmem)
      · intro other hmem
        rw [callsMade_append] at hmem
        rcases List.mem_append.1 hmem with hmem | hmem
        · exact h.called other hmem
        · obtain rfl : other = call := by simpa [callsMade, Happening.made?] using hmem
          -- a command to abort is still under way, the same as before
          have hwaiting : w'.upload.awaiting = w.upload.awaiting := by
            rcases h.awaiting with hnone | hsame
            · rw [hnone] at awaiting
              cases awaiting
            · exact hsame
          cases drops with
          | failing phase => rw [h.phase] at phase; cases phase
          | aborting phase => exact ⟨attempt, hwaiting ▸ awaiting⟩
  | answered phase =>
      refine ⟨phase, hsnapshot _ phase, .inl rfl, ?_, ?_⟩
      · intro c effects hmem
        exact h.told c effects (by simpa using hmem)
      · rw [callsMade_snoc_of_none rfl]
        exact h.called

theorem GivenUp.refuses (h : GivenUp error w) (hphase : w.upload.session.phase = .failed error)
    (hrun : Run w later w') : Refuses error w later w' := by
  induction hrun with
  | start =>
      refine ⟨hphase, ?_, .inr rfl, by simp, by simp⟩
      rw [Session.snapshot, Session.openId, hphase]
      rfl
  | step sofar step ih => exact ih.step (h.run sofar) step

/-! ## Completed uploads -/

/-- A completed upload, all of whose parts were acknowledged. -/
structure Done (w : Traffic) : Prop where
  phase : w.upload.session.phase = .completed
  healthy : w.upload.session.lostPart? = none
  quiet : w.upload.session.tasks = []
  awaiting : w.upload.awaiting = none

theorem Done.step (h : Done w) (hstep : Step w o w') : Done w' ∧ o.made? = none := by
  obtain ⟨c, u, effects, rfl, rfl, begun⟩ := hstep.moved.told_of_idle h.quiet h.awaiting
  rw [Upload.begin_of_completed h.phase h.healthy] at begun
  obtain ⟨rfl, rfl⟩ := Prod.mk.inj begun
  exact ⟨⟨h.phase, h.healthy, h.quiet, rfl⟩, rfl⟩

theorem Done.run (h : Done w) (hrun : Run w later w') : Done w' ∧ callsMade later = [] := by
  induction hrun with
  | start => exact ⟨h, rfl⟩
  | step sofar step ih =>
      obtain ⟨hdone, hcalls⟩ := ih
      obtain ⟨hdone', hmade⟩ := hdone.step step
      exact ⟨hdone', by rw [callsMade_snoc_of_none hmade, hcalls]⟩

theorem Step.completed_of_completing (hstep : Step w o w') (hdone : Completing o) :
    w'.upload.session.phase = .completed := by
  obtain ⟨c, hdone⟩ := hdone
  cases hstep with
  | tell idle react =>
      obtain ⟨id, listed, total, call, attempt, tag, hevent, -⟩ := Upload.react_completed react hdone
      cases hevent
  | reach expected flying => cases hdone
  | answer expected flying react =>
      obtain ⟨id, listed, total, call, attempt, tag, -, -, -, rfl⟩ :=
        Upload.react_completed react hdone
      rfl
  | die expected react =>
      obtain ⟨id, listed, total, call, attempt, tag, hevent, -⟩ := Upload.react_completed react hdone
      cases hevent

theorem Stage.done_of_completed (h : Stage size w trace)
    (hphase : w.upload.session.phase = .completed) : Done w ∧ abortsMade trace = [] := by
  cases h with
  | fresh unopened idle => rw [unopened.untouched.phase] at hphase; cases hphase
  | creating unopened told asked created => rw [unopened.untouched.phase] at hphase; cases hphase
  | live opened busy => rw [opened.books.phase] at hphase; cases hphase
  | dropping drops quiet asked sent aborted =>
      cases drops with
      | failing phase => rw [phase] at hphase; cases hphase
      | aborting phase => rw [phase] at hphase; cases hphase
  | failed phase quiet idle aborted => rw [phase] at hphase; cases hphase
  | completed phase healthy quiet idle unaborted => exact ⟨⟨phase, healthy, quiet, idle⟩, unaborted⟩

/-- Where a command completed the upload, it was not dropped before and nothing is called after. -/
theorem calls_of_completing {config : UploadConfig} {name : String} {before after : List Happening}
    (hrun : Run (start config name) (before ++ o :: after) w) (hdone : Completing o) :
    abortsMade (before ++ [o]) = [] ∧ callsMade after = [] := by
  obtain ⟨w₁, w₂, hbefore, hstep, hafter⟩ := hrun.split_cons
  have hstage := stage_of_run (hbefore.step hstep)
  obtain ⟨hend, hkept⟩ := hstage.done_of_completed (hstep.completed_of_completing hdone)
  exact ⟨hkept, (hend.run hafter).2⟩

/-! ## Aborts -/

theorem Stage.abortsMade_length_le (h : Stage size w trace) : (abortsMade trace).length ≤ 1 := by
  cases h with
  | fresh unopened idle => simp [unopened.unaborted]
  | creating unopened told asked created => simp [unopened.unaborted]
  | live opened busy => simp [opened.unaborted]
  | dropping drops quiet asked sent aborted =>
      rw [aborted]
      split <;> omega
  | failed phase quiet idle aborted => omega
  | completed phase healthy quiet idle unaborted => simp [unaborted]

/-- At rest, the upload was dropped where it has failed. -/
theorem Stage.abortsMade_iff (h : Stage size w trace) (hidle : w.upload.awaiting = none) :
    (abortsMade trace).length = 1 ↔ ∃ error, w.upload.session.phase = .failed error := by
  cases h with
  | fresh unopened idle => simp [unopened.unaborted, unopened.untouched.phase]
  | creating unopened told asked created => rw [asked] at hidle; cases hidle
  | live opened busy => simp [opened.unaborted, opened.books.phase]
  | dropping drops quiet asked sent aborted => rw [asked] at hidle; cases hidle
  | failed phase quiet idle aborted => simp [aborted, phase]
  | completed phase healthy quiet idle unaborted => simp [unaborted, phase]

/-- However a run goes, an upload ends once. -/
theorem ends_once_of_run (config : UploadConfig) (name : String)
    (hrun : Run (start config name) trace w) : EndsOnce w trace := by
  have hstage := stage_of_run hrun
  refine
    { completes := ?_, refuses := ?_, drops := ?_, fails := ?_
      droppedOnce := hstage.abortsMade_length_le
      dropped_iff := hstage.abortsMade_iff
      kept := ?_, completed := ?_ }
  · intro o w' who key id listed hstep hmade
    cases hstage.makes hstep hmade with
    | completing completes => exact ⟨rfl, rfl, completes⟩
  · intro error hphase later w' hlater
    exact (hstage.givenUp_of_failed hphase).refuses hphase hlater
  · intro o w' who key id hstep hmade
    cases hstage.makes hstep hmade with
    | dropping drops awaiting => exact ⟨rfl, _, _, _, drops, awaiting⟩
  · intro error call attempt hawaiting later w' hlater hidle
    exact ((hstage.givenUp_of_failing hawaiting).run hlater).failed_of_idle hidle
  · rintro ⟨o, hmem, hdone⟩
    obtain ⟨before, after, rfl⟩ := List.append_of_mem hmem
    obtain ⟨hkept, hafter⟩ := calls_of_completing hrun hdone
    rw [List.append_cons, abortsMade_append, hkept, abortsMade, hafter]
    rfl
  · rintro before o after rfl hdone
    exact (calls_of_completing hrun hdone).2

/-- One part is lost. The next chunk notices, and the upload is given up; what is told after that
is refused. -/
def lostPart : List Transfer.Move :=
  [.tell .create, .reach .owner, .answer .owner, .tell (.accept ⟨#[1]⟩),
    .fail (.part 1) (.transient "busy"), .answer (.part 1), .tell (.accept ⟨#[2]⟩),
    .reach .owner, .answer .owner, .tell .complete, .tell .abort]

theorem ends_once_of_run_lost_part :
    ∃ trace w,
      (Transfer.start { partSizeBytes := 1, maxAttempts := 1 } "v" .empty).play lostPart =
        some (trace, w) ∧
      w.upload.session.phase = .failed (.fatal 1 1 (.refused (.transient "busy"))) ∧
      EndsOnce w.traffic (trace.map Happening.seen) := by
  obtain ⟨⟨trace, w⟩, hplay⟩ : ∃ r,
      (Transfer.start { partSizeBytes := 1, maxAttempts := 1 } "v" .empty).play lostPart = some r :=
    Option.isSome_iff_exists.1 rfl
  have hphase : ((Transfer.start { partSizeBytes := 1, maxAttempts := 1 } "v" .empty).play
      lostPart).map (fun r => r.2.upload.session.phase) =
      some (.failed (.fatal 1 1 (.refused (.transient "busy")))) := rfl
  rw [hplay] at hphase
  have hrun := (Transfer.run_iff_exists_play.2 ⟨_, hplay⟩).traffic
  exact ⟨trace, w, hplay, Option.some.inj hphase,
    ends_once_of_run { partSizeBytes := 1, maxAttempts := 1 } "v" hrun⟩

end Traffic

end StudySession

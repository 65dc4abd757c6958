import StudySession.Proofs.Upload.Ending
import StudySession.Proofs.Upload.Identity

/-!
# Uploads that are dropped

A command to abort an open upload asks the store to drop it once, by its id, and answers what the
store answers (`Traffic.Aborting`). An upload that was open and is told to abort again makes no
call. That it answers well still means that the store has nothing left of the upload, or has refused
to drop it: either the completion was accepted, or the one call to drop it was made before.
-/

namespace StudySession

namespace Traffic

/-! ## What is read from a run -/

/-- The calls that the store accepted, in order. -/
def callsAccepted (trace : List Happening) : List StoreCall :=
  trace.filterMap fun
    | .reached _ call (.ok _) => some call
    | _ => none

/-- The calls that the store refused, in order. -/
def callsRefused (trace : List Happening) : List StoreCall :=
  trace.filterMap fun
    | .reached _ call (.error _) => some call
    | _ => none

/-- The ids with which commands found the upload open. -/
def idsOpened (trace : List Happening) : List String :=
  trace.flatMap fun o => o.effects.filterMap fun
    | .finished (.ok (.opened snapshot)) => some snapshot.uploadId
    | _ => none

/-- The latest command is to abort the upload, and now ends well. -/
def AbortSucceeds (trace : List Happening) (o : Happening) : Prop :=
  Effect.finished (.ok .done) ∈ o.effects ∧ lastCommand? (trace ++ [o]) = some .abort

/-- The store has nothing left of an upload that was created: it was completed or dropped. -/
def Discarded (key : String) (trace : List Happening) (id : String) : Prop :=
  .abort key id ∈ callsAccepted trace ∨ ∃ listed, .complete key id listed ∈ callsAccepted trace

/-- What a command to abort answers, by what the store does. -/
def verdict : Except StoreError String → Except UploadError Outcome
  | .ok _ => .ok .done
  | .error e => .error (.abortFailed e)

/-- What happens after an open upload was told to abort: its call is made once, the command ends
with what the store answers, and no call follows. -/
inductive Aborting (call : StoreCall) : List Happening → Prop where
  | asked : Aborting call []
  | reached {answer : Except StoreError String} : Aborting call [.reached .owner call answer]
  | answered {answer : Except StoreError String} {later : List Happening}
      (quiet : callsMade later = []) :
      Aborting call
        (.reached .owner call answer ::
          .answered .owner call answer [.finished (verdict answer)] :: later)

/-- What commands to abort an upload come to. -/
structure Discards (key : String) (w : Traffic) (trace : List Happening) : Prop where
  /-- An open upload asks the store to drop it. -/
  asks : ∀ id effects w', w.upload.session.phase = .opened id → Step w (.told .abort effects) w' →
    effects = [.call .owner ⟨0⟩ (.abort key id)] ∧
      ∀ later w'', Run w' later w'' → Aborting (.abort key id) later
  /-- Where a command to abort ends well, the store has nothing left of the upload, or has refused
  to drop it. -/
  discarded : ∀ id o w', id ∈ idsOpened trace → Step w o w' → AbortSucceeds trace o →
    Discarded key trace id ∨ .abort key id ∈ callsRefused trace

variable {key : String} {given : Option String} {size : Nat} {id : String} {w w' : Traffic}
  {trace later : List Happening} {o : Happening} {call : StoreCall}

theorem callsAccepted_snoc :
    callsAccepted (trace ++ [o]) = callsAccepted trace ++ callsAccepted [o] := by
  simp [callsAccepted]

theorem callsRefused_snoc :
    callsRefused (trace ++ [o]) = callsRefused trace ++ callsRefused [o] := by
  simp [callsRefused]

theorem idsOpened_snoc : idsOpened (trace ++ [o]) = idsOpened trace ++ idsOpened [o] := by
  simp [idsOpened]

theorem mem_idsOpened : id ∈ idsOpened [o] ↔
    ∃ snapshot, Effect.finished (.ok (.opened snapshot)) ∈ o.effects ∧ snapshot.uploadId = id := by
  rw [idsOpened, List.flatMap_singleton, List.mem_filterMap]
  constructor
  · rintro ⟨effect, hmem, hid⟩
    split at hid
    · exact ⟨_, hmem, Option.some.inj hid⟩
    · cases hid
  · rintro ⟨snapshot, hmem, rfl⟩
    exact ⟨_, hmem, rfl⟩

theorem exists_made_of_mem_callsMade (h : call ∈ callsMade [o]) :
    ∃ who, o.made? = some (who, call) := by
  obtain ⟨⟨who, made⟩, hmem, rfl⟩ := List.mem_map.1 h
  obtain ⟨o', ho', hmade⟩ := List.mem_filterMap.1 hmem
  obtain rfl := List.mem_singleton.1 ho'
  exact ⟨who, hmade⟩

/-- A call that is made is accepted or refused. -/
theorem accepted_or_refused (hstep : Step w o w') {who : Caller}
    (hmade : o.made? = some (who, call)) :
    call ∈ callsAccepted [o] ∨ call ∈ callsRefused [o] := by
  cases hstep with
  | @reach _ made answer expected flying =>
      obtain ⟨rfl, rfl⟩ := Prod.mk.inj (Option.some.inj hmade)
      cases answer with
      | ok tag => exact .inl (by simp [callsAccepted])
      | error e => exact .inr (by simp [callsRefused])
  | _ => cases hmade

/-! ## After a command to abort -/

/-- An upload that was open and is told to abort, and what happened since. -/
inductive Leaving (call : StoreCall) (w : Traffic) : List Happening → Prop where
  | asked (quiet : w.upload.session.tasks = [])
      (phase : w.upload.session.phase = .failed .sessionFailed)
      (awaiting : w.upload.awaiting = some (.store .aborting call 1))
      (flying : w.flying .owner = some ⟨call, none⟩) : Leaving call w []
  | reached {answer : Except StoreError String} (quiet : w.upload.session.tasks = [])
      (phase : w.upload.session.phase = .failed .sessionFailed)
      (awaiting : w.upload.awaiting = some (.store .aborting call 1))
      (flying : w.flying .owner = some ⟨call, some answer⟩) :
      Leaving call w [.reached .owner call answer]
  | answered {answer : Except StoreError String} {later : List Happening}
      (quiet : w.upload.session.tasks = [])
      (phase : w.upload.session.phase = .failed .sessionFailed)
      (awaiting : w.upload.awaiting = none) (silent : callsMade later = []) :
      Leaving call w
        (.reached .owner call answer ::
          .answered .owner call answer [.finished (verdict answer)] :: later)

theorem Leaving.aborting (h : Leaving call w later) : Aborting call later := by
  cases h with
  | asked quiet phase awaiting flying => exact .asked
  | reached quiet phase awaiting flying => exact .reached
  | answered quiet phase awaiting silent => exact .answered silent

theorem leaving_of_told {effects : List Effect} (hphase : w.upload.session.phase = .opened id)
    (hstep : Step w (.told .abort effects) w') :
    effects = [.call .owner ⟨0⟩ (.abort w.upload.session.key id)] ∧
      Leaving (.abort w.upload.session.key id) w' [] := by
  cases hstep.moved with
  | told idle begun =>
      rw [Upload.begin, hphase] at begun
      obtain ⟨rfl, rfl⟩ := Prod.mk.inj begun
      exact ⟨rfl, .asked rfl rfl rfl (Transfer.update_owner w.flying _)⟩

theorem Leaving.step (h : Leaving call w later) (hstep : Step w o w') :
    Leaving call w' (later ++ [o]) := by
  cases h with
  | asked quiet phase awaiting flying =>
      cases hstep.moved with
      | told idle begun => rw [awaiting] at idle; cases idle
      | ownerReached asked sent =>
          rw [flying] at sent
          obtain ⟨rfl, -⟩ := Flight.mk.inj (Option.some.inj sent)
          exact .reached quiet phase awaiting (Transfer.update_owner w.flying _)
      | ownerAnswered asked sent told =>
          rw [flying] at sent
          cases sent
      | partReached onWay flying => exact absurd onWay (not_onWay_of_quiet quiet)
      | partAnswered onWay told => exact absurd onWay (not_onWay_of_quiet quiet)
      | partDied onWay dropped => exact absurd onWay (not_onWay_of_quiet quiet)
  | @reached answer quiet phase awaiting flying =>
      cases hstep.moved with
      | told idle begun => rw [awaiting] at idle; cases idle
      | ownerReached asked sent =>
          rw [flying] at sent
          cases sent
      | ownerAnswered asked sent told =>
          rw [flying] at sent
          obtain ⟨rfl, hanswer⟩ := Flight.mk.inj (Option.some.inj sent)
          obtain rfl := Option.some.inj hanswer
          rw [awaiting] at asked
          obtain ⟨rfl, rfl, rfl⟩ := Await.store.inj (Option.some.inj asked)
          -- it is told once, whatever the answer
          cases told with
          | again retried pause => cases retried
          | concluded last =>
              cases answer with
              | ok tag => exact .answered quiet phase rfl rfl
              | error e => exact .answered quiet phase rfl rfl
      | partReached onWay flying => exact absurd onWay (not_onWay_of_quiet quiet)
      | partAnswered onWay told => exact absurd onWay (not_onWay_of_quiet quiet)
      | partDied onWay dropped => exact absurd onWay (not_onWay_of_quiet quiet)
  | @answered answer since quiet phase awaiting silent =>
      obtain ⟨c, u, effects, rfl, rfl, begun⟩ := hstep.moved.told_of_idle quiet awaiting
      rw [Upload.begin_of_failed phase] at begun
      obtain ⟨rfl, rfl⟩ := Prod.mk.inj begun
      have hsilent : callsMade
          (since ++ [.told c [.finished (Upload.refusal .sessionFailed c)]]) = [] :=
        (callsMade_snoc_of_none rfl).trans silent
      exact .answered quiet phase rfl hsilent

theorem Leaving.run (h : Leaving call w []) (hrun : Run w later w') : Leaving call w' later := by
  induction hrun with
  | start => exact h
  | step sofar step ih => exact ih.step step

/-! ## What is known of a run -/

/-- What was called, opened and completed so far is the upload's own. -/
structure Kept (key : String) (given : Option String) (w : Traffic) (trace : List Happening) :
    Prop where
  named : Named key given w
  opened : ∀ id ∈ idsOpened trace, given = some id
  made : ∀ call ∈ callsMade trace,
    call.Names key given ∧ (call ∈ callsAccepted trace ∨ call ∈ callsRefused trace)
  /-- An answer that is in the air was given by the store. -/
  flown : ∀ call tag, w.flying .owner = some ⟨call, some (.ok tag)⟩ → call ∈ callsAccepted trace
  completed : w.upload.session.phase = .completed →
    ∃ id listed, given = some id ∧ .complete key id listed ∈ callsAccepted trace

theorem kept_start (config : UploadConfig) (name : String) :
    Kept (videoObjectKey name) none (start config name) [] :=
  ⟨named_start config name, by simp [idsOpened], by simp, nofun, nofun⟩

/-- A step completes an upload only with the accepted answer to its completion. -/
theorem Stage.completed_step (h : Stage size w trace) (hstep : Step w o w')
    (hphase : w'.upload.session.phase = .completed) :
    w.upload.session.phase = .completed ∨ ∃ id listed tag,
      w.flying .owner = some ⟨.complete w.upload.session.key id listed, some (.ok tag)⟩ := by
  -- what is told and what becomes of parts leaves the phase or makes it fail
  have hkept : ∀ s' : Session,
      (s'.phase = w.upload.session.phase ∨ ∃ error, s'.phase = .failed error) →
      s'.phase = .completed → w.upload.session.phase = .completed := by
    rintro s' (hsame | ⟨error, hfailed⟩) hcompleted
    · exact hsame ▸ hcompleted
    · rw [hfailed] at hcompleted
      cases hcompleted
  cases hstep.moved with
  | @told c u effects idle begun =>
      have hfollows := Upload.follows_begin w.upload.session c
      rw [begun] at hfollows
      exact .inl (hkept _ hfollows.phase hphase)
  | ownerReached awaiting flying => exact .inl hphase
  | partReached onWay flying => exact .inl hphase
  | partAnswered onWay told => exact .inl (hkept _ told.phase hphase)
  | @partDied task u effects onWay dropped =>
      have hfollows := Upload.follows_partDied w.upload onWay
      rw [dropped] at hfollows
      exact .inl (hkept _ hfollows.phase hphase)
  | @ownerAnswered purpose asked call attempt answer result awaiting flying told =>
      cases told with
      | again retried pause => exact .inl hphase
      | concluded last =>
          cases purpose with
          | completing id listed total =>
              cases answer with
              | error e => exact .inl (hkept _ (Upload.follows_fail _ _).phase hphase)
              | ok tag =>
                  obtain ⟨hasks, landed, hsent⟩ := h.asks awaiting
                  rw [flying] at hsent
                  obtain ⟨rfl, -⟩ := Flight.mk.inj (Option.some.inj hsent)
                  cases hasks with
                  | completing opened completes => exact .inr ⟨id, listed, tag, flying⟩
                  | dropping drops quiet => cases drops
          | creating =>
              cases answer with
              | ok id => cases hphase
              | error e => exact .inl hphase
          | sending number bytes => cases answer <;> exact .inl hphase
          | failing error => cases answer <;> cases hphase
          | aborting => cases answer <;> exact .inl hphase

/-- Only the owner's call and its answer say anything of what the store did. -/
theorem flown_step (hstep : Step w o w') {tag : String}
    (hflying : w'.flying .owner = some ⟨call, some (.ok tag)⟩) :
    w.flying .owner = some ⟨call, some (.ok tag)⟩ ∨ call ∈ callsAccepted [o] := by
  cases hstep with
  | tell idle react => exact .inl (Transfer.launch_answered hflying)
  | answer expected flying react =>
      exact .inl (Transfer.answered_of_update (Transfer.launch_answered hflying))
  | die expected react =>
      exact .inl (Transfer.answered_of_update (Transfer.launch_answered hflying))
  | @reach who made answer expected flying =>
      cases who with
      | part number =>
          dsimp only at hflying
          rw [Function.update_of_ne (by simp)] at hflying
          exact .inl hflying
      | owner =>
          dsimp only at hflying
          rw [Function.update_self] at hflying
          obtain ⟨rfl, hanswer⟩ := Flight.mk.inj (Option.some.inj hflying)
          obtain rfl := Option.some.inj hanswer
          exact .inr (by simp [callsAccepted])

theorem Kept.step (h : Kept key given w trace) (hstage : Stage size w trace)
    (hstep : Step w o w') : ∃ given', Kept key given' w' (trace ++ [o]) := by
  obtain ⟨given', hnames⟩ := h.named.step hstep
  refine ⟨given', hnames.named, fun id hid => ?_, fun call hcall => ?_, fun call tag hflying => ?_,
    fun hphase => ?_⟩
  · rw [idsOpened_snoc] at hid
    rcases List.mem_append.1 hid with hid | hid
    · exact hnames.kept id (h.opened id hid)
    · obtain ⟨snapshot, hmem, rfl⟩ := mem_idsOpened.1 hid
      exact hnames.opened snapshot hmem
  · rw [callsMade_append] at hcall
    rw [callsAccepted_snoc, callsRefused_snoc]
    rcases List.mem_append.1 hcall with hcall | hcall
    · obtain ⟨hcalled, hanswered⟩ := h.made call hcall
      exact ⟨⟨hcalled.key_eq, fun id hid => hnames.kept id (hcalled.id_eq id hid)⟩,
        hanswered.imp (List.mem_append_left _) (List.mem_append_left _)⟩
    · obtain ⟨who, hmade⟩ := exists_made_of_mem_callsMade hcall
      exact ⟨hnames.made who call hmade,
        (accepted_or_refused hstep hmade).imp (List.mem_append_right _) (List.mem_append_right _)⟩
  · rw [callsAccepted_snoc]
    rcases flown_step hstep hflying with hbefore | hnow
    · exact List.mem_append_left _ (h.flown call tag hbefore)
    · exact List.mem_append_right _ hnow
  · rw [callsAccepted_snoc]
    rcases hstage.completed_step hstep hphase with hcompleted | ⟨id, listed, tag, hflying⟩
    · obtain ⟨id, listed, hid, hmem⟩ := h.completed hcompleted
      exact ⟨id, listed, hnames.kept id hid, List.mem_append_left _ hmem⟩
    · have hcall := h.named.flights _ _ hflying
      refine ⟨id, listed, hnames.kept id (hcall.id_eq id rfl), List.mem_append_left _ ?_⟩
      rw [← hcall.key_eq]
      exact h.flown _ tag hflying

theorem kept_of_run {config : UploadConfig} {name : String}
    (hrun : Run (start config name) trace w) :
    ∃ given, Kept (videoObjectKey name) given w trace := by
  induction hrun with
  | start => exact ⟨none, kept_start config name⟩
  | step sofar step ih =>
      obtain ⟨given, hkept⟩ := ih
      exact hkept.step (stage_of_run sofar) step

/-! ## Commands that end well -/

/-- Giving up a session does not end well. -/
theorem not_done_fail (s : Session) (error : UploadError) :
    Effect.finished (.ok .done) ∉ (Upload.fail s error).2 := by
  unfold Upload.fail
  dsimp only
  split <;> simp [Upload.ask, Upload.finish]

theorem not_done_afterPart (u : Upload) : Effect.finished (.ok .done) ∉ u.afterPart.2 := by
  rcases Upload.afterPart_cases u with ⟨id, -, hjoined⟩ | ⟨-, hnone⟩
  · generalize u.afterPart = out at hjoined
    cases hjoined with
    | waits busy => simp
    | completes quiet acked nonempty => simp [Upload.ask]
    | fails error => exact not_done_fail _ error
  · rw [hnone]
    simp

/-- Of the answers to its own calls, a command ends well with that to its call to abort. -/
theorem aborting_of_done {u : Upload} {purpose : Purpose} {attempt : Nat}
    {answer : Except StoreError String} {result : Upload × List Effect}
    (h : Upload.OwnerTold u purpose call attempt answer result)
    (hdone : Effect.finished (.ok .done) ∈ result.2) :
    purpose = .aborting ∧ ∃ tag, answer = .ok tag := by
  cases h with
  | again retried pause => simp at hdone
  | concluded last =>
      cases purpose with
      | aborting =>
          cases answer with
          | ok tag => exact ⟨rfl, tag, rfl⟩
          | error e => simp [Upload.conclude, Upload.finish] at hdone
      | completing id listed total =>
          cases answer with
          | ok tag => simp [Upload.conclude, Upload.finish] at hdone
          | error e => exact absurd hdone (not_done_fail _ _)
      | creating =>
          cases answer with
          | ok id =>
              simp [Upload.conclude, Upload.finish, Session.snapshot, Session.openId, Except.map]
                at hdone
          | error e => simp [Upload.conclude, Upload.finish] at hdone
      | sending number size =>
          cases answer <;> simp [Upload.conclude, Upload.finish] at hdone
      | failing error => cases answer <;> simp [Upload.conclude, Upload.finish] at hdone

/-- A command to abort ends well at once where the upload is not open, and else with the store's
answer. -/
inductive Succeeds (w : Traffic) : Prop where
  | atOnce (idle : w.upload.awaiting = none) (shut : ∀ id, w.upload.session.phase ≠ .opened id)
  | answered {asked call : StoreCall} {attempt : Nat} {tag : String}
      (awaiting : w.upload.awaiting = some (.store .aborting asked attempt))
      (flying : w.flying .owner = some ⟨call, some (.ok tag)⟩)

theorem AbortSucceeds.succeeds (h : AbortSucceeds trace o) (hstep : Step w o w') : Succeeds w := by
  obtain ⟨hdone, hlast⟩ := h
  cases hstep.moved with
  | @told c u effects idle begun =>
      rw [lastCommand?_snoc_of_some rfl] at hlast
      obtain rfl := Option.some.inj hlast
      refine .atOnce idle fun id hphase => ?_
      rw [Upload.begin, hphase] at begun
      obtain ⟨rfl, rfl⟩ := Prod.mk.inj begun
      simp [Happening.effects] at hdone
  | ownerReached awaiting flying => cases hdone
  | ownerAnswered awaiting flying told =>
      obtain ⟨rfl, tag, rfl⟩ := aborting_of_done told hdone
      exact .answered awaiting flying
  | partReached onWay flying => cases hdone
  | partAnswered onWay told =>
      cases told with
      | acknowledged => exact absurd hdone (not_done_afterPart _)
      | again pause => simp [Happening.effects] at hdone
      | lost pause => exact absurd hdone (not_done_afterPart _)
  | @partDied task u effects onWay dropped =>
      rw [Upload.partDied] at dropped
      split at dropped
      · have hnone := not_done_afterPart { w.upload with
          session :=
            { w.upload.session with
              tasks := w.upload.session.tasks.filter (·.number != task.number) } }
        rw [dropped] at hnone
        exact absurd hdone hnone
      · obtain ⟨rfl, rfl⟩ := Prod.mk.inj dropped
        cases hdone

/-- A call that drops an upload is one to abort it by its key and id. -/
theorem eq_abort_of_names {call : StoreCall} (hnames : call.Names key given)
    (habort : call.isAbort = true) (hid : given = some id) : call = .abort key id := by
  cases call with
  | abort made named =>
      obtain rfl : made = key := hnames.key_eq
      have hgiven := hnames.id_eq named rfl
      rw [hid] at hgiven
      rw [Option.some.inj hgiven]
  | _ => cases habort

/-- At rest, an upload that was open and is so no longer was completed, or the store was told to
drop it. -/
theorem Kept.gone (h : Kept key given w trace) (hstage : Stage size w trace)
    (hopened : id ∈ idsOpened trace) (idle : w.upload.awaiting = none)
    (shut : ∀ id, w.upload.session.phase ≠ .opened id) :
    Discarded key trace id ∨ .abort key id ∈ callsRefused trace := by
  have hid := h.opened id hopened
  cases hphase : w.upload.session.phase with
  | opened other => exact absurd hphase (shut other)
  | idle =>
      rw [h.named.uses.session.idle hphase] at hid
      cases hid
  | completed =>
      obtain ⟨named, listed, hnamed, hmem⟩ := h.completed hphase
      rw [hid] at hnamed
      obtain rfl := Option.some.inj hnamed
      exact .inl (.inr ⟨listed, hmem⟩)
  | failed error =>
      -- it was dropped, by the one call made for that
      have hcount := (hstage.abortsMade_iff idle).2 ⟨error, hphase⟩
      obtain ⟨call, hcall⟩ := List.exists_mem_of_length_pos (by rw [hcount]; exact Nat.one_pos)
      obtain ⟨hmade, habort⟩ := List.mem_filter.1 hcall
      obtain ⟨hnames, hanswered⟩ := h.made call hmade
      obtain rfl := eq_abort_of_names hnames habort hid
      exact hanswered.imp .inl fun hrefused => hrefused

/-- A command to abort an upload that was open asks the store to drop it, once, and answers what the
store answers. Where such a command ends well, the store has nothing left of the upload, or has
refused the call that was to drop it. -/
theorem discards_of_run (config : UploadConfig) (name : String)
    (hrun : Run (start config name) trace w) : Discards (videoObjectKey name) w trace := by
  obtain ⟨given, hkept⟩ := kept_of_run hrun
  have hstage := stage_of_run hrun
  refine ⟨fun id effects w' hphase hstep => ?_, fun id o w' hopened hstep hsucceeds => ?_⟩
  · obtain ⟨heffects, hleaving⟩ := leaving_of_told hphase hstep
    rw [hkept.named.uses.session.key_eq] at heffects hleaving
    exact ⟨heffects, fun later w'' hlater => (hleaving.run hlater).aborting⟩
  · cases hsucceeds.succeeds hstep with
    | atOnce idle shut => exact hkept.gone hstage hopened idle shut
    | @answered asked call attempt tag awaiting flying =>
        have hid := hkept.opened id hopened
        have hnames := hkept.named.flights _ _ flying
        cases hstage with
        | dropping drops quiet asks sent aborted =>
            rw [flying] at sent
            obtain ⟨rfl, -⟩ := Flight.mk.inj (Option.some.inj sent)
            obtain hcall := eq_abort_of_names hnames rfl hid
            exact .inl (.inl (hcall ▸ hkept.flown _ tag flying))
        | fresh unopened idle => rw [awaiting] at idle; cases idle
        | creating unopened told asks created => rw [awaiting] at asks; cases asks
        | live opened busy =>
            cases busy with
            | resting idle gathered => rw [awaiting] at idle; cases idle
            | sending asks sent gathered => rw [awaiting] at asks; cases asks
            | joining waits sealed => rw [awaiting] at waits; cases waits
            | completing quiet acked nonempty asks sent sealed =>
                rw [awaiting] at asks
                cases asks
        | failed phase quiet idle aborted => rw [awaiting] at idle; cases idle
        | completed phase healthy quiet idle unaborted => rw [awaiting] at idle; cases idle

/-- An upload takes in a chunk and is told to abort; the store has dropped it, and the answer is in
the air. -/
def dropped : List Transfer.Move :=
  [.tell .create, .reach .owner, .answer .owner, .tell (.accept ⟨#[1]⟩), .tell .abort,
    .reach .owner]

theorem discards_of_run_dropped :
    ∃ trace w, (Transfer.start {} "v" .empty).play dropped = some (trace, w) ∧
      idsOpened (trace.map Happening.seen) = ["memory-upload-1"] ∧
      .abort "v.webm" "memory-upload-1" ∈ callsAccepted (trace.map Happening.seen) ∧
      Discards "v.webm" w.traffic (trace.map Happening.seen) := by
  obtain ⟨⟨trace, w⟩, hplay⟩ : ∃ r, (Transfer.start {} "v" .empty).play dropped = some r :=
    Option.isSome_iff_exists.1 rfl
  have hread : ((Transfer.start {} "v" .empty).play dropped).map (fun r =>
      (idsOpened (r.1.map Happening.seen), callsAccepted (r.1.map Happening.seen))) =
      some (["memory-upload-1"],
        [.create "v.webm" videoContentType, .abort "v.webm" "memory-upload-1"]) := rfl
  rw [hplay] at hread
  obtain ⟨hopened, haccepted⟩ := Prod.mk.inj (Option.some.inj hread)
  dsimp only at hopened haccepted
  have hrun := (Transfer.run_iff_exists_play.2 ⟨_, hplay⟩).traffic
  exact ⟨trace, w, hplay, hopened, by simp [haccepted], discards_of_run {} "v" hrun⟩

/-- A completion without data fails, and the store refuses to drop the upload. -/
def refusedAtEnd : List Transfer.Move :=
  [.tell .create, .reach .owner, .answer .owner, .tell .complete,
    .fail .owner (.transient "busy"), .answer .owner]

/-- A command to abort fails, because the store refuses to drop the upload. -/
def refusedAbort : List Transfer.Move :=
  [.tell .create, .reach .owner, .answer .owner, .tell .abort,
    .fail .owner (.transient "busy"), .answer .owner]

/-- After some moves a command to abort ends well, while the store still has the upload. -/
def Leaves (moves : List Transfer.Move) : Prop :=
  ∃ trace w o w', (Transfer.start {} "v" .empty).play moves = some (trace, w) ∧
    w.move? (.tell .abort) = some (o, w') ∧
    "memory-upload-1" ∈ idsOpened (trace.map Happening.seen) ∧
    AbortSucceeds (trace.map Happening.seen) o.seen ∧
    ¬ Discarded "v.webm" (trace.map Happening.seen) "memory-upload-1"

/-- The store accepted nothing but the creation, and a command to abort would end well. -/
theorem leaves_of_read {moves : List Transfer.Move}
    (hread : ((Transfer.start {} "v" .empty).play moves).map (fun r =>
      (idsOpened (r.1.map Happening.seen), callsAccepted (r.1.map Happening.seen),
        (r.2.move? (.tell .abort)).map fun m =>
          (m.1.seen.effects, lastCommand? (r.1.map Happening.seen ++ [m.1.seen])))) =
      some (["memory-upload-1"], [.create "v.webm" videoContentType],
        some ([.finished (.ok .done)], some .abort))) : Leaves moves := by
  obtain ⟨⟨trace, w⟩, hplay, hread⟩ := Option.map_eq_some_iff.1 hread
  obtain ⟨hopened, haccepted, htold⟩ : _ ∧ _ ∧ _ := by simpa only [Prod.mk.injEq] using hread
  obtain ⟨⟨o, w'⟩, hmove, htold⟩ := Option.map_eq_some_iff.1 htold
  obtain ⟨hdone, hlast⟩ := Prod.mk.inj htold
  refine ⟨trace, w, o, w', hplay, hmove, by simp [hopened], ⟨by simp [hdone], hlast⟩, ?_⟩
  simp [Discarded, haccepted]

/-- A command to abort that follows a refusal ends well, and the upload is left on the store. -/
theorem leaves_of_refused : Leaves refusedAtEnd ∧ Leaves refusedAbort :=
  ⟨leaves_of_read rfl, leaves_of_read rfl⟩

end Traffic

end StudySession

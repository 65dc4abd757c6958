import StudySession.Proofs.Upload.Ending

/-!
# Lost parts

A part that was flushed is lost when its call is refused and not made again. A session keeps that
for good (`Traffic.Stage.lost_step`), so that the upload is never completed any more, and the next
chunk or the command to complete it fails: nothing is sent, and the store is told once to drop the
upload.

A part that the owner sends itself is another matter. It leaves the session as it is, however it
ends, and the upload goes on without it.
-/

namespace StudySession

/-! ## What is read from a run -/

/-- Whether a call completes an upload. -/
def StoreCall.isComplete : StoreCall → Bool
  | complete _ _ _ => true
  | _ => false

/-- Whether a command needs every part so far to be sound. -/
def Command.checksParts : Command → Bool
  | accept _ | complete => true
  | _ => false

/-- The call that is set out on. -/
def Effect.call? : Effect → Option StoreCall
  | .call _ _ called => some called
  | .finished _ => none

/-- What a command that ends answers. -/
def Effect.result? : Effect → Option (Except UploadError Outcome)
  | .call _ _ _ => none
  | .finished result => some result

/-- A part that was flushed fails for good: its call is refused and not made again. -/
def Happening.Loses (o : Happening) (number : Nat) (cause : StoreError) : Prop :=
  ∃ call effects, o = answered (.part number) call (.error cause) effects ∧
    ∀ delay again, Effect.call (.part number) delay again ∉ effects

/-- The calls set out on, in order. -/
def callsLaunched (trace : List Happening) : List StoreCall :=
  trace.flatMap fun o => o.effects.filterMap Effect.call?

/-- What commands answered, in order. -/
def results (trace : List Happening) : List (Except UploadError Outcome) :=
  trace.flatMap fun o => o.effects.filterMap Effect.result?

section Histories

variable {trace : List Happening} {o : Happening}

theorem callsLaunched_snoc :
    callsLaunched (trace ++ [o]) = callsLaunched trace ++ o.effects.filterMap Effect.call? := by
  simp [callsLaunched]

theorem results_snoc :
    results (trace ++ [o]) = results trace ++ o.effects.filterMap Effect.result? := by
  simp [results]

end Histories

/-- A part of a session is lost with an error. -/
def Session.Lost (s : Session) (error : UploadError) : Prop := ∃ p ∈ s.parts, p.state = .lost error

theorem Session.Lost.lostPart? {s : Session} {error : UploadError} (h : s.Lost error) :
    ∃ first, s.lostPart? = some first := by
  obtain ⟨p, hp, hstate⟩ := h
  refine Option.isSome_iff_exists.1 (List.findSome?_isSome_iff.2 ⟨p, hp, ?_⟩)
  rw [hstate]
  rfl

/-- The parts that are lost are kept with the others. -/
theorem Session.Lost.follows {s s' : Session} {error : UploadError} (h : s.Lost error)
    (hfollows : Upload.Follows s s') : s'.Lost error := by
  obtain ⟨p, hp, hstate⟩ := h
  obtain ⟨new, hparts⟩ := hfollows.parts
  exact ⟨p, by rw [hparts]; exact List.mem_append_left _ hp, hstate⟩

namespace Upload

/-- A part that the owner sends itself leaves the session as it is, however it ends. -/
theorem session_of_sending {u : Upload} {number size attempt : Nat} {call : StoreCall}
    (hawaiting : u.awaiting = some (.store (.sending number size) call attempt))
    (answer : Except StoreError String) :
    (u.react (.answered .owner answer)).1.session = u.session := by
  generalize hresult : u.react (.answered .owner answer) = result
  have htold := ownerTold_of_awaiting hawaiting answer
  rw [hresult] at htold
  cases htold with
  | again retried pause => rfl
  | concluded last => cases answer <;> rfl

end Upload

namespace Traffic

open Transfer (Books launch)

variable {size number : Nat} {id : String} {w w' w'' : Traffic} {trace later : List Happening}
  {o : Happening} {error : UploadError} {cause : StoreError} {c : Command} {effects : List Effect}

/-! ## A lost part is kept -/

/-- A part that is lost is on its way no longer, so nothing is entered for it any more. -/
theorem Opened.lost_settle (h : Opened size id w trace) {task : PartTask}
    (htask : task ∈ w.upload.session.tasks) (hlost : w.upload.session.Lost error)
    (state : PartState) : (w.upload.session.settle task.number state).Lost error := by
  obtain ⟨p, hp, hstate⟩ := hlost
  obtain ⟨i, hi, rfl⟩ := List.getElem_of_mem hp
  have hget := List.getElem?_eq_getElem hi
  have hne : w.upload.session.parts[i].number ≠ task.number := by
    intro hsame
    rw [(h.books.part i _ hget).1] at hsame
    rw [h.entries.onWay task htask i _ hsame.symm hget] at hstate
    cases hstate
  refine ⟨_, List.mem_map_of_mem hp, ?_⟩
  rw [if_neg hne, hstate]

/-- Whatever happens, a lost part stays lost. -/
theorem Stage.lost_step (h : Stage size w trace) (hlost : w.upload.session.Lost error)
    (hstep : Step w o w') : w'.upload.session.Lost error := by
  cases hstep.moved with
  | @told c u effects idle begun =>
      have hfollows := Upload.follows_begin w.upload.session c
      rw [begun] at hfollows
      exact hlost.follows hfollows
  | ownerReached awaiting flying => exact hlost
  | ownerAnswered awaiting flying told => rwa [Session.Lost, told.parts]
  | partReached onWay flying => exact hlost
  | partAnswered onWay told =>
      obtain ⟨id, hopened⟩ := h.opened_of_onWay onWay
      cases told with
      | acknowledged =>
          refine Session.Lost.follows ?_ (Upload.follows_afterPart _)
          exact hopened.lost_settle onWay hlost _
      | again pause => exact hlost
      | lost pause =>
          refine Session.Lost.follows ?_ (Upload.follows_afterPart _)
          exact hopened.lost_settle onWay hlost _
  | partDied onWay dropped =>
      have hafter := Upload.follows_partDied w.upload onWay
      rw [dropped] at hafter
      exact hlost.follows hafter

theorem Stage.lost_run (h : Stage size w trace) (hsize : 0 < size)
    (hlost : w.upload.session.Lost error) (hrun : Run w later w') :
    Stage size w' (trace ++ later) ∧ w'.upload.session.Lost error := by
  induction hrun with
  | start => exact ⟨by rwa [List.append_nil], hlost⟩
  | step sofar step ih =>
      obtain ⟨hstage, hkept⟩ := ih
      rw [← List.append_assoc]
      exact ⟨hstage.step hsize step, hstage.lost_step hkept step⟩

/-- A part that is entered as lost is lost. -/
theorem Opened.lost_of_settle (h : Opened size id w trace) {task : PartTask}
    (htask : task ∈ w.upload.session.tasks) (error : UploadError) :
    (w.upload.session.settle task.number (.lost error)).Lost error := by
  -- the part is the one in the place of its number
  obtain ⟨-, i, hnumber, hbody⟩ := h.books.task task htask
  have hi : i < w.upload.session.parts.length := by
    rw [h.books.count]
    exact (List.getElem?_eq_some_iff.1 hbody).1
  have hsame : w.upload.session.parts[i].number = task.number := by
    rw [(h.books.part i _ (List.getElem?_eq_getElem hi)).1, hnumber]
  refine ⟨_, List.mem_map_of_mem (List.getElem_mem hi), ?_⟩
  rw [if_pos hsame]

/-- A part whose call is refused for good is lost. -/
theorem Step.lost_of_loses (hstage : Stage size w trace) (hstep : Step w o w')
    (hloses : o.Loses number cause) :
    ∃ attempt, w'.upload.session.Lost (.fatal number attempt (.refused cause)) := by
  obtain ⟨call, effects, rfl, hgone⟩ := hloses
  cases hstep.moved with
  | @partAnswered task call answer result onWay told =>
      obtain ⟨id, hopened⟩ := hstage.opened_of_onWay onWay
      cases told with
      | again pause => exact absurd (List.mem_singleton_self _) (hgone _ _)
      | lost pause =>
          refine ⟨task.attempt, Session.Lost.follows ?_ (Upload.follows_afterPart _)⟩
          exact hopened.lost_of_settle onWay _

theorem lost_of_run {config : UploadConfig} {name : String}
    (hrun : Run (start config name) trace w) (hmem : o ∈ trace) (hloses : o.Loses number cause) :
    ∃ attempt, w.upload.session.Lost (.fatal number attempt (.refused cause)) := by
  obtain ⟨before, after, rfl⟩ := List.append_of_mem hmem
  obtain ⟨w₁, w₂, hbefore, hstep, hafter⟩ := hrun.split_cons
  have hstage := stage_of_run hbefore
  obtain ⟨attempt, hlost⟩ := hstep.lost_of_loses hstage hloses
  exact ⟨attempt, ((hstage.step (by omega) hstep).lost_run (by omega) hlost hafter).2⟩

/-! ## Nothing is completed any more -/

theorem Completes.not_lost {listed : List CompletedPart} (h : Completes w trace id listed) :
    ¬ w.upload.session.Lost error := by
  rintro ⟨p, hp, hstate⟩
  obtain ⟨i, hi, rfl⟩ := List.getElem_of_mem hp
  obtain ⟨tag, ⟨bytes, hpart⟩, -⟩ := h.acknowledged i (by rwa [← h.count])
  rw [List.getElem?_eq_getElem hi] at hpart
  rw [Option.some.inj hpart] at hstate
  cases hstate

/-- The store is not asked to complete the upload, nor does a command complete it. -/
theorem Stage.incomplete_step (h : Stage size w trace) (hsize : 0 < size)
    (hlost : w.upload.session.Lost error) (hstep : Step w o w') :
    (∀ who call, o.made? = some (who, call) → call.isComplete = false) ∧ ¬ Completing o := by
  constructor
  · intro who call hmade
    cases h.makes hstep hmade with
    | completing completes => exact absurd hlost completes.not_lost
    | _ => rfl
  · intro hdone
    obtain ⟨hend, -⟩ :=
      (h.step hsize hstep).done_of_completed (hstep.completed_of_completing hdone)
    obtain ⟨first, hfirst⟩ := (h.lost_step hlost hstep).lostPart?
    rw [hend.healthy] at hfirst
    cases hfirst

theorem Stage.incomplete_run (h : Stage size w trace) (hsize : 0 < size)
    (hlost : w.upload.session.Lost error) (hrun : Run w later w') :
    (∀ call ∈ callsMade later, call.isComplete = false) ∧ ∀ o ∈ later, ¬ Completing o := by
  induction hrun with
  | start => exact ⟨by simp, by simp⟩
  | @step later w₁ w₂ o sofar step ih =>
      obtain ⟨hcalls, hcommands⟩ := ih
      obtain ⟨hstage, hkept⟩ := h.lost_run hsize hlost sofar
      obtain ⟨hcall, hcommand⟩ := hstage.incomplete_step hsize hkept step
      constructor
      · intro call hmem
        rw [callsMade_append] at hmem
        rcases List.mem_append.1 hmem with hmem | hmem
        · exact hcalls call hmem
        · obtain ⟨⟨who, made⟩, hmade, rfl⟩ := List.mem_map.1 hmem
          exact hcall who made (by simpa using hmade)
      · intro other hmem
        rcases List.mem_append.1 hmem with hmem | hmem
        · exact hcommands other hmem
        · obtain rfl := List.mem_singleton.1 hmem
          exact hcommand

/-! ## The next command is rejected -/

/-- A command is being rejected with an error, since some things happened. -/
inductive Rejecting (error : UploadError) (w : Traffic) (since : List Happening) : Prop where
  | dropping {key id : String} {attempt : Nat} {answer : Option (Except StoreError String)}
      (quiet : w.upload.session.tasks = [])
      (awaiting : w.upload.awaiting = some (.store (.failing error) (.abort key id) attempt))
      (flying : w.flying .owner = some ⟨.abort key id, answer⟩) (unanswered : results since = [])
  | rejected (quiet : w.upload.session.tasks = []) (awaiting : w.upload.awaiting = none)
      (phase : w.upload.session.phase = .failed error)
      (answered : results since = [.error error])

/-- Until the next command, what is rejected sets out on no further call. -/
theorem Rejecting.step (h : Rejecting error w later) (hstep : Step w o w')
    (hnone : o.command? = none) :
    Rejecting error w' (later ++ [o]) ∧ callsLaunched (later ++ [o]) = callsLaunched later := by
  have hkept : o.effects.filterMap Effect.call? = [] →
      callsLaunched (later ++ [o]) = callsLaunched later := fun hcalls => by
    rw [callsLaunched_snoc, hcalls, List.append_nil]
  cases h with
  | dropping quiet asked sent unanswered =>
      cases hstep.moved with
      | told idle begun => cases hnone
      | ownerReached awaiting flying =>
          rw [sent] at flying
          obtain ⟨rfl, -⟩ := Flight.mk.inj (Option.some.inj flying)
          refine ⟨.dropping quiet asked (Transfer.update_owner w.flying _) ?_, hkept rfl⟩
          rw [results_snoc, unanswered]
          rfl
      | ownerAnswered awaiting flying told =>
          rw [asked] at awaiting
          obtain ⟨rfl, rfl, rfl⟩ := Await.store.inj (Option.some.inj awaiting)
          cases told with
          | again retried pause => cases retried
          | concluded last =>
              refine ⟨.rejected quiet rfl rfl ?_, hkept rfl⟩
              rw [results_snoc, unanswered]
              rfl
      | partReached onWay flying => exact absurd onWay (not_onWay_of_quiet quiet)
      | partAnswered onWay told => exact absurd onWay (not_onWay_of_quiet quiet)
      | partDied onWay dropped => exact absurd onWay (not_onWay_of_quiet quiet)
  | rejected quiet idle phase answered =>
      obtain ⟨c, u, effects, rfl, rfl, begun⟩ := hstep.moved.told_of_idle quiet idle
      cases hnone

theorem Rejecting.run {since : List Happening} (h : Rejecting error w since)
    (hrun : Run w later w') (hnone : ∀ o ∈ later, o.command? = none) :
    Rejecting error w' (since ++ later) ∧ callsLaunched (since ++ later) = callsLaunched since := by
  induction hrun with
  | start => exact ⟨by rwa [List.append_nil], by rw [List.append_nil]⟩
  | step sofar step ih =>
      obtain ⟨hrejecting, hcalls⟩ := ih fun o ho => hnone o (List.mem_append_left _ ho)
      obtain ⟨hnext, hsame⟩ := hrejecting.step step
        (hnone _ (List.mem_append_right _ (List.mem_singleton_self _)))
      rw [← List.append_assoc]
      exact ⟨hnext, hsame.trans hcalls⟩

/-- Where a part is lost, a command that checks the parts is rejected: at once if the upload was
given up before, else once the store is told to drop it. -/
theorem Stage.rejecting (h : Stage size w trace) (hlost : w.upload.session.Lost error)
    (hchecks : c.checksParts = true) (hstep : Step w (.told c effects) w') :
    ∃ first, Rejecting first w' [.told c effects] ∧
      (∀ call ∈ callsLaunched [.told c effects], call.isAbort = true) ∧
      ∀ id, w.upload.session.phase = .opened id → w.upload.session.lostPart? = some first := by
  obtain ⟨first, hfirst⟩ := hlost.lostPart?
  have hsome : ¬ w.upload.session.lostPart? = none := by simp [hfirst]
  cases hstep.moved with
  | @told _ u _ idle begun =>
      have hparts : w.upload.session.parts ≠ [] := by
        obtain ⟨p, hp, -⟩ := hlost
        exact List.ne_nil_of_mem hp
      cases h with
      | fresh unopened awaiting => exact absurd unopened.untouched.parts hparts
      | creating unopened told asked created => exact absurd unopened.untouched.parts hparts
      | @live id opened busy =>
          have htold := Upload.told_begin opened.books.phase c
          rw [begun] at htold
          refine ⟨first, ?_⟩
          generalize hresult : (u, effects) = result at htold
          cases htold with
          | refused gate lost =>
              rw [hfirst] at lost
              obtain rfl := Option.some.inj lost
              rw [Upload.fail_of_opened opened.books.phase] at hresult
              obtain ⟨rfl, rfl⟩ := Prod.mk.inj hresult
              have hflying := Transfer.launch_ask w.flying
                { w.upload.session with tasks := [], pending := .empty } (.failing first)
                (.abort w.upload.session.key id)
              refine ⟨.dropping rfl rfl hflying rfl, ?_, fun _ _ => hfirst⟩
              intro call hmem
              obtain rfl : call = .abort _ _ := List.mem_singleton.1 hmem
              rfl
          | gathered healthy few => exact absurd healthy hsome
          | flushed healthy enough => exact absurd healthy hsome
          | joined healthy empty joined => exact absurd healthy hsome
          | flushedLast healthy rest => exact absurd healthy hsome
          | reopened => cases hchecks
          | sent => cases hchecks
          | aborted => cases hchecks
      | dropping drops quiet asked sent aborted => rw [asked] at idle; cases idle
      | @failed earlier phase quiet awaiting aborted =>
          rw [Upload.begin_of_failed phase] at begun
          obtain ⟨rfl, rfl⟩ := Prod.mk.inj begun
          refine ⟨earlier, .rejected quiet rfl phase ?_, by simp [callsLaunched, Happening.effects,
            Effect.call?], ?_⟩
          · cases c <;> first | rfl | cases hchecks
          · intro id hopened
            rw [phase] at hopened
            cases hopened
      | completed phase healthy quiet awaiting unaborted => exact absurd healthy hsome

/-- A command was rejected with an error, or will be as soon as the store answers. -/
structure Rejected (error : UploadError) (w : Traffic) (trace since : List Happening) : Prop where
  /-- Nothing is sent. -/
  launched : ∀ call ∈ callsLaunched since, call.isAbort = true
  rejected : w.upload.awaiting = none → results since = [.error error] ∧
    w.upload.session.phase = .failed error ∧ (abortsMade (trace ++ since)).length = 1
  /-- Whatever the store answers, the command ends. -/
  ends : w.upload.awaiting ≠ none → w.upload.expects .owner = true ∧ results since = [] ∧
    ∀ answer, (w.upload.react (.answered .owner answer)).2 = [.finished (.error error)]

theorem Rejecting.rejected_of_stage {since : List Happening} (h : Rejecting error w since)
    (hstage : Stage size w (trace ++ since))
    (hlaunched : ∀ call ∈ callsLaunched since, call.isAbort = true) :
    Rejected error w trace since := by
  cases h with
  | dropping quiet asked sent unanswered =>
      refine ⟨hlaunched, fun hidle => ?_, fun _ => ⟨?_, unanswered, fun answer => ?_⟩⟩
      · rw [asked] at hidle
        cases hidle
      · rw [Upload.expects, asked]
      · have htold := Upload.ownerTold_of_awaiting asked answer
        generalize hresult : w.upload.react (.answered .owner answer) = result at htold
        cases htold with
        | again retried pause => cases retried
        | concluded last => rfl
  | rejected quiet idle phase answered =>
      refine ⟨hlaunched, fun _ => ⟨answered, phase, ?_⟩, fun hbusy => absurd idle hbusy⟩
      exact (hstage.abortsMade_iff idle).2 ⟨error, phase⟩

/-- What an upload that lost a part comes to. -/
structure EndsLost (w : Traffic) (trace : List Happening) : Prop where
  /-- It is never completed, and the store is not asked to. -/
  incomplete : ∀ later w', Run w later w' →
    (∀ call ∈ callsMade later, call.isComplete = false) ∧ ∀ o ∈ later, ¬ Completing o
  /-- The next command that checks the parts is rejected, with the error of the first part lost if
  the upload was still open. -/
  rejects : ∀ c effects later w', c.checksParts = true → Run w (.told c effects :: later) w' →
    (∀ o ∈ later, o.command? = none) → ∃ error, Rejected error w' trace (.told c effects :: later) ∧
      ∀ id, w.upload.session.phase = .opened id → w.upload.session.lostPart? = some error

/-- An upload that lost a part that was flushed is not completed any more: the next command that
checks the parts is rejected, and the upload is dropped on the store. -/
theorem ends_lost_of_run (config : UploadConfig) (name : String)
    (hrun : Run (start config name) trace w) (hmem : o ∈ trace) (hloses : o.Loses number cause) :
    EndsLost w trace := by
  have hsize : 0 < max config.partSizeBytes 1 := by omega
  have hstage := stage_of_run hrun
  obtain ⟨attempt, hlost⟩ := lost_of_run hrun hmem hloses
  refine ⟨fun later w' hlater => hstage.incomplete_run hsize hlost hlater, ?_⟩
  intro c effects later w' hchecks hlater hnone
  have hsplit : Run w ([.told c effects] ++ later) w' := hlater
  obtain ⟨between, hfirst, hrest⟩ := hsplit.split
  obtain ⟨error, hrejecting, hlaunched, hopened⟩ := hstage.rejecting hlost hchecks hfirst.single
  obtain ⟨hended, hcalls⟩ := hrejecting.run hrest hnone
  obtain ⟨hlast, -⟩ := hstage.lost_run hsize hlost hlater
  exact ⟨error, hended.rejected_of_stage hlast (by rwa [hcalls]), hopened⟩

/-- A part is lost: its call fails, and is not made again. -/
def lostEarly : List Transfer.Move :=
  [.tell .create, .reach .owner, .answer .owner, .tell (.accept ⟨#[1]⟩),
    .fail (.part 1) (.transient "busy"), .answer (.part 1)]

theorem ends_lost_of_run_early :
    ∃ trace w,
      (Transfer.start { partSizeBytes := 1, maxAttempts := 1 } "v" .empty).play lostEarly =
        some (trace, w) ∧
      w.upload.session.lostPart? = some (.fatal 1 1 (.refused (.transient "busy"))) ∧
      EndsLost w.traffic (trace.map Happening.seen) := by
  obtain ⟨⟨trace, w⟩, hplay⟩ : ∃ r,
      (Transfer.start { partSizeBytes := 1, maxAttempts := 1 } "v" .empty).play lostEarly = some r :=
    Option.isSome_iff_exists.1 rfl
  have hlost : ((Transfer.start { partSizeBytes := 1, maxAttempts := 1 } "v" .empty).play
      lostEarly).map (fun r => r.2.upload.session.lostPart?) =
      some (some (.fatal 1 1 (.refused (.transient "busy")))) := rfl
  have hlast : ((Transfer.start { partSizeBytes := 1, maxAttempts := 1 } "v" .empty).play
      lostEarly).map (fun r => (r.1.map Happening.seen).getLast?) =
      some (some (.answered (.part 1) (.part "v.webm" "memory-upload-1" 1 ⟨#[1]⟩)
        (.error (.transient "busy")) [])) := rfl
  rw [hplay] at hlost hlast
  have hrun := (Transfer.run_iff_exists_play.2 ⟨_, hplay⟩).traffic
  have hmem := List.mem_of_getLast? (Option.some.inj hlast)
  exact ⟨trace, w, hplay, Option.some.inj hlost,
    ends_lost_of_run { partSizeBytes := 1, maxAttempts := 1 } "v" hrun hmem
      ⟨_, _, rfl, by simp⟩⟩

/-- The owner sends a part itself, which is refused. The upload goes on with chunks, and is
completed. -/
def unnoticed : List Transfer.Move :=
  [.tell .create, .reach .owner, .answer .owner, .tell (.sendPart 1 ⟨#[1]⟩),
    .fail .owner (.rejected "full"), .answer .owner, .tell (.accept ⟨#[2]⟩), .reach (.part 1),
    .answer (.part 1), .tell .complete, .reach .owner, .answer .owner]

/-- The loss of a part that the owner sends itself ends nothing. -/
theorem completes_despite_refused_part :
    ∃ trace w, Run (start { partSizeBytes := 1 } "v") trace w ∧
      results trace =
        [.ok (.opened ⟨"v.webm", "memory-upload-1", [], 0⟩),
          .error (.fatal 1 1 (.refused (.rejected "full"))), .ok .done,
          .ok (.completed ⟨"v.webm", "memory-upload-1", [⟨1, Tag.ofBody ⟨#[2]⟩⟩], 1⟩)] ∧
      abortsMade trace = [] := by
  obtain ⟨⟨trace, w⟩, hplay⟩ : ∃ r,
      (Transfer.start { partSizeBytes := 1 } "v" .empty).play unnoticed = some r :=
    Option.isSome_iff_exists.1 rfl
  have hread : ((Transfer.start { partSizeBytes := 1 } "v" .empty).play unnoticed).map
      (fun r => (results (r.1.map Happening.seen), abortsMade (r.1.map Happening.seen))) =
      some ([.ok (.opened ⟨"v.webm", "memory-upload-1", [], 0⟩),
        .error (.fatal 1 1 (.refused (.rejected "full"))), .ok .done,
        .ok (.completed ⟨"v.webm", "memory-upload-1", [⟨1, Tag.ofBody ⟨#[2]⟩⟩], 1⟩)], []) := rfl
  rw [hplay] at hread
  obtain ⟨hresults, haborts⟩ := Prod.mk.inj (Option.some.inj hread)
  exact ⟨_, _, (Transfer.run_iff_exists_play.2 ⟨_, hplay⟩).traffic, hresults, haborts⟩

end Traffic

end StudySession

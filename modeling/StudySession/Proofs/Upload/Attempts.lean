import StudySession.Proofs.Upload.Tries

/-!
# Attempts at parts

A part that the owner sends itself is tried while the owner waits for it (`Traffic.Sending`), and
the command ends with what came of the last try. `Traffic.attempts_scheduled` says that attempts go
by their policy: those of a run with any outcomes, and those at every part, whoever makes them.
-/

namespace StudySession

namespace Traffic

open Transfer (launch)

variable {policy : RetryPolicy} {key name : String} {config : UploadConfig}
  {size number bytes : Nat} {w w' : Traffic} {trace : List Happening} {o : Happening}
  {call made : StoreCall} {answer : Except StoreError String} {effects : List Effect}
  {tries : List Try}

/-! ## Parts that the owner sends itself -/

theorem update_part_owner (flying : Caller → Option Flight) (n : Nat) (f : Option Flight) :
    Function.update flying (.part n) f .owner = flying .owner :=
  Function.update_of_ne (by simp) _ _

/-- The owner waits for a part that it sends itself, or did. -/
inductive Sending (policy : RetryPolicy) (call : StoreCall) (number bytes : Nat) (w : Traffic)
    (tries : List Try) : Prop where
  | trying {flight : Flight} {attempt : Nat}
      (awaiting : w.upload.awaiting = some (.store (.sending number bytes) call attempt))
      (flying : w.flying .owner = some flight) (trying : Trying policy call flight attempt tries)
  | ended (awaiting : w.upload.awaiting = none) (attempted : Attempted policy call tries)

theorem Sending.attempted (h : Sending policy call number bytes w tries) :
    Attempted policy call tries := by
  cases h with
  | trying awaiting flying trying => exact trying.attempted
  | ended awaiting attempted => exact attempted

/-- What happens without the owner's call being made is no try. -/
theorem Sending.untried (h : Sending policy call number bytes w tries)
    (hnone : o.attempt? .owner = none) :
    Sending policy call number bytes w (tries ++ (o.attempt? .owner).toList) := by
  rwa [hnone, Option.toList_none, List.append_nil]

/-- An owner that waits for no parts has nothing to do with them. -/
theorem Sending.aside (h : Sending policy call number bytes w tries)
    (hawaiting : w'.upload.awaiting = w.upload.awaiting)
    (hflying : w'.flying .owner = w.flying .owner) :
    Sending policy call number bytes w' tries := by
  cases h with
  | trying awaiting flying trying =>
      exact .trying (hawaiting.trans awaiting) (hflying.trans flying) trying
  | ended awaiting attempted => exact .ended (hawaiting.trans awaiting) attempted

theorem Sending.not_joining (h : Sending policy call number bytes w tries) (id : String) :
    w.upload.awaiting ≠ some (.parts id) := by
  intro hparts
  cases h with
  | trying awaiting flying trying => rw [awaiting] at hparts; cases hparts
  | ended awaiting attempted => rw [awaiting] at hparts; cases hparts

/-- The store call that the owner waits for is the part's, and what is in the air is a try. -/
theorem Sending.awaited (h : Sending policy call number bytes w tries) {purpose : Purpose}
    {attempt : Nat} {flight : Flight}
    (hawaiting : w.upload.awaiting = some (.store purpose made attempt))
    (hflying : w.flying .owner = some flight) :
    purpose = .sending number bytes ∧ made = call ∧ Trying policy call flight attempt tries := by
  cases h with
  | trying asked sent trying =>
      rw [asked] at hawaiting
      obtain ⟨rfl, rfl, rfl⟩ := Await.store.inj (Option.some.inj hawaiting)
      rw [sent] at hflying
      obtain rfl := Option.some.inj hflying
      exact ⟨rfl, rfl, trying⟩
  | ended idle attempted => rw [idle] at hawaiting; cases hawaiting

/-- What follows a part that is on its way no longer is nothing. -/
theorem Sending.afterPart (h : Sending policy call number bytes w tries) {s : Session} (n : Nat)
    {out : Upload × List Effect} (hout : out = Upload.afterPart { w.upload with session := s }) :
    Sending policy call number bytes
      ⟨out.1, launch (Function.update w.flying (.part n) none) out.2⟩ tries := by
  rcases Upload.afterPart_cases { w.upload with session := s } with ⟨id, hparts, -⟩ | ⟨-, hnone⟩
  · exact absurd hparts (h.not_joining id)
  · rw [hnone] at hout
    subst hout
    exact h.aside rfl (update_part_owner w.flying n none)

/-- Until the next command, a part that the owner sends itself is tried as the policy allows. -/
theorem Sending.step (h : Sending policy call number bytes w tries)
    (hpolicy : w.upload.session.policy = policy) (hstep : Step w o w') (hnone : o.command? = none) :
    Sending policy call number bytes w' (tries ++ (o.attempt? .owner).toList) := by
  cases hstep.moved with
  | told idle begun => cases hnone
  | @ownerReached _ _ _ _ answer awaiting flying =>
      obtain ⟨rfl, rfl, trying⟩ := h.awaited awaiting flying
      obtain ⟨-, hback⟩ := trying.reached answer
      exact .trying awaiting (Transfer.update_owner w.flying _) hback
  | @ownerAnswered _ _ _ _ answer result awaiting flying told =>
      refine Sending.untried ?_ rfl
      obtain ⟨rfl, rfl, trying⟩ := h.awaited awaiting flying
      cases told with
      | @again error delay retried pause =>
          rw [hpolicy] at pause
          obtain ⟨⟨htransient, hfew⟩, -⟩ := RetryPolicy.pause?_eq_some_iff.1 pause
          exact .trying rfl (Transfer.launch_again w.flying delay _)
            (trying.again (RetryPolicy.isPassing_error.2 htransient) hfew)
      | concluded last => cases answer <;> exact .ended rfl trying.attempted
  | @partReached task made answer onWay flying =>
      refine Sending.untried ?_ (by simp [Happening.attempt?])
      exact h.aside rfl (update_part_owner w.flying task.number (some ⟨made, some answer⟩))
  | @partAnswered task made answer result onWay told =>
      refine Sending.untried ?_ rfl
      cases told with
      | acknowledged => exact h.afterPart task.number rfl
      | again pause =>
          exact h.aside rfl ((update_part_owner _ task.number (some ⟨task.call, none⟩)).trans
            (update_part_owner w.flying task.number none))
      | lost pause => exact h.afterPart task.number rfl
  | @partDied task u effects onWay dropped =>
      rw [Upload.partDied_of_mem _ onWay] at dropped
      exact (h.afterPart task.number dropped.symm).untried rfl

/-- A part is sent under the key and the id of an open session. -/
theorem sending_of_told (policy : RetryPolicy) {body : ByteArray}
    (hstep : Step w (.told (.sendPart number body) effects) w') :
    ∃ id, Sending policy (.part w.upload.session.key id number body) number body.size w' [] := by
  cases hstep.moved with
  | @told _ u _ idle begun =>
      rw [Upload.begin, Upload.ifOpen] at begun
      split at begun
      · obtain ⟨rfl, -⟩ := Prod.mk.inj begun
        exact ⟨"", .ended rfl (passed_nil policy _).attempted⟩
      · next id hopen =>
          obtain ⟨rfl, rfl⟩ := Prod.mk.inj begun
          have hflying := Transfer.launch_ask w.flying w.upload.session (.sending number body.size)
            (.part w.upload.session.key id number body)
          exact ⟨id, .trying rfl hflying (.setOut (passed_nil policy _))⟩

/-- A part that fails for good is reported, after as many attempts as there were. -/
theorem Sending.heeds (h : Sending policy call number bytes w tries)
    (hpolicy : w.upload.session.policy = policy)
    (hstep : Step w (.answered .owner made answer effects) w') :
    Heeds policy .owner tries made answer effects ∧
      (∀ cause, answer = .error cause → policy.Final answer tries.length →
        effects = [.finished (.error (.fatal number tries.length (.refused cause)))]) ∧
      ∀ tag, answer = .ok tag → effects = [.finished (.ok (.sent number bytes tag))] := by
  cases hstep.moved with
  | @ownerAnswered _ _ _ attempt _ result awaiting flying told =>
      obtain ⟨rfl, rfl, trying⟩ := h.awaited awaiting flying
      obtain ⟨-, hcount, -⟩ := trying.answered
      rw [← hcount]
      cases told with
      | @again error delay retried pause =>
          rw [hpolicy] at pause
          have hgoes : ¬ policy.Final (.error error : Except StoreError String) attempt :=
            RetryPolicy.not_final_of_pause? pause
          obtain ⟨-, rfl⟩ := RetryPolicy.pause?_eq_some_iff.1 pause
          refine ⟨trying.heeds_again hgoes, fun _ _ hfinal => absurd hfinal hgoes, ?_⟩
          rintro tag ⟨⟩
      | concluded last =>
          cases answer with
          | ok tag =>
              refine ⟨trying.heeds_final (policy.final_ok tag _) ?_, ?_, ?_⟩
              · simp [Upload.conclude, Upload.finish]
              · rintro cause ⟨⟩
              · rintro _ ⟨⟩
                rfl
          | error error =>
              have hpause := last error rfl rfl
              rw [hpolicy] at hpause
              have hfinal : policy.Final (.error error : Except StoreError String) attempt :=
                RetryPolicy.pause?_eq_none_iff.1 hpause
              refine ⟨trying.heeds_final hfinal ?_, ?_, ?_⟩
              · simp [Upload.conclude, Upload.finish]
              · rintro _ ⟨⟩ -
                rfl
              · rintro tag ⟨⟩

theorem Sending.run (h : Sending policy call number bytes w []) {later : List Happening}
    (hstage : Stage size w trace) (hsize : 0 < size) (htried : Tried policy key w trace)
    (hrun : Run w later w') (hnone : ∀ o ∈ later, o.command? = none) :
    Sending policy call number bytes w' (triesOf .owner later) := by
  suffices hall : Sending policy call number bytes w' (triesOf .owner later) ∧
      Stage size w' (trace ++ later) ∧ Tried policy key w' (trace ++ later) from hall.1
  induction hrun with
  | start => exact ⟨h, by rwa [List.append_nil], by rwa [List.append_nil]⟩
  | step sofar step ih =>
      obtain ⟨hsending, hbefore, hkept⟩ := ih fun o ho => hnone o (List.mem_append_left _ ho)
      rw [triesOf_snoc, ← List.append_assoc]
      have hquiet := hnone _ (List.mem_append_right _ (List.mem_singleton_self _))
      exact ⟨hsending.step hkept.policy_eq step hquiet, hbefore.step hsize step,
        hkept.step hbefore step⟩

/-! ## Every part -/

/-- Every part is tried as a policy allows, by the calls that bring its body. -/
structure Retries (policy : RetryPolicy) (key : String) (w : Traffic) (trace : List Happening) :
    Prop where
  flushed : ∀ number, triesOf (.part number) trace ≠ [] →
    TriesFlushed policy key trace number (triesOf (.part number) trace)
  /-- A part that was flushed and fails for good is lost, with the number of its attempts. -/
  answered : ∀ number made answer effects w',
    Step w (.answered (.part number) made answer effects) w' →
      Heeds policy (.part number) (triesOf (.part number) trace) made answer effects ∧
      ∀ cause, answer = .error cause → policy.Final answer (triesOf (.part number) trace).length →
        w'.upload.session.Lost
          (.fatal number (triesOf (.part number) trace).length (.refused cause))
  /-- So is one that the owner sends itself, and its end is that of the command. -/
  sent : ∀ before number body effects since,
    trace = before ++ .told (.sendPart number body) effects :: since →
    (∀ o ∈ since, o.command? = none) →
      (∃ id, Attempted policy (.part key id number body) (triesOf .owner since)) ∧
      ∀ made answer effects' w', Step w (.answered .owner made answer effects') w' →
        Heeds policy .owner (triesOf .owner since) made answer effects' ∧
        (∀ cause, answer = .error cause → policy.Final answer (triesOf .owner since).length →
          effects' =
            [.finished (.error (.fatal number (triesOf .owner since).length (.refused cause)))]) ∧
        ∀ tag, answer = .ok tag → effects' = [.finished (.ok (.sent number body.size tag))]

theorem retries_of_run (hrun : Run (start config name) trace w) :
    Retries config.retryPolicy (videoObjectKey name) w trace := by
  have htried := tried_of_run hrun
  have hstage := stage_of_run hrun
  refine ⟨htried.flushed, fun number made answer effects w' hstep => htried.heeds hstage hstep, ?_⟩
  rintro before number body effects since rfl hnone
  obtain ⟨w₁, w₂, hbefore, htold, hsince⟩ := hrun.split_cons
  have htried₁ := tried_of_run hbefore
  have hstage₁ := stage_of_run hbefore
  have hsize : 0 < max config.partSizeBytes 1 := by omega
  obtain ⟨id, hset⟩ := sending_of_told config.retryPolicy htold
  rw [htried₁.key_eq] at hset
  have hsending := hset.run (hstage₁.step hsize htold) hsize (htried₁.step hstage₁ htold) hsince hnone
  exact ⟨⟨id, hsending.attempted⟩, fun made answer effects' w' hstep =>
    hsending.heeds htried.policy_eq hstep⟩

/-- Attempts go by their policy: those of a run with any outcomes, and those at every part of any
upload, whether it was flushed or the owner sends it. -/
theorem attempts_scheduled :
    (∀ (α : Type) (policy : RetryPolicy) (outcomes : Nat → Except StoreError α),
      policy.Scheduled outcomes (policy.run outcomes)) ∧
    ∀ (config : UploadConfig) (name : String) (trace : List Happening) (w : Traffic),
      Run (start config name) trace w →
        Retries config.retryPolicy (videoObjectKey name) w trace :=
  ⟨fun _ policy outcomes => policy.scheduled_run outcomes, fun _ _ _ _ hrun => retries_of_run hrun⟩

/-- A part fails twice for a passing reason, which is as often as it may. The owner sends one that
is refused at the second attempt. -/
def twiceEach : List Transfer.Move :=
  [.tell .create, .reach .owner, .answer .owner, .tell (.accept ⟨#[1]⟩),
    .fail (.part 1) (.transient "busy"), .answer (.part 1), .fail (.part 1) (.transient "busy"),
    .answer (.part 1), .tell (.sendPart 7 ⟨#[2]⟩), .fail .owner (.transient "busy"),
    .answer .owner, .fail .owner (.rejected "full"), .answer .owner]

theorem attempts_scheduled_twice_each :
    ∃ trace w, Run (start { partSizeBytes := 1, maxAttempts := 2 } "v") trace w ∧
      w.upload.session.lostPart? = some (.fatal 1 2 (.refused (.transient "busy"))) ∧
      results trace = [.ok (.opened ⟨"v.webm", "memory-upload-1", [], 0⟩), .ok .done,
        .error (.fatal 7 2 (.refused (.rejected "full")))] ∧
      Retries ⟨2, .ofMilliseconds 250⟩ "v.webm" w trace := by
  obtain ⟨⟨trace, w⟩, hplay⟩ : ∃ r, (Transfer.start { partSizeBytes := 1, maxAttempts := 2 } "v"
      .empty).play twiceEach = some r := Option.isSome_iff_exists.1 rfl
  have hread : ((Transfer.start { partSizeBytes := 1, maxAttempts := 2 } "v" .empty).play
      twiceEach).map (fun r => (r.2.upload.session.lostPart?, results (r.1.map Happening.seen))) =
      some (some (.fatal 1 2 (.refused (.transient "busy"))),
        [.ok (.opened ⟨"v.webm", "memory-upload-1", [], 0⟩), .ok .done,
          .error (.fatal 7 2 (.refused (.rejected "full")))]) := rfl
  rw [hplay] at hread
  obtain ⟨hlost, hresults⟩ := Prod.mk.inj (Option.some.inj hread)
  have hrun := (Transfer.run_iff_exists_play.2 ⟨_, hplay⟩).traffic
  exact ⟨_, _, hrun, hlost, hresults,
    attempts_scheduled.2 { partSizeBytes := 1, maxAttempts := 2 } "v" _ _ hrun⟩

end Traffic

end StudySession

import StudySession.Proofs.Recorder.Courses

/-!
# Runs of a recorder

Letting virtual time pass takes what is due first, and at its instant: whatever every move keeps that
goes on with a command holds when the command has ended (`Scene.goes_run`). What a recorder runs that
way is one of its courses, in which the same is seen (`Scene.course_of_reports`), and so one of its
plays (`Scene.reaches_performAll`): what holds of every course or play holds of all calls on a
recorder.
-/

namespace StudySession

/-- What may be asked of a recorder between two others. -/
inductive RecorderCall where
  | run (c : RecorderCommand)
  | send (chunk : ByteArray)
  | on (name : String) (handler : Nat)
  | passTo (instant : Nat)

/-- Carries out a call; there is no recorder to go on with if a command does not end. -/
def Recorder.perform (r : Recorder) : RecorderCall → Option Recorder
  | .run c =>
    match r.run c with
    | (r, some _) => some r
    | (_, none) => none
  | .send chunk => some (r.send chunk).1
  | .on name handler => some (r.on name handler).2
  | .passTo instant => some (r.passTo instant)

namespace Recorder

/-- What is seen of a call. -/
def sights (r : Recorder) : RecorderCall → List Sight
  | .run c => .command c :: (r.run c).2.toList.map .result
  | .send chunk => if (r.send chunk).2.isSome then [.chunk chunk] else []
  | .on _ handler => [.handler handler]
  | .passTo _ => []

/-- Carries out one call after the other, and reports what is seen of all of them. -/
def reports (r : Recorder) : List RecorderCall → Option (Recorder × List Sight)
  | [] => some (r, [])
  | call :: rest =>
    (r.perform call).bind fun next =>
      (next.reports rest).map fun (last, later) => (last, r.sights call ++ later)

end Recorder

/-- A move that only goes on with what is under way. -/
inductive RecorderMove.GoesOn : RecorderMove → Prop where
  | occur (k now : Nat) : GoesOn (.occur k now)
  | conclude : GoesOn .conclude
  | expire : GoesOn .expire

namespace Scene

variable {s s' s'' : Scene} {r r' : Recorder} {w : Option Waiting} {report later : List Sight}

/-! ## Letting time pass -/

/-- While no command waits for the store, whatever is noticed is told to the pumps. -/
theorem told_eq_notice (h : w.bind (·.storePlace?) = none) (n : Option Notice) :
    told ⟨r, w⟩ n = ⟨n.elim r r.notice, w⟩ := by
  cases n with
  | none => rfl
  | some n =>
      cases n with
      | woke i => rfl
      | finished i result => exact told_of_free (by simp [h]) result

/-- While no command waits for the store, no notice is heeded. -/
theorem heeded?_eq_none (h : w.bind (·.storePlace?) = none) (n : Option Notice) :
    heeded? ⟨r, w⟩ n = none := by
  cases n with
  | none => rfl
  | some n =>
      cases n with
      | woke i => rfl
      | finished i result => exact heeded?_of_free (by simp [h]) result

section GoingOn

/-! What holds as long as nothing is answered, and of the answer then, if every move keeps it that
only goes on with what is under way. -/

variable {P : Scene → Option (Except RecorderError RecorderReply) → Prop}
  (hgoes : ∀ {s s' : Scene} {m : RecorderMove} {contact : Option Contact}, P s none → m.GoesOn →
    s.move? m = some (s', contact) → P s' (Turn.mk s (.move m) s').result?)

include hgoes

/-- What is due next goes on with what is under way. -/
theorem goes_of_pop? {limit : Option Nat} {n : Option Notice} (hpop : r.pop? limit = some (r', n))
    (h : P ⟨r, w⟩ none) : P (told ⟨r', w⟩ n) ((heeded? ⟨r', w⟩ n).bind (·.result?)) := by
  obtain ⟨⟨t, notice⟩, htimeline, heq⟩ := Option.map_eq_some_iff.1 hpop
  obtain ⟨rfl, rfl⟩ := Prod.mk.inj heq
  obtain ⟨now, contact, hoccur⟩ := Timeline.occur?_of_pop? htimeline
  have hmove : move? ⟨r, w⟩ (.occur 0 now) =
      some (told ⟨{ r with timeline := t }, w⟩ notice, contact) := by
    simp only [move?, hoccur, Option.map_some]
  have hgone := hgoes h (.occur 0 now) hmove
  rwa [Turn.result?_occur hoccur] at hgone

/-- What no command heeds is told to the pumps. -/
theorem goes_of_pop?_unheeded {limit : Option Nat} {n : Option Notice}
    (hpop : r.pop? limit = some (r', n)) (hnone : heeded? ⟨r', w⟩ n = none)
    (htold : told ⟨r', w⟩ n = ⟨n.elim r' r'.notice, w⟩) (h : P ⟨r, w⟩ none) :
    P ⟨n.elim r' r'.notice, w⟩ none := by
  have hgone := goes_of_pop? hgoes hpop h
  rwa [hnone, htold] at hgone

theorem goes_settleBefore (h : P ⟨r, none⟩ none) (limit fuel : Nat) :
    P ⟨r.settleBefore limit fuel, none⟩ none := by
  induction fuel generalizing r with
  | zero => exact h
  | succ fuel ih =>
      have hnotice : ∀ {r' n}, r.pop? (some limit) = some (r', n) →
          P ⟨n.elim r' r'.notice, none⟩ none := fun {r' n} hpop =>
        goes_of_pop?_unheeded hgoes hpop (heeded?_eq_none rfl n) (told_eq_notice rfl n) h
      rw [Recorder.settleBefore]
      split
      · exact h
      · next r' n hpop => exact ih (hnotice hpop)
      · next r' hpop => exact ih (hnotice hpop)

/-- A command that has ended went through its waits. -/
theorem goes_untilEnded {progress : Progress} {answer : Except RecorderError RecorderReply}
    {fuel : Nat} (h : P (after (r, progress)) progress.result?)
    (hend : r.untilEnded progress fuel = (r', some answer)) : P ⟨r', none⟩ (some answer) := by
  induction fuel generalizing r progress with
  | zero => cases hend
  | succ fuel ih =>
      have hwaits : ∀ {q w}, P ⟨q, some w⟩ none →
          q.untilEnded (.waiting w) fuel = (r', some answer) → P ⟨r', none⟩ (some answer) :=
        fun {q w} h hend => @ih q (.waiting w) h hend
      unfold Recorder.untilEnded at hend
      split at hend
      · obtain ⟨rfl, hanswer⟩ := Prod.mk.inj hend
        obtain rfl := Option.some.inj hanswer
        exact h
      · next i deadline =>
          have h : P ⟨r, some (.uploading i deadline)⟩ none := h
          split at hend
          · next outcome hended =>
              have hmove : move? ⟨r, some (.uploading i deadline)⟩ .conclude =
                  some (after (r.conclude outcome), none) := by
                simp only [move?, hended, Option.map_some]
              have hgone := hgoes h .conclude hmove
              rw [Turn.result?_conclude hended] at hgone
              exact ih hgone hend
          · split at hend
            · exact ih (hgoes h .expire rfl) hend
            · next next n hpop =>
                exact hwaits (goes_of_pop?_unheeded hgoes hpop (heeded?_eq_none rfl n)
                  (told_eq_notice rfl n) h) hend
      · next w hstore =>
          have h : P ⟨r, some w⟩ none := h
          have hplace : w.storePlace? = some w.place := by
            cases w with
            | uploading i deadline => exact (hstore i deadline rfl).elim
            | creating i name => rfl
            | undoing i reason => rfl
          split at hend
          · cases hend
          · next r' j outcome hpop =>
              split at hend
              · next hj =>
                  subst hj
                  have hheeded := goes_of_pop? hgoes hpop h
                  rw [told_of_waits hplace, heeded?_of_waits hplace] at hheeded
                  exact ih hheeded hend
              · next hj =>
                  have hfree : (some w).bind (·.storePlace?) ≠ some j := by
                    rw [Option.bind_some, hplace]
                    exact fun heq => hj (Option.some.inj heq).symm
                  exact hwaits (goes_of_pop?_unheeded hgoes hpop (heeded?_of_free hfree outcome)
                    (told_of_free hfree outcome) h) hend
          · next r' n hother hpop =>
              rcases n with _ | ⟨j, outcome⟩ | j
              · exact hwaits (goes_of_pop?_unheeded hgoes hpop rfl rfl h) hend
              · exact (hother j outcome rfl).elim
              · exact hwaits (goes_of_pop?_unheeded hgoes hpop rfl rfl h) hend

/-- A command that is run is given and goes on to its end; then everything happens that is due by
then. -/
theorem goes_run {c : RecorderCommand} {answer : Except RecorderError RecorderReply}
    (hbegin : P (after (r.begin c)) (r.begin c).2.result?) (h : r.run c = (r', some answer)) :
    ∃ q, P ⟨q, none⟩ (some answer) ∧ r' = q.passTo q.now := by
  unfold Recorder.run at h
  dsimp only at h
  generalize hend : (r.begin c).1.untilEnded (r.begin c).2 ((r.begin c).1.budget + 4) = out at h
  obtain ⟨q, ended⟩ := out
  obtain ⟨rfl, rfl⟩ := Prod.mk.inj h
  exact ⟨q, goes_untilEnded hgoes hbegin hend, rfl⟩

end GoingOn

/-! ## What is seen of it -/

/-- Some turns lead from one scene to another, and come to a report. -/
def Yields (s : Scene) (report : List Sight) (s' : Scene) : Prop :=
  ∃ turns, Course s turns s' ∧ sightsOf turns = report

theorem Yields.refl (s : Scene) : Yields s [] s := ⟨[], .start, rfl⟩

theorem Yields.trans (h : Yields s report s') (h' : Yields s' later s'') :
    Yields s (report ++ later) s'' := by
  obtain ⟨turns, hcourse, rfl⟩ := h
  obtain ⟨turns', hcourse', rfl⟩ := h'
  exact ⟨_, hcourse.trans hcourse', List.flatMap_append⟩

theorem yields_of_act? {a : Act} (hact : s.act? a = some s') :
    Yields s (Turn.mk s a s').sights s' :=
  ⟨_, Course.step .start hact, List.append_nil _⟩

theorem yields_of_move? {m : RecorderMove} {contact : Option Contact}
    (hmove : s.move? m = some (s', contact)) :
    Yields s (Turn.mk s (.move m) s').sights s' :=
  yields_of_act? (by rw [act?, hmove, Option.map_some])

/-- A move that only goes on with the command under way shows what that answers. -/
theorem Yields.goes {m : RecorderMove} {contact : Option Contact} (h : Yields s report s')
    (hgoes : m.GoesOn) (hmove : s'.move? m = some (s'', contact)) :
    Yields s (report ++ (Turn.mk s' (.move m) s'').result?.toList.map .result) s'' := by
  have hsights : (Turn.mk s' (.move m) s'').sights =
      (Turn.mk s' (.move m) s'').result?.toList.map .result := by
    cases hgoes <;> rfl
  rw [← hsights]
  exact h.trans (yields_of_move? hmove)

theorem yields_passTo (r : Recorder) (instant : Nat) :
    Yields ⟨r, none⟩ [] ⟨r.passTo instant, none⟩ := by
  have hsettled : Yields ⟨r, none⟩ [] ⟨r.settleBefore (instant + 1) r.budget, none⟩ :=
    goes_settleBefore (P := fun s result => Yields ⟨r, none⟩ (result.toList.map .result) s)
      (fun h hgoes hmove => h.goes hgoes hmove) (.refl _) _ _
  have hmoved : Yields ⟨r.settleBefore (instant + 1) r.budget, none⟩ []
      ⟨r.passTo instant, none⟩ :=
    yields_of_act? (a := .move (.pass _)) rfl
  exact hsettled.trans hmoved

/-! ## Calls -/

/-- A command that ends is run by turns: it is given, and answers once. -/
theorem yields_run {c : RecorderCommand} {result : Except RecorderError RecorderReply}
    (h : r.run c = (r', some result)) : Yields ⟨r, none⟩ [.command c, .result result] ⟨r', none⟩ := by
  obtain ⟨q, hended, rfl⟩ := goes_run
    (P := fun s result => Yields ⟨r, none⟩ (.command c :: result.toList.map .result) s)
    (fun h hgoes hmove => h.goes hgoes hmove) (yields_of_move? (m := .begin c) rfl) h
  exact hended.trans (yields_passTo q q.now)

theorem yields_send (r : Recorder) (chunk : ByteArray) :
    Yields ⟨r, none⟩ (if (r.send chunk).2.isSome then [.chunk chunk] else [])
      ⟨(r.send chunk).1, none⟩ := by
  unfold Recorder.send
  split
  · exact .refl _
  · next i hstream =>
      split
      · next hrunning =>
          let emitted := r.modifyPump i fun p => { p with queue := p.queue ++ [chunk] }
          have hmove : move? ⟨r, none⟩ (.emit chunk) =
              some (⟨{ emitted with timeline := r.timeline.wake i }, none⟩, none) := by
            simp only [move?, hstream, Option.bind_some, if_pos hrunning]
            rfl
          have hyields := (yields_of_move? hmove).trans (yields_passTo _ r.now)
          rwa [List.append_nil] at hyields
      · next hstill =>
          have hact : act? ⟨r, none⟩ (.unread chunk) = some ⟨r, none⟩ := by
            simp only [act?, hstream, Option.bind_some, if_neg hstill]
          exact yields_of_act? hact

theorem yields_perform {c : RecorderCall} (h : r.perform c = some r') :
    Yields ⟨r, none⟩ (r.sights c) ⟨r', none⟩ := by
  cases c with
  | run c =>
      rw [Recorder.perform] at h
      split at h
      · next last result hrun =>
          obtain rfl := Option.some.inj h
          rw [Recorder.sights, hrun]
          exact yields_run hrun
      · cases h
  | send chunk =>
      obtain rfl := Option.some.inj h
      exact yields_send r chunk
  | on name handler =>
      obtain rfl := Option.some.inj h
      exact yields_of_act? (a := .move (.on name handler)) rfl
  | passTo instant =>
      obtain rfl := Option.some.inj h
      exact yields_passTo r instant

/-- Whatever is asked of a recorder is done by a course with the same report. -/
theorem course_of_reports {calls : List RecorderCall} (h : r.reports calls = some (r', report)) :
    ∃ turns, Course ⟨r, none⟩ turns ⟨r', none⟩ ∧ sightsOf turns = report := by
  induction calls generalizing r report with
  | nil =>
      obtain ⟨rfl, rfl⟩ := Prod.mk.inj (Option.some.inj h)
      exact Yields.refl _
  | cons c rest ih =>
      obtain ⟨next, hnext, hrest⟩ := Option.bind_eq_some_iff.1 h
      obtain ⟨⟨last, later⟩, hlast, heq⟩ := Option.map_eq_some_iff.1 hrest
      obtain ⟨rfl, rfl⟩ := Prod.mk.inj heq
      exact (yields_perform hnext).trans (ih hlast)

/-! ## Plays -/

/-- Some play leads from one scene to another. -/
def Reaches (s s' : Scene) : Prop := ∃ moves log, s.play moves = some (s', log)

theorem Reaches.refl (s : Scene) : Reaches s s := ⟨[], [], rfl⟩

theorem Reaches.head {m : RecorderMove} {contact : Option Contact}
    (hmove : s.move? m = some (s', contact)) (h : Reaches s' s'') : Reaches s s'' := by
  obtain ⟨moves, log, hplay⟩ := h
  refine ⟨m :: moves, contact.toList ++ log, ?_⟩
  rw [play] at hplay ⊢
  simp [playMoves, hmove, hplay]

theorem Reaches.trans (h : Reaches s s') (h' : Reaches s' s'') : Reaches s s'' := by
  obtain ⟨moves, log, hplay⟩ := h
  induction moves generalizing s log with
  | nil =>
      obtain ⟨rfl, -⟩ := Prod.mk.inj (Option.some.inj hplay)
      exact h'
  | cons m rest ih =>
      obtain ⟨next, contact, later, hmove, hlater, -⟩ := playMoves_cons_eq_some hplay
      exact .head hmove (ih later hlater)

/-- A chunk that is not read changes nothing, so a course is a play. -/
theorem Course.reaches {turns : List Turn} (h : Course s turns s') : Reaches s s' := by
  induction h with
  | start => exact .refl _
  | @step turns s₁ s₂ a sofar acted ih =>
      refine ih.trans ?_
      cases a with
      | move m =>
          obtain ⟨⟨last, contact⟩, hmove, rfl⟩ := Option.map_eq_some_iff.1 acted
          exact .head hmove (.refl _)
      | unread chunk =>
          obtain ⟨i, -, heq⟩ := Option.bind_eq_some_iff.1 acted
          obtain ⟨-, heq⟩ := Option.ite_none_left_eq_some.1 heq
          obtain rfl := Option.some.inj heq
          exact .refl _

end Scene

end StudySession

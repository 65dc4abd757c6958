import StudySession.Proofs.Upload.Standing

/-!
# Traffic with any store

`Traffic` is a transfer without its store: an upload and the calls in the air, each answered in any
way at all. What holds of every `Traffic.Run` therefore holds whatever the store does, and of every
`Transfer.Run` in particular (`Transfer.Run.traffic`), since a call that fails on its way looks to
the upload like one that was refused.

A step is made by the owner's command, by the owner's call or by a part; `Traffic.Moved` lists what
each comes to. What the upload did and was told is read from the history of a run.
-/

namespace StudySession

/-! ## What is read from a run -/

/-- Whether a call drops an upload. -/
def StoreCall.isAbort : StoreCall → Bool
  | abort _ _ => true
  | _ => false

/-- Whether an effect ends a command that answers nothing. -/
def Effect.isDone : Effect → Bool
  | finished (.ok .done) => true
  | _ => false

namespace Happening

/-- The call that is made on the store, and its caller. -/
def made? : Happening → Option (Caller × StoreCall)
  | reached who call _ => some (who, call)
  | failed who call _ => some (who, call)
  | _ => none

/-- The command that the owner gives. -/
def command? : Happening → Option Command
  | told c _ => some c
  | _ => none

/-- The chunk that is given and taken in. -/
def accepted? : Happening → Option ByteArray
  | told (.accept chunk) effects => if effects.any Effect.isDone then some chunk else none
  | _ => none

/-- The same as an upload sees it, which cannot tell a failed call from a refused one. -/
def seen : Happening → Happening
  | failed who call error => reached who call (.error error)
  | h => h

/-- Where no command is given, no chunk is. -/
theorem chunk?_of_command? {h : Happening} (hnone : h.command? = none) : h.chunk? = none := by
  cases h with
  | told c effects => cases hnone
  | _ => rfl

theorem accepted?_of_command? {h : Happening} (hnone : h.command? = none) :
    h.accepted? = none := by
  cases h with
  | told c effects => cases hnone
  | _ => rfl

theorem flushed_of_command? {h : Happening} (hnone : h.command? = none) : h.flushed = [] := by
  cases h with
  | told c effects => cases hnone
  | _ => rfl

end Happening

/-- The calls made on the store, in order. -/
def callsMade (trace : List Happening) : List StoreCall :=
  (trace.filterMap Happening.made?).map (·.2)

/-- The calls made to drop the upload. -/
def abortsMade (trace : List Happening) : List StoreCall := (callsMade trace).filter (·.isAbort)

/-- The latest command. -/
def lastCommand? (trace : List Happening) : Option Command :=
  (trace.filterMap Happening.command?).getLast?

/-- The chunks taken in, in order. -/
def chunksAccepted (trace : List Happening) : List ByteArray :=
  trace.filterMap Happening.accepted?

section Histories

variable {trace later : List Happening} {h : Happening}

@[simp] theorem callsMade_nil : callsMade [] = [] := rfl

@[simp] theorem callsMade_append :
    callsMade (trace ++ later) = callsMade trace ++ callsMade later := by
  simp [callsMade]

theorem callsMade_snoc_of_none (hnone : h.made? = none) :
    callsMade (trace ++ [h]) = callsMade trace := by
  simp [callsMade, hnone]

@[simp] theorem abortsMade_nil : abortsMade [] = [] := rfl

@[simp] theorem abortsMade_append :
    abortsMade (trace ++ later) = abortsMade trace ++ abortsMade later := by
  simp [abortsMade]

/-- What makes no call drops nothing. -/
theorem abortsMade_snoc_of_none (hnone : h.made? = none) :
    abortsMade (trace ++ [h]) = abortsMade trace := by
  simp [abortsMade, callsMade, hnone]

/-- Nor does another call. -/
theorem abortsMade_snoc_of_some {who : Caller} {call : StoreCall}
    (hmade : h.made? = some (who, call)) :
    abortsMade (trace ++ [h]) = abortsMade trace ++ if call.isAbort then [call] else [] := by
  cases hcall : call.isAbort <;> simp [abortsMade, callsMade, hmade, hcall]

@[simp] theorem chunksAccepted_nil : chunksAccepted [] = [] := rfl

theorem chunksAccepted_snoc : chunksAccepted (trace ++ [h]) = chunksAccepted trace ++ h.accepted?.toList := by
  rw [chunksAccepted, List.filterMap_append]
  cases haccepted : h.accepted? with
  | none => simp [chunksAccepted, haccepted]
  | some chunk => simp [chunksAccepted, haccepted]

theorem lastCommand?_snoc_of_none (hnone : h.command? = none) :
    lastCommand? (trace ++ [h]) = lastCommand? trace := by
  simp [lastCommand?, hnone]

theorem lastCommand?_snoc_of_some {c : Command} (hsome : h.command? = some c) :
    lastCommand? (trace ++ [h]) = some c := by
  simp [lastCommand?, hsome]

end Histories

/-! ## Steps -/

/-- An upload and the calls in the air. -/
structure Traffic where
  upload : Upload
  /-- The call that each caller has in the air. -/
  flying : Caller → Option Flight

namespace Traffic

/-- Before anything happened. -/
def start (config : UploadConfig) (name : String) : Traffic := ⟨.new config name, fun _ => none⟩

/-- One thing happens. A call that is made may be answered in any way. -/
inductive Step : Traffic → Happening → Traffic → Prop where
  | tell {w : Traffic} {c : Command} {u : Upload} {effects : List Effect}
      (idle : w.upload.awaiting = none) (react : w.upload.react (.command c) = (u, effects)) :
      Step w (.told c effects) ⟨u, Transfer.launch w.flying effects⟩
  | reach {w : Traffic} {who : Caller} {call : StoreCall} {answer : Except StoreError String}
      (expected : w.upload.expects who = true) (flying : w.flying who = some ⟨call, none⟩) :
      Step w (.reached who call answer)
        ⟨w.upload, Function.update w.flying who (some ⟨call, some answer⟩)⟩
  | answer {w : Traffic} {who : Caller} {call : StoreCall} {answer : Except StoreError String}
      {u : Upload} {effects : List Effect} (expected : w.upload.expects who = true)
      (flying : w.flying who = some ⟨call, some answer⟩)
      (react : w.upload.react (.answered who answer) = (u, effects)) :
      Step w (.answered who call answer effects)
        ⟨u, Transfer.launch (Function.update w.flying who none) effects⟩
  | die {w : Traffic} {number : Nat} {u : Upload} {effects : List Effect}
      (expected : w.upload.expects (.part number) = true)
      (react : w.upload.react (.died (.part number)) = (u, effects)) :
      Step w (.died number effects)
        ⟨u, Transfer.launch (Function.update w.flying (.part number) none) effects⟩

/-- Some things happen in order. -/
inductive Run (first : Traffic) : List Happening → Traffic → Prop where
  | start : Run first [] first
  | step {trace : List Happening} {w w' : Traffic} {h : Happening} (sofar : Run first trace w)
      (step : Step w h w') : Run first (trace ++ [h]) w'

/-- A run goes through a moment between any two things that happen. -/
theorem Run.split {first w : Traffic} {before after : List Happening}
    (hrun : Run first (before ++ after) w) :
    ∃ between, Run first before between ∧ Run between after w := by
  induction after using List.reverseRecOn generalizing w with
  | nil => exact ⟨w, by simpa using hrun, .start⟩
  | append_singleton after h ih =>
      generalize htrace : before ++ (after ++ [h]) = trace at hrun
      cases hrun with
      | start => simp at htrace
      | @step earlier w₁ _ h' sofar step =>
          rw [← List.append_assoc] at htrace
          obtain ⟨rfl, hlast⟩ := List.append_inj' htrace rfl
          obtain rfl : h = h' := by simpa using hlast
          obtain ⟨between, hbefore, hafter⟩ := ih sofar
          exact ⟨between, hbefore, .step hafter step⟩

theorem Run.single {w w' : Traffic} {h : Happening} (hrun : Run w [h] w') : Step w h w' := by
  generalize htrace : [h] = trace at hrun
  cases hrun with
  | start => cases htrace
  | @step earlier _ _ last sofar step =>
      have hsplit : [] ++ [h] = earlier ++ [last] := htrace
      obtain ⟨rfl, hlast⟩ := List.append_inj' hsplit rfl
      obtain rfl : h = last := by simpa using hlast
      generalize hnone : ([] : List Happening) = earlier at sofar
      cases sofar with
      | start => exact step
      | step _ _ => simp at hnone

/-- Whatever happens in a run is a step between what was before and what comes after. -/
theorem Run.split_cons {first w : Traffic} {before after : List Happening} {h : Happening}
    (hrun : Run first (before ++ h :: after) w) :
    ∃ w₁ w₂, Run first before w₁ ∧ Step w₁ h w₂ ∧ Run w₂ after w := by
  obtain ⟨w₁, hbefore, hrest⟩ := hrun.split
  rw [← List.singleton_append] at hrest
  obtain ⟨w₂, hsingle, hafter⟩ := hrest.split
  exact ⟨w₁, w₂, hbefore, hsingle.single, hafter⟩

end Traffic

/-! ## Transfers are traffic -/

namespace Transfer

/-- What an upload knows of a transfer. -/
def traffic (w : Transfer) : Traffic := ⟨w.upload, w.flying⟩

theorem Step.traffic {w w' : Transfer} {h : Happening} (hstep : Step w h w') :
    Traffic.Step w.traffic h.seen w'.traffic := by
  cases hstep with
  | tell idle react => exact .tell idle react
  | reach expected flying perform => exact .reach expected flying
  | fail expected flying => exact .reach expected flying
  | answer expected flying react => exact .answer expected flying react
  | die expected react => exact .die expected react

/-- A run against the in-memory store is one of the runs against any store. -/
theorem Run.traffic {first w : Transfer} {trace : List Happening} (hrun : Run first trace w) :
    Traffic.Run first.traffic (trace.map Happening.seen) w.traffic := by
  induction hrun with
  | start => exact .start
  | step sofar step ih =>
      rw [List.map_append]
      exact .step ih step.traffic

end Transfer

/-! ## Moves -/

namespace Traffic

/-- What a step comes to, by whose it is. -/
inductive Moved (w : Traffic) : Happening → Traffic → Prop where
  | told {c : Command} {u : Upload} {effects : List Effect} (idle : w.upload.awaiting = none)
      (begun : Upload.begin w.upload.session c = (u, effects)) :
      Moved w (.told c effects) ⟨u, Transfer.launch w.flying effects⟩
  | ownerReached {purpose : Purpose} {asked call : StoreCall} {attempt : Nat}
      {answer : Except StoreError String}
      (awaiting : w.upload.awaiting = some (.store purpose asked attempt))
      (flying : w.flying .owner = some ⟨call, none⟩) :
      Moved w (.reached .owner call answer)
        ⟨w.upload, Function.update w.flying .owner (some ⟨call, some answer⟩)⟩
  | ownerAnswered {purpose : Purpose} {asked call : StoreCall} {attempt : Nat}
      {answer : Except StoreError String} {result : Upload × List Effect}
      (awaiting : w.upload.awaiting = some (.store purpose asked attempt))
      (flying : w.flying .owner = some ⟨call, some answer⟩)
      (told : Upload.OwnerTold w.upload purpose asked attempt answer result) :
      Moved w (.answered .owner call answer result.2)
        ⟨result.1, Transfer.launch (Function.update w.flying .owner none) result.2⟩
  | partReached {task : PartTask} {call : StoreCall} {answer : Except StoreError String}
      (onWay : task ∈ w.upload.session.tasks)
      (flying : w.flying (.part task.number) = some ⟨call, none⟩) :
      Moved w (.reached (.part task.number) call answer)
        ⟨w.upload, Function.update w.flying (.part task.number) (some ⟨call, some answer⟩)⟩
  | partAnswered {task : PartTask} {call : StoreCall} {answer : Except StoreError String}
      {result : Upload × List Effect} (onWay : task ∈ w.upload.session.tasks)
      (told : Upload.PartTold w.upload task answer result) :
      Moved w (.answered (.part task.number) call answer result.2)
        ⟨result.1, Transfer.launch (Function.update w.flying (.part task.number) none) result.2⟩
  | partDied {task : PartTask} {u : Upload} {effects : List Effect}
      (onWay : task ∈ w.upload.session.tasks)
      (dropped : w.upload.partDied task.number = (u, effects)) :
      Moved w (.died task.number effects)
        ⟨u, Transfer.launch (Function.update w.flying (.part task.number) none) effects⟩

theorem exists_task_of_expects {u : Upload} {number : Nat}
    (h : u.expects (.part number) = true) : ∃ task ∈ u.session.tasks, task.number = number := by
  obtain ⟨task, htask, hnumber⟩ := List.any_eq_true.1 h
  exact ⟨task, htask, beq_iff_eq.1 hnumber⟩

/-- Every step is one of these moves. -/
theorem Step.moved {w w' : Traffic} {h : Happening} (hstep : Step w h w') : Moved w h w' := by
  cases hstep with
  | tell idle react =>
      rw [Upload.react, idle] at react
      exact .told idle react
  | @reach who call answer expected flying =>
      cases who with
      | owner =>
          obtain ⟨purpose, asked, attempt, hawaiting⟩ := Transfer.exists_awaiting_of_expects expected
          exact .ownerReached hawaiting flying
      | part number =>
          obtain ⟨task, htask, rfl⟩ := exists_task_of_expects expected
          exact .partReached htask flying
  | @answer who call answer u effects expected flying react =>
      cases who with
      | owner =>
          obtain ⟨purpose, asked, attempt, hawaiting⟩ := Transfer.exists_awaiting_of_expects expected
          have hmoved := Moved.ownerAnswered hawaiting flying
            (Upload.ownerTold_of_awaiting hawaiting answer)
          rwa [react] at hmoved
      | part number =>
          obtain ⟨task, htask, rfl, htold⟩ := Upload.partTold_of_expects expected answer
          have hmoved : Moved w (.answered (.part task.number) call answer _) _ :=
            .partAnswered htask htold
          rwa [react] at hmoved
  | die expected react =>
      obtain ⟨task, htask, rfl⟩ := exists_task_of_expects expected
      exact .partDied htask react

/-- Where no part is on its way, parts do nothing. -/
theorem not_onWay_of_quiet {u : Upload} {task : PartTask} (hquiet : u.session.tasks = []) :
    task ∉ u.session.tasks := by
  rw [hquiet]
  exact List.not_mem_nil

/-- At rest with no part on its way, only a command can happen. -/
theorem Moved.told_of_idle {w w' : Traffic} {h : Happening} (hmoved : Moved w h w')
    (hquiet : w.upload.session.tasks = []) (hidle : w.upload.awaiting = none) :
    ∃ c u effects, h = .told c effects ∧ w' = ⟨u, Transfer.launch w.flying effects⟩ ∧
      Upload.begin w.upload.session c = (u, effects) := by
  cases hmoved with
  | told idle begun => exact ⟨_, _, _, rfl, rfl, begun⟩
  | ownerReached awaiting flying => rw [hidle] at awaiting; cases awaiting
  | ownerAnswered awaiting flying told => rw [hidle] at awaiting; cases awaiting
  | partReached onWay flying => exact absurd onWay (not_onWay_of_quiet hquiet)
  | partAnswered onWay told => exact absurd onWay (not_onWay_of_quiet hquiet)
  | partDied onWay dropped => exact absurd onWay (not_onWay_of_quiet hquiet)

end Traffic

end StudySession

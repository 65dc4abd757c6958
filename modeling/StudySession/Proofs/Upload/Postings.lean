import StudySession.Proofs.Upload.Accounts
import StudySession.Proofs.Upload.Books

/-!
# Calls that are due

Parts are numbered in the order in which they are submitted, and no number is given twice. So a call
that is due for a part is the call of its task as long as the task is there, however late the call
is made (`Session.Carries`). `Upload.Posted` is what a reaction comes to for the calls that are due:
those of the owner are the ones it waits for, and those of parts are carried.
-/

namespace StudySession

namespace Session

/-- A number was given to a part, and a task of that number, if one is left, makes the call. -/
structure Carries (s : Session) (number : Nat) (call : StoreCall) : Prop where
  submitted : number ≤ s.parts.length
  task : ∀ task ∈ s.tasks, task.number = number → task.call = call

/-- Tasks of one number make one call. -/
def Numbered (s : Session) : Prop := ∀ task ∈ s.tasks, s.Carries task.number task.call

/-- A session has the parts of an earlier one and perhaps more, and its tasks for the earlier parts
were there before. -/
structure Leads (s s' : Session) : Prop where
  parts : s.parts.length ≤ s'.parts.length
  tasks : ∀ task ∈ s'.tasks, task.number ≤ s.parts.length →
    ∃ t ∈ s.tasks, task.number = t.number ∧ task.call = t.call

variable {s s' s'' : Session}

theorem Leads.trans (h : Leads s s') (h' : Leads s' s'') : Leads s s'' := by
  refine ⟨h.parts.trans h'.parts, fun task htask hnumber => ?_⟩
  obtain ⟨t', ht', hnumber', hcall'⟩ := h'.tasks task htask (hnumber.trans h.parts)
  obtain ⟨t, ht, hsame, hcall⟩ := h.tasks t' ht' (hnumber' ▸ hnumber)
  exact ⟨t, ht, hnumber'.trans hsame, hcall'.trans hcall⟩

/-- What was carried goes on being carried. -/
theorem Leads.carries (h : Leads s s') {number : Nat} {call : StoreCall}
    (hcarries : s.Carries number call) : s'.Carries number call := by
  refine ⟨hcarries.submitted.trans h.parts, fun task htask hnumber => ?_⟩
  obtain ⟨t, ht, hsame, hcall⟩ := h.tasks task htask (hnumber ▸ hcarries.submitted)
  exact hcall.trans (hcarries.task t ht (hsame ▸ hnumber))

/-- Tasks go, or try again. -/
theorem leads_of_among (hparts : s'.parts.length = s.parts.length)
    (htasks : Transfer.TasksAmong s'.tasks s.tasks) : Leads s s' := by
  refine ⟨hparts.ge, fun task htask _ => ?_⟩
  obtain ⟨t, ht, hnumber, -, hcall⟩ := htasks task htask
  exact ⟨t, ht, hnumber, hcall⟩

theorem leads_with_tasks {tasks : List PartTask} (htasks : Transfer.TasksAmong tasks s.tasks) :
    Leads s { s with tasks } :=
  leads_of_among rfl htasks

theorem Numbered.among (h : s.Numbered) (hparts : s'.parts.length = s.parts.length)
    (htasks : Transfer.TasksAmong s'.tasks s.tasks) : s'.Numbered := by
  intro task htask
  obtain ⟨t, ht, hnumber, -, hcall⟩ := htasks task htask
  rw [hnumber, hcall]
  exact (leads_of_among hparts htasks).carries (h t ht)

/-- The part that is submitted has the next number. -/
theorem leads_submit (s : Session) (pending : ByteArray) (id : String) :
    Leads s ({ s with pending }.submit id).1 := by
  refine ⟨?_, fun task htask hnumber => ?_⟩
  · rw [submit, List.length_append]
    exact Nat.le_add_right _ _
  · rcases List.mem_append.1 htask with htask | htask
    · exact ⟨task, htask, rfl, rfl⟩
    · rw [List.mem_singleton.1 htask] at hnumber
      exact absurd hnumber (Nat.not_succ_le_self _)

theorem carries_submit (h : s.Numbered) (pending : ByteArray) (id : String) :
    ({ s with pending }.submit id).1.Carries (s.parts.length + 1)
      (.part s.key id (s.parts.length + 1) pending) := by
  refine ⟨by rw [submit, List.length_append]; exact le_rfl, fun task htask hnumber => ?_⟩
  rcases List.mem_append.1 htask with htask | htask
  · exact absurd (hnumber ▸ (h task htask).submitted) (Nat.not_succ_le_self _)
  · rw [List.mem_singleton.1 htask]

theorem Numbered.submit (h : s.Numbered) (pending : ByteArray) (id : String) :
    ({ s with pending }.submit id).1.Numbered := by
  intro task htask
  rcases List.mem_append.1 htask with hbefore | hnew
  · exact (leads_submit s pending id).carries (h task hbefore)
  · rw [List.mem_singleton.1 hnew]
    exact carries_submit h pending id

end Session

open Session

namespace Upload

/-- What a reaction comes to for the calls that are due. `kept` are those of the owner that were due
before and still are. -/
structure Posted (kept : List StoreCall) (s : Session) (out : Upload × List Effect) : Prop where
  asked : Effect.asked out.2 ++ kept = out.1.asking
  numbered : out.1.session.Numbered
  leads : Leads s out.1.session
  calls : ∀ number after call, .call (.part number) after call ∈ out.2 →
    out.1.session.Carries number call

variable {s s' : Session} {u : Upload} {id : String} {out : Upload × List Effect}

theorem Posted.after {kept : List StoreCall} (h : Posted kept s' out) (hleads : Leads s s') :
    Posted kept s out :=
  ⟨h.asked, h.numbered, hleads.trans h.leads, h.calls⟩

/-- Where nothing is done, the owner's call stays due. -/
theorem Posted.still (h : u.session.Numbered) : Posted u.asking u.session (u, []) :=
  ⟨rfl, h, leads_of_among rfl (.refl _), by simp⟩

/-- Tasks may go, and neither what is pending nor the phase matters. -/
theorem Posted.finish (h : s.Numbered) {phase : Phase} {pending : ByteArray} {tasks : List PartTask}
    (htasks : Transfer.TasksAmong tasks s.tasks) {result : Except UploadError Outcome} :
    Posted [] s (finish { s with phase, pending, tasks } result) :=
  have hleads : Leads s { s with phase, pending, tasks } := leads_of_among rfl htasks
  ⟨rfl, h.among rfl htasks, hleads, by simp [Upload.finish]⟩

theorem Posted.ask (h : s.Numbered) {phase : Phase} {pending : ByteArray} {tasks : List PartTask}
    (htasks : Transfer.TasksAmong tasks s.tasks) {purpose : Purpose} {call : StoreCall} :
    Posted [] s (ask { s with phase, pending, tasks } purpose call) :=
  have hleads : Leads s { s with phase, pending, tasks } := leads_of_among rfl htasks
  ⟨rfl, h.among rfl htasks, hleads, by simp [Upload.ask]⟩

/-- What is given up drops its tasks. -/
theorem Posted.fail (h : s.Numbered) (error : UploadError) : Posted [] s (fail s error) := by
  unfold Upload.fail
  dsimp only
  split
  · exact .ask h (.nil _)
  · exact .finish h (.nil _)

theorem Joined.posted (hjoined : Joined s id out) (h : s.Numbered) : Posted [] s out := by
  cases hjoined with
  | waits busy => exact ⟨rfl, h, leads_of_among rfl (.refl _), by simp⟩
  | completes quiet acked nonempty => exact .ask h (.refl _)
  | fails error => exact .fail h error

theorem Told.posted {c : Command} (htold : Told s id c out) (h : s.Numbered) : Posted [] s out := by
  cases htold with
  | reopened => exact .finish h (.refl _)
  | refused gate lost => exact .fail h _
  | gathered healthy few => exact .finish h (.refl _)
  | @flushed chunk healthy enough =>
      refine ⟨rfl, h.submit _ id, leads_submit s _ id, fun number after call hcall => ?_⟩
      obtain ⟨rfl, -, rfl⟩ : number = _ ∧ _ ∧ call = _ := by simpa using hcall
      exact carries_submit h _ id
  | sent => exact .ask h (.refl _)
  | joined healthy empty joined => exact joined.posted h
  | flushedLast healthy rest =>
      refine ⟨rfl, h.submit s.pending id, leads_submit s s.pending id,
        fun number after call hcall => ?_⟩
      obtain ⟨rfl, -, rfl⟩ : number = _ ∧ _ ∧ call = _ := by simpa using hcall
      exact carries_submit h s.pending id
  | aborted => exact .ask h (.nil _)

theorem posted_begin (h : s.Numbered) (c : Command) : Posted [] s (begin s c) := by
  have hbegun := begun_begin s c
  generalize begin s c = out at hbegun
  cases hbegun with
  | creating phase => exact .ask h (.refl _)
  | told phase told => exact told.posted h
  | dismissed shut refused => exact .finish h (.refl _)
  | failed shut lost => exact .fail h _

theorem OwnerTold.posted {purpose : Purpose} {call : StoreCall} {attempt : Nat}
    {answer : Except StoreError String} (htold : OwnerTold u purpose call attempt answer out)
    (h : u.session.Numbered) : Posted [] u.session out := by
  cases htold with
  | again retried pause => exact ⟨rfl, h, leads_of_among rfl (.refl _), by simp⟩
  | concluded last =>
      cases purpose with
      | completing id listed total =>
          cases answer with
          | ok tag => exact .finish h (.refl _)
          | error e => exact .fail h _
      | _ => cases answer <;> exact .finish h (.refl _)

/-- An owner that waits for the end of its parts asks for nothing. -/
theorem posted_afterPart (h : u.session.Numbered) : Posted u.asking u.session u.afterPart := by
  rcases afterPart_cases u with ⟨id, hwaits, hjoined⟩ | ⟨-, hnone⟩
  · have hasking : u.asking = [] := by rw [asking, hwaits]
    rw [hasking]
    exact hjoined.posted h
  · rw [hnone]
    exact .still h

/-- A part is on its way no longer. -/
theorem Posted.settled (h : u.session.Numbered) {parts : List Part} {tasks : List PartTask}
    (hparts : parts.length = u.session.parts.length)
    (htasks : Transfer.TasksAmong tasks u.session.tasks) :
    Posted u.asking u.session
      (afterPart { u with session := { u.session with parts, tasks } }) := by
  have hleads : Leads u.session { u.session with parts, tasks } := leads_of_among hparts htasks
  have hposted := posted_afterPart (u := { u with session := { u.session with parts, tasks } })
    (h.among hparts htasks)
  exact hposted.after hleads

theorem PartTold.posted {task : PartTask} {answer : Except StoreError String}
    (htold : PartTold u task answer out) (htask : task ∈ u.session.tasks)
    (h : u.session.Numbered) : Posted u.asking u.session out := by
  cases htold with
  | acknowledged => exact .settled h (List.length_map _) (Transfer.tasksAmong_filter _ _)
  | lost pause => exact .settled h (List.length_map _) (Transfer.tasksAmong_filter _ _)
  | again pause =>
      have hamong := Transfer.tasksAmong_again task.number u.session.tasks
      have hleads := leads_with_tasks hamong
      refine ⟨rfl, h.among rfl hamong, hleads, fun number after call hcall => ?_⟩
      obtain ⟨hnumber, -, rfl⟩ := Effect.call.inj (List.mem_singleton.1 hcall)
      obtain rfl := Caller.part.inj hnumber
      exact hleads.carries (h task htask)

/-- The call of the owner that stays due whatever an event comes to. -/
def asksOn (u : Upload) : Event → List StoreCall
  | .answered .owner _ | .died .owner => []
  | _ => u.asking

/-- Whatever happens, the calls that are due are those that are waited for. -/
theorem posted_react (h : u.session.Numbered) (event : Event) :
    Posted (u.asksOn event) u.session (u.react event) := by
  cases event with
  | command c =>
      rw [react]
      split
      · next hidle =>
          have hasking : u.asksOn (.command c) = [] := by simp only [asksOn, asking, hidle]
          rw [hasking]
          exact posted_begin h c
      · exact .still h
  | answered who answer =>
      cases who with
      | owner =>
          rcases hawaiting : u.awaiting with _ | ⟨purpose, call, attempt⟩ | id
          · have hstill := Posted.still h
            rw [asking, hawaiting] at hstill
            rw [react, ownerAnswered, hawaiting]
            exact hstill
          · exact (ownerTold_of_awaiting hawaiting answer).posted h
          · have hstill := Posted.still h
            rw [asking, hawaiting] at hstill
            rw [react, ownerAnswered, hawaiting]
            exact hstill
      | part number =>
          by_cases hexpected : u.expects (.part number) = true
          · obtain ⟨task, htask, -, htold⟩ := partTold_of_expects hexpected answer
            exact htold.posted htask h
          · have hnone : u.session.tasks.find? (·.number == number) = none := by
              rw [List.find?_eq_none]
              simpa [expects] using hexpected
            rw [react, partAnswered]
            dsimp only
            rw [hnone]
            exact .still h
  | died who =>
      cases who with
      | owner => exact .finish h (.nil _)
      | part number =>
          rw [react, partDied]
          split
          · exact .settled h rfl (Transfer.tasksAmong_filter _ _)
          · exact .still h

end Upload

end StudySession

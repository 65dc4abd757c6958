import Mathlib.Algebra.BigOperators.Group.Finset.Basic
import Mathlib.Algebra.Order.BigOperators.Group.Finset
import Mathlib.Algebra.BigOperators.Group.List.Basic
import StudySession.Proofs.Upload.Schedules
import StudySession.Proofs.Upload.Standing

/-!
# The work that is left

However a script lets the calls of some uploads end, they come to an end: no upload makes calls for
ever. What is left to do is counted by the agenda, by what is left of the script and by how far each
upload has come (`Timeline.work`). An entry that happens uses up more than it leads to
(`Timeline.work_of_pop?`): a call that is made again was refused by the script, a call of the script
counts for more than any outcome of it, and an upload that goes on to another call is further on.
-/

namespace StudySession

/-! ## Uploads -/

/-- Only after a passing failure is a call made again. -/
theorem RetryPolicy.isTransient_of_pause? {policy : RetryPolicy} {attempt : Nat}
    {error : StoreError} {delay : Duration} (h : policy.pause? attempt error = some delay) :
    error.isTransient = true := by
  unfold pause? at h
  split at h
  · next hagain => exact hagain.1
  · cases h

/-- The work that a command brings along: a chunk may become a part. -/
def Command.work : Command → Nat
  | .create => 8
  | .accept _ | .sendPart _ _ | .abort => 2
  | .complete => 0

/-- The work of what an upload does. -/
def Effect.work : Effect → Nat
  | .call _ _ _ => 2
  | .finished _ => 0

/-- The work of all that an upload does. -/
def Effect.workOf (effects : List Effect) : Nat := (effects.map work).sum

namespace Upload

/-- The work that may follow what an upload waits for, or its next command, apart from calls that
were made already. -/
def work (u : Upload) : Nat :=
  match u.awaiting with
  | none =>
    match u.session.phase with
    | .opened _ => 6
    | _ => 0
  | some (.parts _) => 4
  | some (.store purpose _ _) =>
    match purpose with
    | .creating | .sending _ _ | .aborting => 6
    | .completing _ _ _ => 2
    | .failing _ => 0

/-- The work that an answer brings along: after a passing failure the call is made again. -/
def answerWork : Except StoreError String → Nat
  | .error e => if e.isTransient then 2 else 0
  | .ok _ => 0

theorem answerWork_le_two (answer : Except StoreError String) : answerWork answer ≤ 2 := by
  cases answer with
  | ok tag => exact Nat.zero_le 2
  | error e =>
      rw [answerWork]
      split <;> omega

/-- The work after a reaction. -/
def workAfter (out : Upload × List Effect) : Nat := out.1.work + Effect.workOf out.2

variable {s : Session} {u : Upload} {purpose : Purpose} {call : StoreCall} {attempt : Nat}

theorem work_le_six (u : Upload) : u.work ≤ 6 := by
  unfold work
  repeat' split
  all_goals omega

theorem workAfter_finish (s : Session) (result : Except UploadError Outcome) :
    workAfter (finish s result) ≤ 6 := by
  change work ⟨s, none⟩ + 0 ≤ 6
  rw [Nat.add_zero]
  exact work_le_six _

theorem workAfter_fail (s : Session) (error : UploadError) : workAfter (fail s error) ≤ 2 := by
  unfold fail
  dsimp only
  split
  · exact Nat.le_refl 2
  · exact Nat.zero_le 2

theorem Joined.workAfter_le {id : String} {out : Upload × List Effect} (h : Joined s id out) :
    workAfter out ≤ 4 := by
  cases h with
  | waits busy => exact Nat.le_refl 4
  | completes quiet acked nonempty => exact Nat.le_refl 4
  | fails error => exact Nat.le_trans (workAfter_fail s error) (by omega)

theorem workAfter_afterPart (u : Upload) : workAfter (afterPart u) ≤ u.work := by
  rcases afterPart_cases u with ⟨id, hawaiting, hjoined⟩ | ⟨-, heq⟩
  · have hwork : u.work = 4 := by rw [work, hawaiting]
    rw [hwork]
    exact hjoined.workAfter_le
  · rw [heq]
    exact Nat.le_refl _

theorem Told.workAfter_le {id : String} {c : Command} {out : Upload × List Effect}
    (h : Told s id c out) : workAfter out ≤ 6 + c.work := by
  cases h with
  | reopened => exact Nat.le_add_right_of_le (workAfter_finish ..)
  | refused gate lost =>
      have hfail := workAfter_fail s ‹_›
      omega
  | gathered healthy few => exact Nat.le_add_right_of_le (workAfter_finish ..)
  | flushed healthy enough =>
      change work _ + 2 ≤ 6 + 2
      exact Nat.add_le_add_right (work_le_six _) 2
  | sent => exact Nat.le_refl 8
  | joined healthy empty joined =>
      have hjoined := joined.workAfter_le
      omega
  | flushedLast healthy rest => exact Nat.le_refl 6
  | aborted => exact Nat.le_refl 8

/-- A command leads to no more work than there was, and what it brings along. -/
theorem workAfter_begin (s : Session) (c : Command) :
    workAfter (begin s c) ≤ work ⟨s, none⟩ + c.work := by
  have hbegun := begun_begin s c
  generalize begin s c = out at hbegun
  cases hbegun with
  | creating phase =>
      change 8 ≤ _ + 8
      omega
  | told phase told =>
      have hwork : work ⟨s, none⟩ = 6 := by rw [work, phase]
      rw [hwork]
      exact told.workAfter_le
  | dismissed shut refused => exact Nat.le_add_right ..
  | failed shut lost =>
      rw [fail_of_shut shut]
      exact Nat.zero_le _

theorem workAfter_conclude (hawaiting : u.awaiting = some (.store purpose call attempt))
    (answer : Except StoreError String) :
    workAfter (conclude u.session purpose attempt answer) ≤ u.work := by
  have hpurpose : u.work = work ⟨u.session, some (.store purpose call attempt)⟩ := by
    rw [work, hawaiting]
    rfl
  rw [hpurpose]
  cases purpose with
  | creating => cases answer <;> exact workAfter_finish ..
  | sending number size => cases answer <;> exact workAfter_finish ..
  | completing id parts total =>
      cases answer with
      | ok tag => exact Nat.zero_le 2
      | error e => exact workAfter_fail ..
  | failing error => exact Nat.le_refl 0
  | aborting => cases answer <;> exact workAfter_finish ..

/-- An answer leads to no more work than there was, unless the call is made again. -/
theorem workAfter_answered {who : Caller} (h : u.expects who = true)
    (answer : Except StoreError String) :
    workAfter (u.react (.answered who answer)) ≤ u.work + answerWork answer := by
  cases who with
  | owner =>
      obtain ⟨purpose, call, attempt, hawaiting⟩ := Transfer.exists_awaiting_of_expects h
      have htold := ownerTold_of_awaiting hawaiting answer
      generalize u.react (.answered .owner answer) = out at htold
      cases htold with
      | again retried pause =>
          have hwork : u.work = work ⟨u.session, some (.store purpose call (attempt + 1))⟩ := by
            rw [work, hawaiting]
            rfl
          rw [hwork, answerWork, if_pos (RetryPolicy.isTransient_of_pause? pause)]
          exact Nat.le_refl _
      | concluded last => exact Nat.le_add_right_of_le (workAfter_conclude hawaiting answer)
  | part number =>
      obtain ⟨task, -, -, htold⟩ := partTold_of_expects h answer
      generalize u.react (.answered (.part number) answer) = out at htold
      cases htold with
      | acknowledged => exact Nat.le_add_right_of_le (workAfter_afterPart _)
      | again pause =>
          rw [answerWork, if_pos (RetryPolicy.isTransient_of_pause? pause)]
          exact Nat.le_refl _
      | lost pause => exact Nat.le_add_right_of_le (workAfter_afterPart _)

theorem workAfter_died (u : Upload) (who : Caller) :
    workAfter (u.react (.died who)) ≤ u.work + 6 := by
  cases who with
  | owner => exact Nat.le_trans (workAfter_finish ..) (Nat.le_add_left ..)
  | part number =>
      rw [react, partDied]
      split
      · exact Nat.le_add_right_of_le (workAfter_afterPart _)
      · exact Nat.le_add_right ..

theorem workAfter_command (u : Upload) (c : Command) :
    workAfter (u.react (.command c)) ≤ u.work + c.work := by
  obtain ⟨s, awaiting⟩ := u
  cases awaiting with
  | none => exact workAfter_begin s c
  | some await => exact Nat.le_add_right ..

end Upload

/-- What cannot be assembled is refused for good. -/
theorem MemoryStore.isTransient_of_assemble {bodies : List (Nat × ByteArray)}
    {parts : List CompletedPart} {error : StoreError} (h : assemble bodies parts = .error error) :
    error.isTransient = false := by
  induction parts with
  | nil => cases h
  | cons p rest ih =>
      rw [assemble] at h
      split at h
      · obtain rfl := Except.error.inj h
        rfl
      · split at h
        · cases hrest : assemble bodies rest with
          | error e =>
              rw [hrest] at h
              obtain rfl := Except.error.inj h
              exact ih hrest
          | ok body =>
              rw [hrest] at h
              cases h
        · obtain rfl := Except.error.inj h
          rfl

/-! ## Scripts -/

/-- How many calls a script decides; of two entries under one name only the first counts. -/
def scriptedCalls (script : Dict (List ScriptedCall)) : Nat :=
  ∑ name ∈ script.keys.toFinset, ((script.get? name).getD []).length

/-- A call that the script decides is taken from it. -/
theorem scriptedCalls_insert {script : Dict (List ScriptedCall)} {name : String}
    {next : ScriptedCall} {rest : List ScriptedCall}
    (h : script.get? name = some (next :: rest)) :
    scriptedCalls (script.insert name rest) + 1 = scriptedCalls script := by
  have hkeys : (script.insert name rest).keys.toFinset = script.keys.toFinset := by
    ext other
    rw [List.mem_toFinset, List.mem_toFinset, Dict.mem_keys_iff, Dict.mem_keys_iff,
      Dict.get?_insert]
    split
    · next heq => simp [heq, h]
    · rfl
  have hmem : name ∈ script.keys.toFinset := by
    rw [List.mem_toFinset, Dict.mem_keys_iff, h]
    rfl
  have hothers : ∀ other ∈ script.keys.toFinset.erase name,
      (((script.insert name rest).get? other).getD []).length =
        ((script.get? other).getD []).length := fun other hother => by
    rw [Dict.get?_insert_of_ne (Finset.ne_of_mem_erase hother)]
  unfold scriptedCalls
  rw [hkeys, ← Finset.add_sum_erase _ _ hmem, ← Finset.add_sum_erase _ _ hmem,
    Finset.sum_congr rfl hothers, Dict.get?_insert_self, h]
  simp only [Option.getD_some, List.length_cons]
  omega

theorem scriptedCalls_le (script : Dict (List ScriptedCall)) :
    scriptedCalls script ≤ (script.map fun entry => entry.2.length).sum := by
  induction script with
  | nil => exact Nat.le_refl 0
  | cons entry rest ih =>
      obtain ⟨name, calls⟩ := entry
      have hothers : ∀ other ∈ (Dict.keys rest).toFinset.erase name,
          (((Dict.get? ((name, calls) :: rest) other).getD [])).length =
            ((Dict.get? rest other).getD []).length := fun other hother => by
        rw [Dict.get?_cons, if_neg (Finset.ne_of_mem_erase hother)]
      have hkeys : (Dict.keys ((name, calls) :: rest)).toFinset =
          insert name ((Dict.keys rest).toFinset.erase name) := by
        ext other
        by_cases heq : other = name <;> simp [Dict.keys, heq]
      have hrest : ∑ other ∈ (Dict.keys rest).toFinset.erase name,
          ((Dict.get? rest other).getD []).length ≤ scriptedCalls rest :=
        Finset.sum_le_sum_of_subset (Finset.erase_subset _ _)
      rw [scriptedCalls, hkeys, Finset.sum_insert (Finset.notMem_erase _ _),
        Finset.sum_congr rfl hothers, Dict.get?_cons, if_pos rfl, List.map_cons, List.sum_cons]
      exact Nat.add_le_add_left (Nat.le_trans hrest ih) _

theorem ScriptedStore.scriptedCalls_le_remaining (s : ScriptedStore) :
    scriptedCalls s.script ≤ s.remaining := by
  refine Nat.le_trans (scriptedCalls_le s.script) (Nat.le_of_eq ?_)
  rw [remaining, List.sum_eq_foldl, List.foldl_map]

/-! ## Timelines -/

/-- The work of a call that is to end: the next call, and where the owner dies, the next command. -/
def Verdict.work : Verdict → Nat
  | .passed => 1
  | .failed _ => 3
  | .deadly => 7

/-- The work of what is due. -/
def Due.work : Due → Nat
  | .make _ _ => 2
  | .settle _ _ verdict => verdict.work
  | .wake => 1

theorem Due.work_le_seven (d : Due) : d.work ≤ 7 := by
  cases d with
  | make who call => exact Nat.le_of_ble_eq_true rfl
  | settle who call verdict => cases verdict <;> exact Nat.le_of_ble_eq_true rfl
  | wake => exact Nat.le_of_ble_eq_true rfl

/-- The work of an agenda. -/
def agendaWork (agenda : List Appointment) : Nat := (agenda.map (·.due.work)).sum

theorem agendaWork_enter (agenda : List Appointment) (a : Appointment) :
    agendaWork (Timeline.enter agenda a) = a.due.work + agendaWork agenda :=
  ((Timeline.enter_perm agenda a).map _).sum_eq

theorem agendaWork_launched (now i : Nat) (effects : List Effect) :
    agendaWork (launched now i effects) = Effect.workOf effects := by
  induction effects with
  | nil => rfl
  | cons effect rest ih =>
      cases effect with
      | finished result =>
          change agendaWork (launched now i rest) = 0 + Effect.workOf rest
          rw [ih, Nat.zero_add]
      | call who after asked =>
          change 2 + agendaWork (launched now i rest) = 2 + Effect.workOf rest
          rw [ih]

/-- A place of a list gets a value for another. -/
theorem sum_map_set {α : Type} (f : α → Nat) {xs : List α} {i : Nat} {a : α} (h : xs[i]? = some a)
    (b : α) : ((xs.set i b).map f).sum + f a = (xs.map f).sum + f b := by
  induction xs generalizing i with
  | nil => simp at h
  | cons x rest ih =>
      cases i with
      | zero =>
          obtain rfl : x = a := by simpa using h
          simp only [List.set_cons_zero, List.map_cons, List.sum_cons]
          omega
      | succ i =>
          have hrest := ih (i := i) (by simpa using h)
          simp only [List.set_cons_succ, List.map_cons, List.sum_cons]
          omega

namespace Timeline

variable {t t' : Timeline} {i : Nat} {u : Upload}

/-- What is left to do on a timeline. -/
def work (t : Timeline) : Nat :=
  agendaWork t.agenda + 6 * scriptedCalls t.store.script + (t.uploads.map Upload.work).sum

theorem work_le_budget (t : Timeline) (chunks : Nat) : t.work + 2 * chunks ≤ t.budget chunks := by
  have hagenda : agendaWork t.agenda ≤ t.agenda.length * 7 := by
    rw [← List.length_map (fun a : Appointment => a.due.work)]
    refine List.sum_le_card_nsmul _ 7 fun n hn => ?_
    obtain ⟨a, -, rfl⟩ := List.mem_map.1 hn
    exact a.due.work_le_seven
  have huploads : (t.uploads.map Upload.work).sum ≤ t.uploads.length * 6 := by
    rw [← List.length_map Upload.work]
    refine List.sum_le_card_nsmul _ 6 fun n hn => ?_
    obtain ⟨u, -, rfl⟩ := List.mem_map.1 hn
    exact u.work_le_six
  have hscript := t.store.scriptedCalls_le_remaining
  unfold work budget
  omega

/-- What a reaction adds to the work is added to the timeline. -/
theorem work_happen (found : t.uploads[i]? = some u) {event : Event} {extra : Nat}
    (h : Upload.workAfter (u.react event) ≤ u.work + extra) :
    (t.happen i event).1.work ≤ t.work + extra := by
  obtain ⟨agenda, heq, hperm⟩ := happen_eq found event
  have hagenda : agendaWork agenda = Effect.workOf (u.react event).2 + agendaWork t.agenda := by
    rw [← agendaWork_launched t.now i]
    exact (hperm.map _).sum_eq.trans (by rw [List.map_append, List.sum_append]; rfl)
  have huploads := sum_map_set Upload.work found (u.react event).1
  rw [heq]
  unfold Upload.workAfter at h
  unfold work
  dsimp only
  omega

theorem work_command (t : Timeline) (i : Nat) (c : Command) :
    (t.command i c).1.work ≤ t.work + c.work := by
  cases found : t.uploads[i]? with
  | none =>
      rw [command, happen_eq_self found]
      exact Nat.le_add_right ..
  | some u => exact work_happen found (u.workAfter_command c)

theorem work_answered {who : Caller} (h : t.expects i who = true)
    (answer : Except StoreError String) :
    (t.happen i (.answered who answer)).1.work ≤ t.work + Upload.answerWork answer := by
  obtain ⟨u, found, hexpects⟩ : ∃ u, t.uploads[i]? = some u ∧ u.expects who = true := by
    simpa [expects, Option.any_eq_true] using h
  exact work_happen found (Upload.workAfter_answered hexpects answer)

theorem work_died (t : Timeline) (i : Nat) (who : Caller) :
    (t.happen i (.died who)).1.work ≤ t.work + 6 := by
  cases found : t.uploads[i]? with
  | none =>
      rw [happen_eq_self found]
      exact Nat.le_add_right ..
  | some u => exact work_happen found (u.workAfter_died who)

/-- A call that is made is taken from the script, and counts for more than any outcome of it. -/
theorem work_take {call : StoreCall} {scripted : ScriptedCall} {store : ScriptedStore}
    (h : t.store.take t.now call = (scripted, store)) :
    scripted.verdict.work + 6 * scriptedCalls store.script <
      2 + 6 * scriptedCalls t.store.script := by
  unfold ScriptedStore.take at h
  dsimp only at h
  split at h
  · next next rest found =>
      obtain ⟨rfl, rfl⟩ := Prod.mk.inj h
      have hscript := scriptedCalls_insert found
      have hverdict := Due.work_le_seven (.settle .owner call next.verdict)
      change next.verdict.work ≤ 7 at hverdict
      dsimp only
      omega
  · obtain ⟨rfl, rfl⟩ := Prod.mk.inj h
    change 1 + _ < 2 + _
    dsimp only
    omega

/-- The in-memory store refuses for good. -/
theorem answerWork_perform (memory : MemoryStore) (call : StoreCall) :
    Upload.answerWork (memory.perform call).1 = 0 := by
  cases call with
  | create key contentType => rfl
  | part key id number body =>
      simp only [MemoryStore.perform, MemoryStore.uploadPart]
      split
      · rfl
      · split <;> rfl
  | complete key id parts =>
      simp only [MemoryStore.perform, MemoryStore.complete]
      split
      · rfl
      · split
        · split
          · split
            · next e herror =>
                exact if_neg (by simp [MemoryStore.isTransient_of_assemble herror])
            · rfl
          · rfl
        · rfl
  | abort key id => rfl

/-- An entry that happens uses up more than it leads to. -/
theorem work_of_occurs {a : Appointment} {contact : Option Contact} {notice : Option Notice}
    (h : Occurs t a contact t' notice) : t'.work < t.work + a.due.work := by
  cases h with
  | woke due =>
      rw [due]
      exact Nat.lt_add_one _
  | missed due unexpected =>
      rcases due with due | ⟨verdict, due⟩
      · rw [due]
        exact Nat.lt_add_of_pos_right (Nat.zero_lt_two)
      · rw [due]
        cases verdict <;> exact Nat.lt_add_of_pos_right (Nat.succ_pos _)
  | made due taken =>
      have htake := work_take taken
      rw [due]
      simp only [work, agendaWork_enter, Due.work]
      omega
  | @passed who call answer memory due expected performed =>
      have hanswered : ({ t with store := { t.store with memory } }.happen a.upload
          (.answered who answer)).1.work ≤ t.work + Upload.answerWork answer :=
        work_answered (t := { t with store := { t.store with memory } }) expected answer
      have hrefusal := answerWork_perform t.store.memory call
      rw [performed] at hrefusal
      dsimp only at hrefusal
      rw [due, Due.work, Verdict.work]
      omega
  | @failed who call error due expected =>
      have hanswered := work_answered expected (.error error)
      have hrefusal := Upload.answerWork_le_two (.error error)
      rw [due, Due.work, Verdict.work]
      omega
  | died due expected =>
      rw [due]
      exact Nat.lt_succ_of_le (work_died t a.upload _)

/-- What is due next uses up more than it leads to. -/
theorem work_of_pop? {limit : Option Nat} {notice : Option Notice}
    (h : t.pop? limit = some (t', notice)) : t'.work < t.work := by
  obtain ⟨now, contact, hoccur⟩ := occur?_of_pop? h
  obtain ⟨a, rest, hperm, hoccurs⟩ := occurs_of_occur? hoccur
  have hagenda : agendaWork t.agenda = a.due.work + agendaWork rest :=
    (hperm.map _).sum_eq
  have hlt := work_of_occurs hoccurs
  simp only [work] at hlt ⊢
  omega

end Timeline

end StudySession

import StudySession.Proofs.Upload.Fleets
import StudySession.Proofs.Upload.Integrity

/-!
# What an upload has taken in

An upload on a timeline stands where a transfer stands that heard the same (`Upload.Took`): a call
that the store answers reaches the store and comes back at once, and what other uploads do in
between leaves what the store holds of this one. So what is known of transfers holds of the uploads
of a fleet: the chunks taken in since an upload was opened make the object that it completes
(`Landing.delivered`).
-/

namespace StudySession

/-! ## Chunks -/

/-- The chunks given since the upload was first open, once it was. -/
def chunksTaken? (trace : List Happening) : Option (List ByteArray) :=
  if trace.any Happening.opens then some (chunksGiven trace) else none

section Chunks

variable {trace : List Happening} {o : Happening} {chunks : List ByteArray}

theorem chunksTaken?_eq_some :
    chunksTaken? trace = some chunks ↔
      trace.any Happening.opens = true ∧ chunksGiven trace = chunks := by
  rw [chunksTaken?, Option.ite_none_right_eq_some, Option.some.injEq]

theorem chunksTaken?_eq_none : chunksTaken? trace = none ↔ trace.any Happening.opens = false := by
  rw [chunksTaken?]
  split <;> simp_all

/-- Once the upload was open, every further chunk is taken. -/
theorem chunksTaken?_snoc_of_some (h : chunksTaken? trace = some chunks) :
    chunksTaken? (trace ++ [o]) = some (chunks ++ o.chunk?.toList) := by
  obtain ⟨hopen, rfl⟩ := chunksTaken?_eq_some.1 h
  have hopen' : (trace ++ [o]).any Happening.opens = true := by
    rw [List.any_append, hopen, Bool.true_or]
  exact chunksTaken?_eq_some.2 ⟨hopen', chunksGiven_snoc hopen⟩

theorem chunksTaken?_snoc_of_none (h : chunksTaken? trace = none) :
    chunksTaken? (trace ++ [o]) = if o.opens then some [] else none := by
  rw [chunksTaken?_eq_none] at h
  rw [chunksTaken?, List.any_append, h, Bool.false_or, chunksGiven_snoc_of_not_open h]
  simp

/-- What opens nothing and brings no chunk leaves what was taken. -/
theorem chunksTaken?_snoc_of_other (hopens : o.opens = false) (hchunk : o.chunk? = none) :
    chunksTaken? (trace ++ [o]) = chunksTaken? trace := by
  cases h : chunksTaken? trace with
  | none => rw [chunksTaken?_snoc_of_none h, hopens]; rfl
  | some chunks => rw [chunksTaken?_snoc_of_some h, hchunk]; simp

end Chunks

/-! ## Standing on a timeline -/

/-- The calls that an upload waits for, in the air. -/
def Upload.flights (u : Upload) (who : Caller) : Option Flight := (u.call? who).map (⟨·, none⟩)

namespace Transfer

variable {key : String} {first memory memory' : MemoryStore} {u : Upload}
  {flying : Caller → Option Flight} {trace : List Happening}

/-- No answer to the owner is on its way that has made something. -/
def Unanswered (flying : Caller → Option Flight) : Prop :=
  ∀ call tag, flying .owner ≠ some ⟨call, some (.ok tag)⟩

theorem unanswered_flights (u : Upload) : Unanswered u.flights := by
  intro call tag h
  obtain ⟨asked, -, heq⟩ := Option.map_eq_some_iff.1 h
  cases (Flight.mk.inj heq).2

theorem Unanswered.launch (h : Unanswered flying) (effects : List Effect) :
    Unanswered (launch flying effects) :=
  fun call tag hflying => h call tag (launch_answered hflying)

/-- Whatever answer has come back is on its way no longer. -/
theorem Unanswered.landed (h : Unanswered flying) (who : Caller) (f : Option Flight) :
    Unanswered (Function.update (Function.update flying who f) who none) := by
  rw [Function.update_idem]
  exact fun call tag hflying => h call tag (answered_of_update hflying)

theorem flights_owner {purpose : Purpose} {call : StoreCall} {attempt : Nat}
    (h : u.awaiting = some (.store purpose call attempt)) :
    u.flights .owner = some ⟨call, none⟩ := by
  rw [Upload.flights, Upload.call?, Upload.asking, h]
  rfl

/-- Tasks of one number make one call, so the call in the air is that of every one of them. -/
theorem Open.flights {id : String} {upload : PendingUpload} (h : Open key first id upload
    ⟨u, memory, flying⟩ trace) : Open key first id upload ⟨u, memory, u.flights⟩ trace := by
  refine ⟨h.key_eq, h.books, ?_, h.completions⟩
  refine { h.holds with flight := fun task htask f hf => ?_ }
  obtain ⟨call, hcall, rfl⟩ := Option.map_eq_some_iff.1 hf
  obtain ⟨other, hfound, rfl⟩ := Option.map_eq_some_iff.1 hcall
  have hnumber : other.number = task.number := by simpa using List.find?_some hfound
  obtain ⟨hcall, i, hi, hbody⟩ := h.books.task other (List.mem_of_find?_eq_some hfound)
  obtain ⟨hcall', -⟩ := h.books.task task htask
  have hsame := h.books.body_unique htask (by omega) hbody
  refine ⟨?_, by simp⟩
  rw [hcall, hcall', hnumber, hsame]

/-- Only what is on its way matters, not in which way it was put in the air. -/
theorem Standing.flights (h : Standing key first ⟨u, memory, flying⟩ trace)
    (hflying : Unanswered flying) : Standing key first ⟨u, memory, u.flights⟩ trace := by
  cases h with
  | fresh key_eq untouched completions awaiting =>
      exact .fresh key_eq untouched completions awaiting
  | creating key_eq untouched completions awaiting flying created =>
      exact .creating key_eq untouched completions awaiting (flights_owner awaiting) nofun
  | live opened rests => exact .live opened.flights rests
  | completing opened quiet empty acked awaiting flying unanswered =>
      exact .completing opened.flights quiet empty acked awaiting (flights_owner awaiting) nofun
  | assembled key_eq books completions quiet empty acked tags awaiting flying object =>
      exact absurd flying (hflying _ _)
  | ended quiet ended => exact .ended quiet ended

theorem Open.elsewhere {id : String} {upload : PendingUpload}
    (h : Open key first id upload ⟨u, memory, flying⟩ trace)
    (hpending : ∀ id, u.session.phase = .opened id →
      memory'.pending.get? id = memory.pending.get? id) :
    Open key memory' id upload ⟨u, memory', flying⟩ trace :=
  ⟨h.key_eq, h.books,
    { h.holds with found := (hpending id h.books.phase).trans h.holds.found }, rfl⟩

/-- What others do on the store is none of an upload's concern, as long as they leave what is
pending for it. -/
theorem Standing.elsewhere (h : Standing key first ⟨u, memory, u.flights⟩ trace)
    (hpending : ∀ id, u.session.phase = .opened id →
      memory'.pending.get? id = memory.pending.get? id) :
    Standing key memory' ⟨u, memory', u.flights⟩ trace := by
  cases h with
  | fresh key_eq untouched completions awaiting => exact .fresh key_eq untouched rfl awaiting
  | creating key_eq untouched completions awaiting flying created =>
      exact .creating key_eq untouched rfl awaiting (flights_owner awaiting) nofun
  | live opened rests => exact .live (opened.elsewhere hpending) rests
  | completing opened quiet empty acked awaiting flying unanswered =>
      exact .completing (opened.elsewhere hpending) quiet empty acked awaiting flying unanswered
  | assembled key_eq books completions quiet empty acked tags awaiting flying object =>
      exact absurd flying (unanswered_flights u _ _)
  | ended quiet ended => exact .ended quiet ended

end Transfer

open Transfer

namespace Upload

/-- An upload stands where a transfer stands that took in some chunks since it was opened, if it
was. -/
def Took (key : String) (memory : MemoryStore) (u : Upload) (taken : Option (List ByteArray)) :
    Prop :=
  ∃ first trace, Standing key first ⟨u, memory, u.flights⟩ trace ∧ chunksTaken? trace = taken

/-- The owner waits for the upload to be created. -/
def Creating (u : Upload) : Prop :=
  ∃ call attempt, u.awaiting = some (.store .creating call attempt)

/-- The owner has told the upload to complete. -/
def Completing (u : Upload) : Prop :=
  (∃ id, u.awaiting = some (.parts id)) ∨
    ∃ id listed total call attempt,
      u.awaiting = some (.store (.completing id listed total) call attempt)

/-- What is heard of a call, as the last step of a transfer. -/
structure Landing (key : String) (first memory : MemoryStore) (taken : Option (List ByteArray))
    (out : Upload × List Effect) (trace : List Happening) (w : Transfer) (o : Happening)
    (flying : Caller → Option Flight) : Prop where
  stands : Standing key first w trace
  taken : chunksTaken? trace = taken
  step : Step w o ⟨out.1, memory, flying⟩
  effects : o.effects = out.2
  chunk : o.chunk? = none
  background : o.sendsPart = false
  unanswered : Unanswered flying

variable {key : String} {first memory memory' : MemoryStore} {u : Upload} {event : Event}
  {taken : Option (List ByteArray)} {chunks : List ByteArray} {out : Upload × List Effect}
  {trace : List Happening} {w : Transfer} {o : Happening} {flying : Caller → Option Flight}

theorem Took.elsewhere (h : Took key memory u taken)
    (hpending : ∀ id, u.session.phase = .opened id →
      memory'.pending.get? id = memory.pending.get? id) : Took key memory' u taken := by
  obtain ⟨first, trace, hstands, htaken⟩ := h
  exact ⟨memory', trace, hstands.elsewhere hpending, htaken⟩

/-! ### Landings -/

/-- Whatever an upload hears of a call is the last step of a transfer, unless its owner dies. -/
theorem Took.lands (h : Took key memory u taken) (hears : u.Hears memory event memory')
    (halive : event ≠ .died .owner) :
    ∃ first trace w o flying, Landing key first memory' taken (u.react event) trace w o flying := by
  obtain ⟨first, trace, hstands, htaken⟩ := h
  have hexpected : ∀ {who call}, u.call? who = some call → u.expects who = true := by
    intro who call hcall
    rw [← isSome_call?, hcall]
    rfl
  have hflying : ∀ {who call}, u.call? who = some call → u.flights who = some ⟨call, none⟩ := by
    intro who call hcall
    rw [flights, hcall, Option.map_some]
  have hgrounded := unanswered_flights u
  cases hears with
  | @passed who call answer memory' asked performed =>
      -- the call reaches the store, and the answer comes back
      have hreach := Step.reach (w := ⟨u, memory, u.flights⟩) (hexpected asked) (hflying asked)
        performed
      have hmid := hstands.step hreach rfl
      refine ⟨first, _, _, .answered who call answer _, _, hmid, ?_,
        .answer (hexpected asked) (Function.update_self ..) (Prod.mk.eta (p := u.react _)).symm,
        rfl, rfl, rfl, (hgrounded.landed who _).launch _⟩
      rw [chunksTaken?_snoc_of_other rfl rfl, htaken]
  | @failed who call error asked =>
      have hfail : Step ⟨u, memory, u.flights⟩ (.failed who call error) _ :=
        .fail (hexpected asked) (hflying asked)
      have hmid := hstands.step hfail rfl
      refine ⟨first, _, _, .answered who call (.error error) _, _, hmid, ?_,
        .answer (hexpected asked) (Function.update_self ..) (Prod.mk.eta (p := u.react _)).symm,
        rfl, rfl, rfl, (hgrounded.landed who _).launch _⟩
      rw [chunksTaken?_snoc_of_other rfl rfl, htaken]
  | @died who call asked =>
      cases who with
      | owner => exact absurd rfl halive
      | part number =>
          refine ⟨first, trace, _, .died number _, _, hstands, htaken,
            .die (hexpected asked) (Prod.mk.eta (p := u.react _)).symm, rfl, rfl, rfl, ?_⟩
          refine Unanswered.launch (fun call tag hflying => ?_) _
          exact hgrounded call tag (answered_of_update hflying)

namespace Landing

variable (h : Landing key first memory taken out trace w o flying)

include h

/-- The upload stands where the transfer does. -/
theorem standing : Standing key first ⟨out.1, memory, out.1.flights⟩ (trace ++ [o]) :=
  (h.stands.step h.step h.background).flights h.unanswered

/-- What was taken stays so. -/
theorem took (htaken : taken = some chunks) : Took key memory out.1 (some chunks) := by
  refine ⟨first, _, h.standing, ?_⟩
  rw [chunksTaken?_snoc_of_some (h.taken.trans htaken), h.chunk]
  simp

/-- An upload that is opened has taken nothing yet. -/
theorem took_of_none (htaken : taken = none) :
    Took key memory out.1 (if o.opens then some [] else none) :=
  ⟨first, _, h.standing, chunksTaken?_snoc_of_none (h.taken.trans htaken)⟩

/-- A completed upload has made an object of the chunks that were taken. -/
theorem delivered (htaken : taken = some chunks) {c : CompletedUpload}
    (hdone : .finished (.ok (.completed c)) ∈ out.2) :
    c.key = key ∧ c.totalBytes = (joinBytes chunks).size ∧
      memory.objects.get? key = some ⟨videoContentType, joinBytes chunks⟩ := by
  have harrived := h.stands.arrived h.step (by rw [h.effects]; exact hdone)
  obtain ⟨-, hchunks⟩ := chunksTaken?_eq_some.1 (h.taken.trans htaken)
  rw [← hchunks]
  exact ⟨harrived.key_eq, harrived.total, harrived.object⟩

end Landing

/-! ### The life of an upload -/

/-- An upload begins with the creation that its owner asks for. -/
theorem took_create (config : UploadConfig) (name : String) (memory : MemoryStore) :
    Took (videoObjectKey name) memory ((new config name).react (.command .create)).1 none ∧
      ((new config name).react (.command .create)).1.Creating := by
  have hstep := Step.tell (w := start config name memory) (c := .create) rfl
    (Prod.mk.eta (p := (new config name).react (.command .create))).symm
  have hstands := (standing_start config name memory).step hstep rfl
  refine ⟨⟨memory, _, hstands.flights fun call tag hflying => ?_, rfl⟩, _, _, rfl⟩
  cases (Flight.mk.inj (Option.some.inj hflying)).2

/-- While an upload is being created, none of its parts is on its way. -/
theorem Took.tasks_eq_nil (h : Took key memory u taken) (hcreating : u.Creating) :
    u.session.tasks = [] := by
  obtain ⟨first, trace, hstands, -⟩ := h
  obtain ⟨call, attempt, hwaits⟩ := hcreating
  cases hstands with
  | creating key_eq untouched completions awaiting flying created => exact untouched.tasks
  | fresh key_eq untouched completions awaiting => exact untouched.tasks
  | live opened rests =>
      rcases rests with hnone | ⟨hparts, -⟩
      · cases hnone.symm.trans hwaits
      · cases hparts.symm.trans hwaits
  | completing opened quiet empty acked awaiting flying unanswered => exact quiet
  | assembled key_eq books completions quiet empty acked tags awaiting flying object => exact quiet
  | ended quiet ended => exact quiet

/-- Without parts on their way, an upload hears of its owner's call. -/
theorem Hears.of_quiet (h : u.Hears memory event memory') (hquiet : u.session.tasks = []) :
    (∃ answer, event = .answered .owner answer) ∨ event = .died .owner := by
  have howner : ∀ {who call}, u.call? who = some call → who = .owner := by
    intro who call hcall
    cases who with
    | owner => rfl
    | part number => simp [call?, hquiet] at hcall
  cases h with
  | passed asked performed => exact .inl ⟨_, by rw [howner asked]⟩
  | failed error asked => exact .inl ⟨_, by rw [howner asked]⟩
  | died asked => exact .inr (by rw [howner asked])

/-- The answer to the creation opens the upload, unless the creation fails. -/
theorem Took.created (h : Took key memory u none) (hcreating : u.Creating)
    (hears : u.Hears memory event memory') :
    (Effect.ending? (u.react event).2 = none ∧ Took key memory' (u.react event).1 none ∧
        (u.react event).1.Creating) ∨
      (∃ error, Effect.ending? (u.react event).2 = some (.error error)) ∨
        ∃ snapshot, Effect.ending? (u.react event).2 = some (.ok (.opened snapshot)) ∧
          Took key memory' (u.react event).1 (some []) := by
  rcases hears.of_quiet (h.tasks_eq_nil hcreating) with ⟨answer, rfl⟩ | rfl
  · obtain ⟨first, trace, w, o, flying, hlanding⟩ := h.lands hears (by simp)
    have htook := hlanding.took_of_none rfl
    rw [Happening.opens, hlanding.effects] at htook
    obtain ⟨call, attempt, hwaits⟩ := hcreating
    have htold := ownerTold_of_awaiting hwaits answer
    generalize u.react (.answered .owner answer) = out at htold htook
    cases htold with
    | again retried pause => exact .inl ⟨rfl, htook, _, _, rfl⟩
    | concluded last =>
        cases answer with
        | error e => exact .inr (.inl ⟨_, rfl⟩)
        | ok id => exact .inr (.inr ⟨_, rfl, htook⟩)
  · exact .inr (.inl ⟨_, rfl⟩)

/-- What is told to an open upload leaves what was taken, and brings a chunk or none. -/
theorem Took.tell (h : Took key memory u (some chunks)) (hidle : u.awaiting = none) {c : Command}
    (hbackground : ∀ number body, c ≠ .sendPart number body) :
    Took key memory (u.react (.command c)).1
      (some (chunks ++ (Happening.told c []).chunk?.toList)) := by
  obtain ⟨first, trace, hstands, htaken⟩ := h
  have hstep := Step.tell (w := ⟨u, memory, u.flights⟩) (c := c) hidle
    (Prod.mk.eta (p := u.react (.command c))).symm
  have hother : (Happening.told c (u.react (.command c)).2).sendsPart = false := by
    cases c with
    | sendPart number body => exact absurd rfl (hbackground number body)
    | _ => rfl
  have hafter := (hstands.step hstep hother).flights ((unanswered_flights u).launch _)
  refine ⟨first, _, hafter, ?_⟩
  rw [chunksTaken?_snoc_of_some htaken]
  cases c <;> rfl

theorem Took.accept (h : Took key memory u (some chunks)) (hidle : u.awaiting = none)
    (chunk : ByteArray) :
    Took key memory (u.react (.command (.accept chunk))).1 (some (chunks ++ [chunk])) :=
  h.tell hidle (by simp)

theorem Took.complete (h : Took key memory u (some chunks)) (hidle : u.awaiting = none) :
    Took key memory (u.react (.command .complete)).1 (some chunks) := by
  have htold := h.tell hidle (c := .complete) (by simp)
  rwa [show (Happening.told .complete []).chunk? = none from rfl, Option.toList_none,
    List.append_nil] at htold

/-- A completed upload waits for nothing. -/
theorem Took.call?_eq_none (h : Took key memory u taken) (hphase : u.session.phase = .completed)
    (hidle : u.awaiting = none) (who : Caller) : u.call? who = none := by
  obtain ⟨first, trace, hstands, -⟩ := h
  have hquiet : u.session.tasks = [] := by
    cases hstands with
    | fresh key_eq untouched completions awaiting => exact untouched.tasks
    | creating key_eq untouched completions awaiting flying created => exact untouched.tasks
    | live opened rests => cases opened.books.phase.symm.trans hphase
    | completing opened quiet empty acked awaiting flying unanswered => exact quiet
    | assembled key_eq books completions quiet empty acked tags awaiting flying object =>
        exact quiet
    | ended quiet ended => exact quiet
  cases who with
  | owner => rw [call?, asking, hidle]; rfl
  | part number => rw [call?, hquiet]; rfl

/-! ### Completing -/

theorem not_completing_of_idle (h : u.awaiting = none) : ¬u.Completing := by
  rintro (⟨id, hwaits⟩ | ⟨id, listed, total, call, attempt, hwaits⟩) <;> cases h.symm.trans hwaits

theorem not_completing_ask (s : Session) {purpose : Purpose} (call : StoreCall)
    (h : ∀ id listed total, purpose ≠ .completing id listed total) :
    ¬(ask s purpose call).1.Completing := by
  rintro (⟨id, hwaits⟩ | ⟨id, listed, total, asked, attempt, hwaits⟩)
  · cases hwaits
  · exact h id listed total (Await.store.inj (Option.some.inj hwaits)).1

theorem not_completing_fail (s : Session) (error : UploadError) :
    ¬(fail s error).1.Completing := by
  unfold fail
  dsimp only
  split
  · exact not_completing_ask _ _ (by simp)
  · exact not_completing_of_idle rfl

/-- Chunks are taken before the upload is completed. -/
theorem not_completing_accept (s : Session) (chunk : ByteArray) :
    ¬(begin s (.accept chunk)).1.Completing := by
  have hbegun := begun_begin s (.accept chunk)
  generalize begin s (.accept chunk) = out at hbegun
  cases hbegun with
  | told phase told =>
      cases told with
      | refused gate lost => exact not_completing_fail _ _
      | gathered healthy few => exact not_completing_of_idle rfl
      | flushed healthy enough => exact not_completing_of_idle rfl
  | dismissed shut refused => exact not_completing_of_idle rfl
  | failed shut lost => exact not_completing_fail _ _

/-- A part that is on its way no longer does not tell the upload to complete. -/
theorem completing_of_afterPart {v : Upload} (h : v.afterPart.1.Completing)
    (hsame : v.awaiting = u.awaiting) : u.Completing := by
  rw [Completing, ← hsame]
  rcases afterPart_cases v with ⟨id, hwaits, -⟩ | ⟨-, hnone⟩
  · exact .inl ⟨id, hwaits⟩
  · rwa [hnone] at h

/-- Nothing but its owner tells an upload to complete. -/
theorem completing_of_react (hears : u.Hears memory event memory')
    (h : (u.react event).1.Completing) : u.Completing := by
  have hpart : ∀ {number : Nat} {answer : Except StoreError String} {call : StoreCall},
      u.call? (.part number) = some call →
      (u.react (.answered (.part number) answer)).1.Completing → u.Completing := by
    intro number answer call hcall h
    have hexpected : u.expects (.part number) = true := by rw [← isSome_call?, hcall]; rfl
    obtain ⟨task, -, -, htold⟩ := partTold_of_expects hexpected answer
    generalize u.react (.answered (.part number) answer) = out at htold h
    cases htold with
    | acknowledged => exact completing_of_afterPart h rfl
    | again pause => exact h
    | lost pause => exact completing_of_afterPart h rfl
  have howner : ∀ {answer : Except StoreError String} {call : StoreCall},
      u.call? .owner = some call → (u.react (.answered .owner answer)).1.Completing →
      u.Completing := by
    intro answer call hcall h
    rw [call?, asking] at hcall
    split at hcall
    · next purpose asked attempt hawaiting =>
        have htold := ownerTold_of_awaiting hawaiting answer
        generalize u.react (.answered .owner answer) = out at htold h
        cases htold with
        | again retried pause =>
            rcases h with ⟨id, hwaits⟩ | ⟨id, listed, total, call, attempt, hwaits⟩
            · cases hwaits
            · obtain ⟨rfl, -, -⟩ := Await.store.inj (Option.some.inj hwaits)
              exact .inr ⟨_, _, _, _, _, hawaiting⟩
        | concluded last =>
            cases purpose with
            | completing id listed total => exact .inr ⟨_, _, _, _, _, hawaiting⟩
            | _ => cases answer <;> exact absurd h (not_completing_of_idle rfl)
    · cases hcall
  cases hears with
  | @passed who call answer memory' asked performed =>
      cases who with
      | owner => exact howner asked h
      | part number => exact hpart asked h
  | @failed who call error asked =>
      cases who with
      | owner => exact howner asked h
      | part number => exact hpart asked h
  | @died who call asked =>
      cases who with
      | owner => exact absurd h (not_completing_of_idle rfl)
      | part number =>
          rw [react, partDied] at h
          split at h
          · exact completing_of_afterPart h rfl
          · exact h

/-! ### Commands that end at once -/

theorem awaiting_of_fail {s : Session} {error : UploadError} {result : Except UploadError Outcome}
    (h : Effect.ending? (fail s error).2 = some result) :
    (fail s error).1.awaiting = none ∧ ∃ e, result = .error e := by
  unfold fail at h ⊢
  dsimp only at h ⊢
  split at h
  · cases h
  · obtain rfl := Option.some.inj h
    exact ⟨rfl, _, rfl⟩

/-- A command that ends at once leaves nothing to wait for. -/
theorem awaiting_of_begin {s : Session} {c : Command} {result : Except UploadError Outcome}
    (h : Effect.ending? (begin s c).2 = some result) : (begin s c).1.awaiting = none := by
  have hbegun := begun_begin s c
  generalize begin s c = out at hbegun h
  cases hbegun with
  | creating phase => cases h
  | dismissed shut refused => rfl
  | failed shut lost => exact (awaiting_of_fail h).1
  | told phase told =>
      cases told with
      | reopened => rfl
      | refused gate lost => exact (awaiting_of_fail h).1
      | gathered healthy few => rfl
      | flushed healthy enough => rfl
      | sent => cases h
      | joined healthy empty joined =>
          cases joined with
          | waits busy => cases h
          | completes quiet acked nonempty => cases h
          | fails error => exact (awaiting_of_fail h).1
      | flushedLast healthy rest => cases h
      | aborted => cases h

/-- A completion that ends at once is refused. -/
theorem error_of_complete {s : Session} {result : Except UploadError Outcome}
    (h : Effect.ending? (begin s .complete).2 = some result) : ∃ e, result = .error e := by
  have hbegun := begun_begin s .complete
  generalize begin s .complete = out at hbegun h
  cases hbegun with
  | dismissed shut refused =>
      obtain rfl := Option.some.inj h
      rcases refused with ⟨hother, -⟩ | herror
      · cases hother
      · exact herror
  | failed shut lost => exact (awaiting_of_fail h).2
  | told phase told =>
      cases told with
      | refused gate lost => exact (awaiting_of_fail h).2
      | joined healthy empty joined =>
          cases joined with
          | waits busy => cases h
          | completes quiet acked nonempty => cases h
          | fails error => exact (awaiting_of_fail h).2
      | flushedLast healthy rest => cases h

end Upload

end StudySession

import StudySession.Upload.Session

/-!
# What an upload can do

`Upload.react` decides by the phase, the parts and what is awaited. The relations here list, for an
open session, what each kind of event can come to, guards included, so that a property of all runs
is a case for each line below and not for each branch of the definitions.
-/

namespace StudySession

namespace Upload

/-- What joining the parts of an open session comes to. -/
inductive Joined (s : Session) (id : String) : Upload × List Effect → Prop where
  | waits (busy : s.tasks ≠ []) : Joined s id (⟨s, some (.parts id)⟩, [])
  | completes {listed : List CompletedPart} {total : Nat} (quiet : s.tasks = [])
      (acked : Session.acknowledged 1 s.parts = .ok (listed, total)) (nonempty : listed ≠ []) :
      Joined s id (ask s (.completing id listed total) (.complete s.key id listed))
  | fails (error : UploadError) : Joined s id (fail s error)

/-- What a command comes to while a session is open. -/
inductive Told (s : Session) (id : String) : Command → Upload × List Effect → Prop where
  | reopened : Told s id .create
      (finish s (.ok (.opened ⟨s.key, id, s.parts, s.pending.size⟩)))
  | refused {c : Command} {error : UploadError} (gate : (∃ chunk, c = .accept chunk) ∨ c = .complete)
      (lost : s.lostPart? = some error) : Told s id c (fail s error)
  | gathered {chunk : ByteArray} (healthy : s.lostPart? = none)
      (few : chunk.isEmpty = true ∨ (s.pending ++ chunk).size < s.partSize) :
      Told s id (.accept chunk) (finish { s with pending := s.pending ++ chunk } (.ok .done))
  | flushed {chunk : ByteArray} (healthy : s.lostPart? = none)
      (enough : chunk.isEmpty = false ∧ s.partSize ≤ (s.pending ++ chunk).size) :
      Told s id (.accept chunk)
        (⟨({ s with pending := s.pending ++ chunk }.submit id).1, none⟩,
          [.call (.part (s.parts.length + 1)) ⟨0⟩
            (.part s.key id (s.parts.length + 1) (s.pending ++ chunk)), .finished (.ok .done)])
  | sent {number : Nat} {body : ByteArray} :
      Told s id (.sendPart number body)
        (ask s (.sending number body.size) (.part s.key id number body))
  | joined {result : Upload × List Effect} (healthy : s.lostPart? = none)
      (empty : s.pending.isEmpty = true) (joined : Joined s id result) : Told s id .complete result
  | flushedLast (healthy : s.lostPart? = none) (rest : s.pending.isEmpty = false) :
      Told s id .complete
        (⟨(s.submit id).1, some (.parts id)⟩,
          [.call (.part (s.parts.length + 1)) ⟨0⟩
            (.part s.key id (s.parts.length + 1) s.pending)])
  | aborted : Told s id .abort
      (ask { s with tasks := [], pending := .empty, phase := .failed .sessionFailed } .aborting
        (.abort s.key id))

theorem fail_of_opened {s : Session} {id : String} (hphase : s.phase = .opened id)
    (error : UploadError) :
    fail s error =
      ask { s with tasks := [], pending := .empty } (.failing error) (.abort s.key id) := by
  unfold fail
  dsimp only
  rw [hphase]

/-- A session that is not open has nothing to drop on the store. -/
theorem fail_of_shut {s : Session} (shut : ∀ id, s.phase ≠ .opened id) (error : UploadError) :
    fail s error =
      finish { s with tasks := [], pending := .empty, phase := .failed error } (.error error) := by
  unfold fail
  dsimp only
  split
  · next id hphase => exact absurd hphase (shut id)
  · rfl

theorem joined_join (s : Session) (id : String) : Joined s id (join s id) := by
  unfold join
  split
  · next hquiet =>
      have hnone : s.tasks = [] := List.isEmpty_iff.1 hquiet
      unfold completeFrom
      split
      · exact .fails _
      · exact .fails _
      · next parts total hnonempty hacked =>
          exact .completes hnone hacked hnonempty
  · next hbusy => exact .waits fun hnone => hbusy (by rw [hnone]; rfl)

/-- A command that needs the session healthy gives it up where a part is lost. -/
theorem ifHealthy_of_opened {s : Session} {id : String} (hphase : s.phase = .opened id)
    (go : Session → Upload × List Effect) :
    (∃ error, s.lostPart? = some error ∧ ifHealthy s go = fail s error) ∨
      s.lostPart? = none ∧ ifHealthy s go = go s := by
  unfold ifHealthy
  rw [hphase]
  cases s.lostPart? with
  | some error => exact .inl ⟨error, rfl, rfl⟩
  | none => exact .inr ⟨rfl, rfl⟩

theorem told_begin {s : Session} {id : String} (hphase : s.phase = .opened id) (c : Command) :
    Told s id c (begin s c) := by
  have hopen : s.openId = .ok id := by rw [Session.openId, hphase]
  cases c with
  | create =>
      rw [begin, hphase]
      dsimp only
      rw [Session.snapshot, hopen]
      exact .reopened
  | accept chunk =>
      rw [begin]
      rcases ifHealthy_of_opened hphase _ with ⟨error, hlost, heq⟩ | ⟨hnone, heq⟩
      · rw [heq]
        exact .refused (.inl ⟨chunk, rfl⟩) hlost
      · rw [heq, ifOpen, hopen]
        dsimp only
        split
        · next hfew => exact .gathered hnone hfew
        · next hmany =>
            refine .flushed hnone ⟨?_, ?_⟩
            · simpa using fun h => hmany (.inl h)
            · exact Nat.le_of_not_lt fun h => hmany (.inr h)
  | sendPart number body =>
      rw [begin, ifOpen, hopen]
      exact .sent
  | complete =>
      rw [begin]
      rcases ifHealthy_of_opened hphase _ with ⟨error, hlost, heq⟩ | ⟨hnone, heq⟩
      · rw [heq]
        exact .refused (.inr rfl) hlost
      · rw [heq, ifOpen, hopen]
        dsimp only
        split
        · next hempty => exact .joined hnone hempty (joined_join s id)
        · next hrest =>
            -- the part that was just flushed is on its way
            have hbusy : (s.submit id).1.tasks.isEmpty = false := by simp [Session.submit]
            rw [join, if_neg (by simp [hbusy])]
            exact .flushedLast hnone (by simpa using hrest)
  | abort =>
      rw [begin, hphase]
      exact .aborted

/-- What the answer to a part on its way comes to. -/
inductive PartTold (u : Upload) (task : PartTask) :
    Except StoreError String → Upload × List Effect → Prop where
  | acknowledged {tag : String} : PartTold u task (.ok tag)
      (afterPart { u with session := u.session.settle task.number (.acknowledged tag) })
  | again {error : StoreError} {delay : Duration}
      (pause : u.session.policy.pause? task.attempt error = some delay) :
      PartTold u task (.error error)
        ({ u with
            session :=
              { u.session with
                tasks := u.session.tasks.map fun t =>
                  if t.number = task.number then { t with attempt := t.attempt + 1 } else t } },
          [.call (.part task.number) delay task.call])
  | lost {error : StoreError} (pause : u.session.policy.pause? task.attempt error = none) :
      PartTold u task (.error error)
        (afterPart
          { u with
            session := u.session.settle task.number
              (.lost (.fatal task.number task.attempt (.refused error))) })

theorem partTold_of_expects {u : Upload} {number : Nat} (h : u.expects (.part number) = true)
    (answer : Except StoreError String) :
    ∃ task ∈ u.session.tasks, task.number = number ∧
      PartTold u task answer (u.react (.answered (.part number) answer)) := by
  obtain ⟨task, hfound⟩ : ∃ task, u.session.tasks.find? (·.number == number) = some task := by
    rw [← Option.isSome_iff_exists, List.find?_isSome]
    simpa [expects] using h
  have hnumber : task.number = number := by simpa using List.find?_some hfound
  refine ⟨task, List.mem_of_find?_eq_some hfound, hnumber, ?_⟩
  rw [react, partAnswered]
  dsimp only
  rw [hfound]
  dsimp only
  cases answer with
  | ok tag =>
      rw [← hnumber]
      exact .acknowledged
  | error e =>
      dsimp only
      rw [← hnumber]
      split
      · next delay hpause => exact .again hpause
      · next hpause => exact .lost hpause

/-- What the answer to the call of the command under way comes to. -/
inductive OwnerTold (u : Upload) (purpose : Purpose) (call : StoreCall) (attempt : Nat) :
    Except StoreError String → Upload × List Effect → Prop where
  | again {error : StoreError} {delay : Duration} (retried : Purpose.isRetried purpose = true)
      (pause : u.session.policy.pause? attempt error = some delay) :
      OwnerTold u purpose call attempt (.error error)
        (⟨u.session, some (.store purpose call (attempt + 1))⟩, [.call .owner delay call])
  | concluded {answer : Except StoreError String}
      (last : ∀ error, answer = .error error → Purpose.isRetried purpose = true →
        u.session.policy.pause? attempt error = none) :
      OwnerTold u purpose call attempt answer (conclude u.session purpose attempt answer)

theorem ownerTold_of_awaiting {u : Upload} {purpose : Purpose} {call : StoreCall} {attempt : Nat}
    (h : u.awaiting = some (.store purpose call attempt)) (answer : Except StoreError String) :
    OwnerTold u purpose call attempt answer (u.react (.answered .owner answer)) := by
  rw [react, ownerAnswered, h]
  dsimp only
  cases answer with
  | ok tag => exact .concluded (by simp)
  | error e =>
      dsimp only
      cases hretried : Purpose.isRetried purpose with
      | false => exact .concluded (by simp [hretried])
      | true =>
          simp only [if_true]
          cases hpause : u.session.policy.pause? attempt e with
          | none => exact .concluded fun error heq _ => Except.error.inj heq ▸ hpause
          | some delay => exact .again hretried hpause

/-- What follows when a part is on its way no longer. -/
theorem afterPart_cases (u : Upload) :
    (∃ id, u.awaiting = some (.parts id) ∧ Joined u.session id (afterPart u)) ∨
      (∀ id, u.awaiting ≠ some (.parts id)) ∧ afterPart u = (u, []) := by
  unfold afterPart
  split
  · next id hawaiting => exact .inl ⟨id, hawaiting, joined_join u.session id⟩
  · next hother => exact .inr ⟨fun id h => hother id h, rfl⟩

/-! ## Closed sessions -/

/-- What a failed session answers: its error, unless it is told to abort. -/
def refusal (error : UploadError) : Command → Except UploadError Outcome
  | .abort => .ok .done
  | _ => .error error

theorem begin_of_failed {s : Session} {error : UploadError} (hphase : s.phase = .failed error)
    (c : Command) : begin s c = finish s (refusal error c) := by
  have hopen : s.openId = .error error := by rw [Session.openId, hphase]
  cases c with
  | create => rw [begin, hphase]; rfl
  | accept chunk => rw [begin, ifHealthy, hphase]; rfl
  | sendPart number body => rw [begin, ifOpen, hopen]; rfl
  | complete => rw [begin, ifHealthy, hphase]; rfl
  | abort => rw [begin, hphase]; rfl

/-- What a completed session answers. -/
def dismissal : Command → Except UploadError Outcome
  | .create => .error .sessionFailed
  | .abort => .ok .done
  | _ => .error .notStarted

/-- A completed session that found a part lost would be given up, but no part of it is. -/
theorem begin_of_completed {s : Session} (hphase : s.phase = .completed)
    (hhealthy : s.lostPart? = none) (c : Command) : begin s c = finish s (dismissal c) := by
  have hopen : s.openId = .error .notStarted := by rw [Session.openId, hphase]
  cases c with
  | create => rw [begin, hphase]; rfl
  | accept chunk =>
      rw [begin, ifHealthy, hphase, hhealthy]
      dsimp only
      rw [ifOpen, hopen]
      rfl
  | sendPart number body => rw [begin, ifOpen, hopen]; rfl
  | complete =>
      rw [begin, ifHealthy, hphase, hhealthy]
      dsimp only
      rw [ifOpen, hopen]
      rfl
  | abort => rw [begin, hphase]; rfl

/-- What a command comes to in any phase. -/
inductive Begun (s : Session) : Command → Upload × List Effect → Prop where
  | creating (phase : s.phase = .idle) :
      Begun s .create (ask s .creating (.create s.key videoContentType))
  | told {id : String} {c : Command} {out : Upload × List Effect} (phase : s.phase = .opened id)
      (told : Told s id c out) : Begun s c out
  /-- A session that is not open refuses to go on; it only has nothing against being dropped. -/
  | dismissed {c : Command} {result : Except UploadError Outcome}
      (shut : ∀ id, s.phase ≠ .opened id)
      (refused : c = .abort ∧ result = .ok .done ∨ ∃ error, result = .error error) :
      Begun s c (finish s result)
  /-- One of which a part is lost is given up. -/
  | failed {c : Command} {error : UploadError} (shut : ∀ id, s.phase ≠ .opened id)
      (lost : s.lostPart? = some error) : Begun s c (fail s error)

/-- A session that was not opened, or is completed, does not go on. -/
theorem begun_ifHealthy {s : Session} {c : Command} (hphase : ∀ error, s.phase ≠ .failed error)
    (hopen : s.openId = .error .notStarted) (go : String → Upload × List Effect) :
    Begun s c (ifHealthy s fun s => ifOpen s go) := by
  have hshut : ∀ id, s.phase ≠ .opened id := by
    intro id hid
    rw [Session.openId, hid] at hopen
    cases hopen
  unfold ifHealthy
  split
  · next error herror => exact absurd herror (hphase error)
  · split
    · next error hlost => exact .failed hshut hlost
    · dsimp only
      rw [ifOpen, hopen]
      exact .dismissed hshut (.inr ⟨_, rfl⟩)

theorem begun_begin (s : Session) (c : Command) : Begun s c (begin s c) := by
  cases hphase : s.phase with
  | opened id => exact .told hphase (told_begin hphase c)
  | failed error =>
      rw [begin_of_failed hphase]
      exact .dismissed (by simp [hphase]) (by cases c <;> simp [refusal])
  | idle =>
      have hopen : s.openId = .error .notStarted := by rw [Session.openId, hphase]
      cases c with
      | create => rw [begin, hphase]; exact .creating hphase
      | accept chunk => rw [begin]; exact begun_ifHealthy (by simp [hphase]) hopen _
      | sendPart number body =>
          rw [begin, ifOpen, hopen]
          exact .dismissed (by simp [hphase]) (.inr ⟨_, rfl⟩)
      | complete => rw [begin]; exact begun_ifHealthy (by simp [hphase]) hopen _
      | abort => rw [begin, hphase]; exact .dismissed (by simp [hphase]) (by simp)
  | completed =>
      have hopen : s.openId = .error .notStarted := by rw [Session.openId, hphase]
      cases c with
      | create => rw [begin, hphase]; exact .dismissed (by simp [hphase]) (by simp)
      | accept chunk => rw [begin]; exact begun_ifHealthy (by simp [hphase]) hopen _
      | sendPart number body =>
          rw [begin, ifOpen, hopen]
          exact .dismissed (by simp [hphase]) (.inr ⟨_, rfl⟩)
      | complete => rw [begin]; exact begun_ifHealthy (by simp [hphase]) hopen _
      | abort => rw [begin, hphase]; exact .dismissed (by simp [hphase]) (by simp)

/-! ## Completing -/

/-- None of the effects ends a command with a completed upload. -/
def Unfinished (effects : List Effect) : Prop := ∀ c, Effect.finished (.ok (.completed c)) ∉ effects

theorem unfinished_finish {s : Session} {result : Except UploadError Outcome}
    (h : ∀ c, result ≠ .ok (.completed c)) : Unfinished (finish s result).2 := by
  intro c hmem
  have heq : Effect.finished (.ok (.completed c)) = .finished result := by
    simpa [finish] using hmem
  exact h c (Effect.finished.inj heq).symm

theorem unfinished_ask (s : Session) (purpose : Purpose) (call : StoreCall) :
    Unfinished (ask s purpose call).2 := by
  simp [Unfinished, ask]

theorem unfinished_fail (s : Session) (error : UploadError) : Unfinished (fail s error).2 := by
  unfold fail
  dsimp only
  split
  · exact unfinished_ask _ _ _
  · exact unfinished_finish (by simp)

theorem Joined.unfinished {s : Session} {id : String} {result : Upload × List Effect}
    (h : Joined s id result) : Unfinished result.2 := by
  cases h with
  | waits busy => simp [Unfinished]
  | completes quiet acked nonempty => exact unfinished_ask _ _ _
  | fails error => exact unfinished_fail _ _

theorem unfinished_afterPart (u : Upload) : Unfinished (afterPart u).2 := by
  rcases afterPart_cases u with ⟨id, -, hjoined⟩ | ⟨-, hnone⟩
  · exact hjoined.unfinished
  · rw [hnone]
    simp [Unfinished]

theorem Told.unfinished {s : Session} {id : String} {c : Command} {out : Upload × List Effect}
    (h : Told s id c out) : Unfinished out.2 := by
  cases h with
  | reopened => exact unfinished_finish (by simp)
  | refused gate lost => exact unfinished_fail _ _
  | gathered healthy few => exact unfinished_finish (by simp)
  | flushed healthy enough => simp [Unfinished]
  | sent => exact unfinished_ask _ _ _
  | joined healthy empty joined => exact joined.unfinished
  | flushedLast healthy rest => simp [Unfinished]
  | aborted => exact unfinished_ask _ _ _

/-- A command by itself never completes an upload. -/
theorem unfinished_begin (s : Session) (c : Command) : Unfinished (begin s c).2 := by
  have hbegun := begun_begin s c
  generalize begin s c = out at hbegun
  cases hbegun with
  | creating phase => exact unfinished_ask _ _ _
  | told phase told => exact told.unfinished
  | dismissed shut refused =>
      refine unfinished_finish fun c => ?_
      rcases refused with ⟨-, rfl⟩ | ⟨error, rfl⟩ <;> simp
  | failed shut lost => exact unfinished_fail _ _

theorem unfinished_partAnswered (u : Upload) (number : Nat) (answer : Except StoreError String) :
    Unfinished (u.partAnswered number answer).2 := by
  unfold partAnswered
  dsimp only
  split
  · simp [Unfinished]
  · split
    · exact unfinished_afterPart _
    · split
      · simp [Unfinished]
      · exact unfinished_afterPart _

theorem unfinished_partDied (u : Upload) (number : Nat) : Unfinished (u.partDied number).2 := by
  unfold partDied
  split
  · exact unfinished_afterPart _
  · simp [Unfinished]

theorem completed_of_ownerTold {u : Upload} {purpose : Purpose} {call : StoreCall} {attempt : Nat}
    {answer : Except StoreError String} {result : Upload × List Effect}
    (h : OwnerTold u purpose call attempt answer result) {c : CompletedUpload}
    (hdone : Effect.finished (.ok (.completed c)) ∈ result.2) :
    ∃ id listed total tag, purpose = .completing id listed total ∧ answer = .ok tag ∧
      c = ⟨u.session.key, id, listed, total⟩ ∧
      result.1 = ⟨{ u.session with phase := .completed }, none⟩ := by
  cases h with
  | again retried pause => simp at hdone
  | concluded last =>
      unfold conclude at hdone ⊢
      split at hdone
      · refine absurd hdone (unfinished_finish (fun c => ?_) c)
        rw [Session.snapshot]
        simp [Except.map, Session.openId]
      · exact absurd hdone (unfinished_finish (by simp) c)
      · exact absurd hdone (unfinished_finish (by simp) c)
      · exact absurd hdone (unfinished_finish (by simp) c)
      · next id listed total tag =>
          have heq : c = ⟨u.session.key, id, listed, total⟩ := by simpa [finish] using hdone
          exact ⟨id, listed, total, tag, rfl, rfl, heq, rfl⟩
      · exact absurd hdone (unfinished_fail _ _ c)
      · exact absurd hdone (unfinished_finish (by simp) c)
      · exact absurd hdone (unfinished_finish (by simp) c)
      · exact absurd hdone (unfinished_finish (by simp) c)

/-- An upload is completed by the answer to its completion, and by nothing else. -/
theorem react_completed {u u' : Upload} {event : Event} {effects : List Effect}
    {c : CompletedUpload} (h : u.react event = (u', effects))
    (hdone : Effect.finished (.ok (.completed c)) ∈ effects) :
    ∃ id listed total call attempt tag, event = .answered .owner (.ok tag) ∧
      u.awaiting = some (.store (.completing id listed total) call attempt) ∧
      c = ⟨u.session.key, id, listed, total⟩ ∧
      u' = ⟨{ u.session with phase := .completed }, none⟩ := by
  have heffects : effects = (u.react event).2 := by rw [h]
  rw [heffects] at hdone
  cases event with
  | command command =>
      rw [react] at hdone
      split at hdone
      · exact absurd hdone (unfinished_begin _ _ c)
      · simp at hdone
  | died who =>
      cases who with
      | owner => exact absurd hdone (unfinished_finish (by simp) c)
      | part number => exact absurd hdone (unfinished_partDied u number c)
  | answered who answer =>
      cases who with
      | part number => exact absurd hdone (unfinished_partAnswered u number answer c)
      | owner =>
          cases hawaiting : u.awaiting with
          | none => simp [react, ownerAnswered, hawaiting] at hdone
          | some await =>
              cases await with
              | parts id => simp [react, ownerAnswered, hawaiting] at hdone
              | store purpose call attempt =>
                  have htold := ownerTold_of_awaiting hawaiting answer
                  obtain ⟨id, listed, total, tag, rfl, rfl, hc, hu⟩ :=
                    completed_of_ownerTold htold hdone
                  rw [h] at hu
                  exact ⟨id, listed, total, call, attempt, tag, rfl, rfl, hc, hu⟩

/-! ## What reactions keep -/

/-- A session is the same upload's at a later time: it has the same parts and perhaps more, and was
neither opened nor completed in between. -/
structure Follows (s s' : Session) : Prop where
  key : s'.key = s.key
  parts : ∃ new, s'.parts = s.parts ++ new
  phase : s'.phase = s.phase ∨ ∃ error, s'.phase = .failed error

/-- Nothing but what is pending or on its way was changed. -/
theorem follows_of_eq {s s' : Session} (hkey : s'.key = s.key) (hparts : s'.parts = s.parts)
    (hphase : s'.phase = s.phase) : Follows s s' :=
  ⟨hkey, ⟨[], by rw [hparts, List.append_nil]⟩, .inl hphase⟩

theorem follows_fail (s : Session) (error : UploadError) :
    Follows s (fail s error).1.session := by
  unfold fail
  dsimp only
  split
  · exact follows_of_eq rfl rfl rfl
  · exact ⟨rfl, ⟨[], (List.append_nil _).symm⟩, .inr ⟨error, rfl⟩⟩

theorem Joined.follows {s : Session} {id : String} {result : Upload × List Effect}
    (h : Joined s id result) : Follows s result.1.session := by
  cases h with
  | waits busy => exact follows_of_eq rfl rfl rfl
  | completes quiet acked nonempty => exact follows_of_eq rfl rfl rfl
  | fails error => exact follows_fail s error

theorem follows_afterPart (u : Upload) : Follows u.session u.afterPart.1.session := by
  rcases afterPart_cases u with ⟨id, -, hjoined⟩ | ⟨-, hnone⟩
  · exact hjoined.follows
  · rw [hnone]
    exact follows_of_eq rfl rfl rfl

/-- The answer to a part opens and completes nothing. -/
theorem PartTold.phase {u : Upload} {task : PartTask} {answer : Except StoreError String}
    {result : Upload × List Effect} (h : PartTold u task answer result) :
    result.1.session.phase = u.session.phase ∨ ∃ error, result.1.session.phase = .failed error := by
  cases h with
  | acknowledged => exact (follows_afterPart _).phase
  | again pause => exact .inl rfl
  | lost pause => exact (follows_afterPart _).phase

/-- A part whose task dies is on its way no longer. -/
theorem partDied_of_mem (u : Upload) {task : PartTask} (htask : task ∈ u.session.tasks) :
    u.partDied task.number = afterPart
      { u with
        session :=
          { u.session with tasks := u.session.tasks.filter (·.number != task.number) } } := by
  have hany : u.session.tasks.any (·.number == task.number) = true :=
    List.any_eq_true.2 ⟨task, htask, beq_self_eq_true _⟩
  rw [partDied, if_pos hany]

theorem follows_partDied (u : Upload) {task : PartTask} (htask : task ∈ u.session.tasks) :
    Follows u.session (u.partDied task.number).1.session := by
  rw [u.partDied_of_mem htask]
  obtain ⟨hkey, hparts, hphase⟩ := follows_afterPart
    { u with
      session :=
        { u.session with tasks := u.session.tasks.filter (·.number != task.number) } }
  exact ⟨hkey, hparts, hphase⟩

/-- The part that is submitted is put behind the others. -/
theorem follows_submit (s : Session) (pending : ByteArray) (id : String) :
    Follows s ({ s with pending }.submit id).1 :=
  ⟨rfl, ⟨_, rfl⟩, .inl rfl⟩

theorem Told.follows {s : Session} {id : String} {c : Command} {out : Upload × List Effect}
    (h : Told s id c out) : Follows s out.1.session := by
  cases h with
  | reopened => exact follows_of_eq rfl rfl rfl
  | refused gate lost => exact follows_fail s _
  | gathered healthy few => exact follows_of_eq rfl rfl rfl
  | flushed healthy enough => exact follows_submit s _ id
  | sent => exact follows_of_eq rfl rfl rfl
  | joined healthy empty joined => exact joined.follows
  | flushedLast healthy rest => exact follows_submit s s.pending id
  | aborted => exact ⟨rfl, ⟨[], (List.append_nil _).symm⟩, .inr ⟨_, rfl⟩⟩

/-- A command leaves the parts, and adds at most one. -/
theorem follows_begin (s : Session) (c : Command) : Follows s (begin s c).1.session := by
  have hbegun := begun_begin s c
  generalize begin s c = out at hbegun
  cases hbegun with
  | creating phase => exact follows_of_eq rfl rfl rfl
  | told phase told => exact told.follows
  | dismissed shut refused => exact follows_of_eq rfl rfl rfl
  | failed shut lost => exact follows_fail s _

theorem parts_fail (s : Session) (error : UploadError) :
    (fail s error).1.session.parts = s.parts := by
  unfold fail
  dsimp only
  split <;> rfl

/-- The owner's calls have no bearing on the parts. -/
theorem OwnerTold.parts {u : Upload} {purpose : Purpose} {call : StoreCall} {attempt : Nat}
    {answer : Except StoreError String} {result : Upload × List Effect}
    (h : OwnerTold u purpose call attempt answer result) :
    result.1.session.parts = u.session.parts := by
  cases h with
  | again retried pause => rfl
  | concluded last =>
      cases purpose with
      | completing id parts total =>
          cases answer with
          | ok tag => rfl
          | error e => exact parts_fail _ _
      | _ => cases answer <;> rfl

end Upload

end StudySession

import Mathlib.Data.List.Chain
import StudySession.Proofs.Recorder.Fronts
import StudySession.Proofs.Recorder.Runs
import StudySession.Proofs.Recorder.Sessions

/-!
# The grammar of recorder events

What a handler hears that is registered for every kind of events. The kinds are told in words of
sessions (`eventWords`): where the words have come to follows the state of the recorder and what its
command waits for (`Spoken`). A recording under way holds its upload and the name of its video, so a
stop always has an upload to wait for, and answers with what the handlers hear of it.
-/

namespace StudySession

/-! ## Handlers -/

namespace Emitter

variable {e : Emitter} {handler : Nat}

/-- A handler is registered once for each kind. -/
def Hears (e : Emitter) (handler : Nat) : Prop := ∀ kind, e.handlers.count (kind, handler) = 1

/-- What a handler heard, in order. -/
def heardBy (e : Emitter) (handler : Nat) : List RecorderEvent :=
  e.heard.filterMap fun (other, event) => if other = handler then some event else none

theorem Hears.on (h : e.Hears handler) (kind : EventKind) {other : Nat} (hother : other ≠ handler) :
    (e.on kind other).Hears handler := by
  intro asked
  rw [Emitter.on, List.count_append, h asked, List.count_singleton, if_neg]
  simp [hother]

theorem Hears.emit (h : e.Hears handler) (event : RecorderEvent) : (e.emit event).Hears handler := h

/-- It hears every event once. -/
theorem Hears.heardBy_emit (h : e.Hears handler) (event : RecorderEvent) :
    (e.emit event).heardBy handler = e.heardBy handler ++ [event] := by
  have honce : ∀ handlers : List (EventKind × Nat),
      ((handlers.filter (·.1 == event.kind)).map fun entry => (entry.2, event)).filterMap
        (fun (other, event) => if other = handler then some event else none) =
      List.replicate (handlers.count (event.kind, handler)) event := by
    intro handlers
    induction handlers with
    | nil => rfl
    | cons entry rest ih =>
        obtain ⟨kind, other⟩ := entry
        rw [List.count_cons]
        by_cases hkind : kind = event.kind
        · subst hkind
          by_cases hother : other = handler <;> simpa [hother, List.replicate_succ] using ih
        · simpa [hkind] using ih
  rw [heardBy, Emitter.emit]
  dsimp only
  rw [List.filterMap_append, honce, h event.kind]
  rfl

end Emitter

/-! ## Words of events -/

/-- The kinds of events of recordings. -/
def eventWords : SessionWords EventKind where
  opening := .installed
  start := .started
  pause := .paused
  resume := .resumed
  ending := .char .stopped * (.char .uploadCompleted + .char .uploadFailed)

/-- An event tells how an upload ended. -/
def EventKind.EndsUpload (kind : EventKind) : Prop := kind = .uploadCompleted ∨ kind = .uploadFailed

instance (kind : EventKind) : Decidable kind.EndsUpload :=
  inferInstanceAs (Decidable (kind = .uploadCompleted ∨ kind = .uploadFailed))

theorem told_mem {kind : EventKind} (h : kind.EndsUpload) :
    [.stopped, kind] ∈ eventWords.ending.matches' := by
  have hkind : [kind] ∈ (.char .uploadCompleted + .char .uploadFailed :
      RegularExpression EventKind).matches' := by
    rcases h with rfl | rfl
    · exact .inl rfl
    · exact .inr rfl
  exact Language.append_mem_mul (l := {[EventKind.stopped]}) rfl hkind

/-- What has been told in a state, by what the command under way waits for. -/
inductive Spoken : RecorderState → Option Waiting → List EventKind → Prop where
  | fresh : Spoken .uninitialized none []
  | resting {q : RecorderState} {w : Option Waiting} {kinds : List EventKind}
      (state : q = .installed ∨ q = .stopped)
      (free : ∀ i deadline, w ≠ some (.uploading i deadline))
      (words : kinds ∈ eventWords.resting) : Spoken q w kinds
  | running {kinds : List EventKind} (words : kinds ∈ eventWords.running) :
      Spoken .recording none kinds
  | held {kinds : List EventKind} (words : kinds ∈ eventWords.held) : Spoken .paused none kinds
  | ending {before : List EventKind} {i deadline : Nat}
      (words : before ∈ eventWords.running ∨ before ∈ eventWords.held) :
      Spoken .stopped (some (.uploading i deadline)) (before ++ [.stopped])
  | gone {before : List EventKind} (words : Continues eventWords.resting before) :
      Spoken .destroyed none (before ++ [.destroyed])

namespace Spoken

variable {q q' : RecorderState} {w : Option Waiting} {kinds : List EventKind}

theorem eq_nil (h : Spoken .uninitialized w kinds) : kinds = [] := by
  cases h with
  | fresh => rfl
  | resting state free words => simp at state

/-- Before the recorder is destroyed, the words may go on. -/
theorem continues (h : Spoken q w kinds) (hlive : q ≠ .destroyed) :
    Continues eventWords.resting kinds := by
  have hmem : kinds = [] ∨ kinds ∈ eventWords.resting ∨ kinds ∈ eventWords.running ∨
      kinds ∈ eventWords.held → Continues eventWords.resting kinds :=
    SessionWords.continues_of_mem (told_mem (.inl rfl))
  cases h with
  | fresh => exact hmem (.inl rfl)
  | resting state free words => exact hmem (.inr (.inl words))
  | running words => exact hmem (.inr (.inr (.inl words)))
  | held words => exact hmem (.inr (.inr (.inr words)))
  | ending words =>
      refine ⟨[.uploadCompleted], ?_⟩
      rw [List.append_assoc]
      exact SessionWords.ending_mem words (told_mem (.inl rfl))
  | gone words => exact absurd rfl hlive

/-- Between recordings, and while one is about to start. -/
theorem words_of_resting (h : Spoken q w kinds) (hstate : q = .installed ∨ q = .stopped)
    (hfree : ∀ i deadline, w ≠ some (.uploading i deadline)) : kinds ∈ eventWords.resting := by
  cases h with
  | resting state free words => exact words
  | ending words => exact absurd rfl (hfree _ _)
  | _ => simp at hstate

/-- While a command waits for the store, no recording is under way. -/
theorem of_store (h : Spoken q w kinds) {i : Nat} (hwaits : w.bind (·.storePlace?) = some i) :
    (q = .installed ∨ q = .stopped) ∧ kinds ∈ eventWords.resting := by
  cases h with
  | resting state free words => exact ⟨state, words⟩
  | _ => cases hwaits

theorem words_of_active (h : Spoken q w kinds) (hstate : q = .recording ∨ q = .paused) :
    kinds ∈ eventWords.running ∨ kinds ∈ eventWords.held := by
  cases h with
  | running words => exact .inl words
  | held words => exact .inr words
  | resting state free words => rcases state with rfl | rfl <;> simp at hstate
  | _ => simp at hstate

theorem start (h : kinds ∈ eventWords.resting) : Spoken .recording none (kinds ++ [.started]) :=
  .running (SessionWords.start_mem h)

theorem pause (h : Spoken .recording w kinds) : Spoken .paused w (kinds ++ [.paused]) := by
  cases h with
  | running words => exact .held (SessionWords.pause_mem words)
  | resting state free words => simp at state

theorem resume (h : Spoken .paused w kinds) : Spoken .recording w (kinds ++ [.resumed]) := by
  cases h with
  | held words => exact .running (SessionWords.resume_mem words)
  | resting state free words => simp at state

/-- The command that stopped a recording tells how its upload ended. -/
theorem end_upload {i deadline : Nat} {kind : EventKind}
    (h : Spoken q (some (.uploading i deadline)) kinds) (hkind : kind.EndsUpload) :
    Spoken q none (kinds ++ [kind]) := by
  cases h with
  | resting state free words => exact absurd rfl (free _ _)
  | ending words =>
      rw [List.append_assoc]
      exact .resting (.inr rfl) nofun (SessionWords.ending_mem words (told_mem hkind))

theorem destroy (h : Spoken q w kinds) (hlive : q ≠ .destroyed) (hidle : w = none) :
    Spoken .destroyed w (kinds ++ [.destroyed]) :=
  hidle ▸ .gone (h.continues hlive)

/-- A recorder that is destroyed has told that, and its last command has ended. -/
theorem of_destroyed (h : Spoken .destroyed w kinds) :
    w = none ∧ ∃ before, Continues eventWords.resting before ∧ kinds = before ++ [.destroyed] := by
  cases h with
  | gone words => exact ⟨rfl, _, words, rfl⟩
  | resting state free words => simp at state

/-- In every state the words may go on, up to a last one. -/
theorem grammar (h : Spoken q w kinds) :
    ∃ before, Continues eventWords.resting before ∧
      kinds = before ++ if q = .destroyed then [.destroyed] else [] := by
  by_cases hstate : q = .destroyed
  · subst hstate
    rw [if_pos rfl]
    exact h.of_destroyed.2
  · exact ⟨kinds, h.continues hstate, by rw [if_neg hstate, List.append_nil]⟩

end Spoken

/-! ## Answers to stops -/

/-- After a stop, and only there, comes the end of the upload. -/
structure Paired (kinds : List EventKind) (waits : Prop) : Prop where
  chain : kinds.IsChain fun a b => a = .stopped ↔ b.EndsUpload
  last : kinds.getLast? = some .stopped ↔ waits

namespace Paired

variable {kinds : List EventKind} {waits : Prop}

theorem snoc (h : Paired kinds waits) {kind : EventKind} (hkind : kind.EndsUpload ↔ waits) :
    Paired (kinds ++ [kind]) (kind = .stopped) := by
  constructor
  · refine h.chain.append (.singleton kind) fun last hlast next hnext => ?_
    obtain rfl := Option.some.inj hnext
    rw [hkind, ← h.last, Option.mem_def.1 hlast, Option.some.injEq]
  · rw [List.getLast?_concat, Option.some.injEq]

/-- Once no command waits for an upload, every stop is followed by one end of an upload. -/
theorem followed (h : Paired kinds waits) (hidle : ¬waits) {before after : List EventKind}
    (heq : kinds = before ++ .stopped :: after) :
    ∃ told rest, after = told :: rest ∧ told.EndsUpload ∧
      ∀ next ∈ rest.head?, ¬next.EndsUpload := by
  cases after with
  | nil => exact absurd (h.last.1 (by rw [heq, List.getLast?_concat])) hidle
  | cons told rest =>
      have hchain := h.chain
      rw [heq, List.isChain_append_cons_cons] at hchain
      obtain ⟨-, htold, hrest⟩ := hchain
      have hends := htold.1 rfl
      refine ⟨told, rest, rfl, hends, fun next hnext hnextEnds => ?_⟩
      obtain rfl := ((List.isChain_cons.1 hrest).1 next hnext).2 hnextEnds
      simp [EventKind.EndsUpload] at hends

end Paired

/-! ## Recordings and their uploads -/

/-- The command under way is the one given last. -/
def Waiting.IsOf : Waiting → Option RecorderCommand → Prop
  | creating _ name, latest => latest = some (.start name)
  | undoing _ _, latest => ∃ name, latest = some (.start name)
  | uploading _ _, latest => latest = some .stop

namespace Front

/-- The upload at a place is for the object of a video. -/
def Holds (f : Front) (i : Nat) (name : String) : Prop := f.keys[i]? = some (videoObjectKey name)

/-- A command waits for the upload of a recording. -/
def Uploads (f : Front) : Prop := ∃ i deadline, f.waiting = some (.uploading i deadline)

/-- Every recording has its upload and its name, from the command that starts it to the one that
waits for its end. -/
structure Manned (latest : Option RecorderCommand) (f : Front) : Prop where
  command : ∀ w, f.waiting = some w → w.IsOf latest
  creating : ∀ i name, f.waiting = some (.creating i name) →
    f.Holds i name ∧ (f.state = .installed ∨ f.state = .stopped)
  recording : f.state = .recording ∨ f.state = .paused →
    ∃ i name, f.upload = some i ∧ f.videoId = some name ∧ f.Holds i name
  uploading : ∀ i deadline, f.waiting = some (.uploading i deadline) →
    ∃ name, f.videoId = some name ∧ f.Holds i name
  completed : ∀ (i : Nat) (c : CompletedUpload), f.results[i]? = some (some (.ok c)) →
    f.keys[i]? = some c.key

variable {f f' : Front} {label : Label} {latest : Option RecorderCommand}

/-- Where no command is under way, only a recording has to be looked at. -/
theorem Manned.of_idle (hidle : f.waiting = none)
    (hrecording : f.state = .recording ∨ f.state = .paused →
      ∃ i name, f.upload = some i ∧ f.videoId = some name ∧ f.Holds i name)
    (hcompleted : ∀ (i : Nat) (c : CompletedUpload), f.results[i]? = some (some (.ok c)) →
      f.keys[i]? = some c.key) : f.Manned latest := by
  have hnone : ∀ w, f.waiting ≠ some w := fun w heq => by cases hidle.symm.trans heq
  exact ⟨fun w heq => absurd heq (hnone w), fun i name heq => absurd heq (hnone _), hrecording,
    fun i deadline heq => absurd heq (hnone _), hcompleted⟩

/-- Stopping a recording never finds its upload gone. -/
theorem Manned.upload_ne_none (h : f.Manned latest)
    (hstate : f.state = .recording ∨ f.state = .paused) : f.upload ≠ none := by
  obtain ⟨i, name, hupload, -⟩ := h.recording hstate
  simp [hupload]

theorem Manned.step (h : f.Manned latest) (hstep : f.Step label f') :
    f'.Manned (label.command?.or latest) := by
  cases hstep with
  | behind kept =>
      exact ⟨h.command, h.creating, h.recording, h.uploading,
        fun i c hc => (kept i c hc).elim (h.completed i c) id⟩
  | registered kind handler => exact ⟨h.command, h.creating, h.recording, h.uploading, h.completed⟩
  | misnamed handler => exact h
  | refused c idle => exact .of_idle idle h.recording h.completed
  | failed idle permitted tried => exact .of_idle idle h.recording h.completed
  | installed idle state tried => exact .of_idle idle (by simp) h.completed
  | asked name idle state =>
      have hkey : (f.keys ++ [videoObjectKey name])[f.keys.length]? = some (videoObjectKey name) :=
        List.getElem?_concat_length
      refine ⟨?_, ?_, ?_, nofun, fun i c hc => ?_⟩
      · intro w heq
        obtain rfl := Option.some.inj heq
        rfl
      · intro i name' heq
        obtain ⟨rfl, rfl⟩ := Waiting.creating.inj (Option.some.inj heq)
        exact ⟨hkey, state⟩
      · intro hactive
        rcases state with state | state <;> simp [state] at hactive
      · dsimp only at hc ⊢
        rw [List.getElem?_append] at hc
        split at hc
        · have hkey := h.completed i c hc
          rwa [List.getElem?_append_left (List.getElem?_eq_some_iff.1 hkey).1]
        · -- the pump of the new recording has not come to anything
          have hnone := List.mem_of_getElem? hc
          simp at hnone
  | uncreated error waits => exact .of_idle rfl h.recording h.completed
  | started instant waits tried =>
      exact .of_idle rfl (fun _ => ⟨_, _, rfl, rfl, (h.creating _ _ waits).1⟩) h.completed
  | undoing waits tried =>
      refine ⟨fun w heq => ?_, nofun, h.recording, nofun, h.completed⟩
      obtain rfl := Option.some.inj heq
      exact ⟨_, h.command _ waits⟩
  | unstarted waits tried => exact .of_idle rfl h.recording h.completed
  | undone waits => exact .of_idle rfl h.recording h.completed
  | paused seconds idle state tried =>
      exact .of_idle idle (fun _ => h.recording (.inl state)) h.completed
  | resumed seconds idle state tried =>
      exact .of_idle idle (fun _ => h.recording (.inr state)) h.completed
  | stopped deadline seconds idle state held tried =>
      refine ⟨fun w heq => ?_, nofun, by simp, fun i deadline heq => ?_, h.completed⟩
      · obtain rfl := Option.some.inj heq
        rfl
      · obtain ⟨rfl, -⟩ := Waiting.uploading.inj (Option.some.inj heq)
        obtain ⟨j, name, hupload, hvideo, hkey⟩ := h.recording state
        obtain rfl := Option.some.inj (hupload.symm.trans held)
        exact ⟨name, hvideo, hkey⟩
  | stranded seconds idle state bare tried => exact absurd bare (h.upload_ne_none state)
  | completed waits ended => exact .of_idle rfl h.recording h.completed
  | lost error waits => exact .of_idle rfl h.recording h.completed
  | released idle state => exact .of_idle idle (by simp) h.completed
  | dismantled idle state tried => exact .of_idle idle (by simp) h.completed
  | redestroyed idle state => exact .of_idle idle h.recording h.completed

/-! ## What is heard -/

/-- The kinds that a handler was told. -/
def told (f : Front) (handler : Nat) : List EventKind := (f.emitter.heardBy handler).map (·.kind)

/-- What a handler heard that is registered for every kind. -/
structure Listened (handler : Nat) (f : Front) : Prop where
  hears : f.emitter.Hears handler
  spoken : Spoken f.state f.waiting (f.told handler)
  paired : Paired (f.told handler) f.Uploads

variable {handler : Nat}

theorem ne_uploading (h : f.waiting = none) (i deadline : Nat) :
    f.waiting ≠ some (.uploading i deadline) := by
  rw [h]
  nofun

theorem not_uploads_of_idle (h : f.waiting = none) : ¬f.Uploads :=
  fun ⟨i, deadline, heq⟩ => ne_uploading h i deadline heq

theorem not_uploads_of_store {w : Waiting} {i : Nat} (h : f.waiting = some w)
    (hplace : w.storePlace? = some i) : ¬f.Uploads := by
  rintro ⟨j, deadline, heq⟩
  obtain rfl := Option.some.inj (h.symm.trans heq)
  cases hplace

/-- Nothing is told. -/
theorem Listened.quiet (h : f.Listened handler) (hemitter : f'.emitter = f.emitter)
    (hspoken : Spoken f'.state f'.waiting (f.told handler)) (huploads : f.Uploads ↔ f'.Uploads) :
    f'.Listened handler := by
  have htold : f'.told handler = f.told handler := by rw [told, hemitter, ← told]
  refine ⟨hemitter ▸ h.hears, ?_, ?_⟩
  · rwa [htold]
  · rw [htold, ← propext huploads]
    exact h.paired

/-- An event is told. -/
theorem Listened.tell (h : f.Listened handler) (kind : EventKind) {event : RecorderEvent}
    (hkind : event.kind = kind) (hemitter : f'.emitter = f.emitter.emit event)
    (hspoken : Spoken f'.state f'.waiting (f.told handler ++ [kind]))
    (hends : kind.EndsUpload ↔ f.Uploads) (hstops : kind = .stopped ↔ f'.Uploads) :
    f'.Listened handler := by
  have htold : f'.told handler = f.told handler ++ [kind] := by
    rw [told, hemitter, h.hears.heardBy_emit, List.map_append, ← told, List.map_singleton, hkind]
  refine ⟨hemitter ▸ h.hears.emit event, ?_, ?_⟩
  · rwa [htold]
  · rw [htold, ← propext hstops]
    exact h.paired.snoc hends

/-- Every step goes on with the words. -/
theorem Listened.step (h : f.Listened handler) (hmanned : f.Manned latest)
    (hstep : f.Step label f') (hother : label.handler? ≠ some handler) : f'.Listened handler := by
  have hspoken := h.spoken
  cases hstep with
  | behind kept => exact ⟨h.hears, h.spoken, h.paired⟩
  | registered kind other =>
      exact ⟨h.hears.on kind fun heq => hother (congrArg some heq), h.spoken, h.paired⟩
  | misnamed other => exact h
  | refused c idle => exact h
  | failed idle permitted tried => exact ⟨h.hears, h.spoken, h.paired⟩
  | installed idle state tried =>
      rw [state] at hspoken
      refine h.tell .installed rfl rfl (.resting (.inl rfl) (ne_uploading idle) ?_)
        (iff_of_false (by decide) (not_uploads_of_idle idle))
        (iff_of_false (by decide) (not_uploads_of_idle idle))
      rw [hspoken.eq_nil]
      exact SessionWords.opening_mem (v := eventWords)
  | asked name idle state =>
      exact h.quiet rfl
        (.resting state nofun (hspoken.words_of_resting state (ne_uploading idle)))
        (iff_of_false (not_uploads_of_idle idle) (not_uploads_of_store rfl rfl))
  | uncreated error waits =>
      obtain ⟨state, words⟩ := hspoken.of_store (by rw [waits]; rfl)
      exact h.quiet rfl (.resting state nofun words)
        (iff_of_false (not_uploads_of_store waits rfl) (not_uploads_of_idle rfl))
  | started instant waits tried =>
      obtain ⟨-, words⟩ := hspoken.of_store (by rw [waits]; rfl)
      exact h.tell .started rfl rfl (.running (SessionWords.start_mem words))
        (iff_of_false (by decide) (not_uploads_of_store waits rfl))
        (iff_of_false (by decide) (not_uploads_of_idle rfl))
  | undoing waits tried =>
      obtain ⟨state, words⟩ := hspoken.of_store (by rw [waits]; rfl)
      exact h.quiet rfl (.resting state nofun words)
        (iff_of_false (not_uploads_of_store waits rfl) (not_uploads_of_store rfl rfl))
  | unstarted waits tried =>
      obtain ⟨state, words⟩ := hspoken.of_store (by rw [waits]; rfl)
      exact h.quiet rfl (.resting state nofun words)
        (iff_of_false (not_uploads_of_store waits rfl) (not_uploads_of_idle rfl))
  | undone waits =>
      obtain ⟨state, words⟩ := hspoken.of_store (by rw [waits]; rfl)
      exact h.quiet rfl (.resting state nofun words)
        (iff_of_false (not_uploads_of_store waits rfl) (not_uploads_of_idle rfl))
  | paused seconds idle state tried =>
      rw [state] at hspoken
      exact h.tell .paused rfl rfl hspoken.pause
        (iff_of_false (by decide) (not_uploads_of_idle idle))
        (iff_of_false (by decide) (not_uploads_of_idle idle))
  | resumed seconds idle state tried =>
      rw [state] at hspoken
      exact h.tell .resumed rfl rfl hspoken.resume
        (iff_of_false (by decide) (not_uploads_of_idle idle))
        (iff_of_false (by decide) (not_uploads_of_idle idle))
  | stopped deadline seconds idle state held tried =>
      exact h.tell .stopped rfl rfl (.ending (hspoken.words_of_active state))
        (iff_of_false (by decide) (not_uploads_of_idle idle)) (iff_of_true rfl ⟨_, _, rfl⟩)
  | stranded seconds idle state bare tried => exact absurd bare (hmanned.upload_ne_none state)
  | completed waits ended =>
      rw [waits] at hspoken
      exact h.tell .uploadCompleted rfl rfl (hspoken.end_upload (.inl rfl))
        (iff_of_true (.inl rfl) ⟨_, _, waits⟩) (iff_of_false (by decide) (not_uploads_of_idle rfl))
  | lost error waits =>
      rw [waits] at hspoken
      exact h.tell .uploadFailed rfl rfl (hspoken.end_upload (.inr rfl))
        (iff_of_true (.inr rfl) ⟨_, _, waits⟩) (iff_of_false (by decide) (not_uploads_of_idle rfl))
  | released idle state =>
      have hlive : f.state ≠ .destroyed := by
        rcases state with state | state | state <;> simp [state]
      exact h.tell .destroyed rfl rfl (hspoken.destroy hlive idle)
        (iff_of_false (by decide) (not_uploads_of_idle idle))
        (iff_of_false (by decide) (not_uploads_of_idle idle))
  | dismantled idle state tried =>
      have hlive : f.state ≠ .destroyed := by rcases state with state | state <;> simp [state]
      exact h.tell .destroyed rfl rfl (hspoken.destroy hlive idle)
        (iff_of_false (by decide) (not_uploads_of_idle idle))
        (iff_of_false (by decide) (not_uploads_of_idle idle))
  | redestroyed idle state => exact h

/-- A recorder that is destroyed is told nothing more of. -/
theorem Step.silent (hstep : f.Step label f') (hstate : f.state = .destroyed)
    (hidle : f.waiting = none) (handler : Nat) :
    f'.state = .destroyed ∧ f'.waiting = none ∧
      f'.emitter.heardBy handler = f.emitter.heardBy handler := by
  cases hstep with
  | behind kept => exact ⟨hstate, hidle, rfl⟩
  | registered kind other => exact ⟨hstate, hidle, rfl⟩
  | misnamed other => exact ⟨hstate, hidle, rfl⟩
  | refused c idle => exact ⟨hstate, hidle, rfl⟩
  | redestroyed idle state => exact ⟨hstate, hidle, rfl⟩
  | failed idle permitted tried => exact ⟨hstate, hidle, rfl⟩
  | uncreated error waits => cases hidle.symm.trans waits
  | started instant waits tried => cases hidle.symm.trans waits
  | undoing waits tried => cases hidle.symm.trans waits
  | unstarted waits tried => cases hidle.symm.trans waits
  | undone waits => cases hidle.symm.trans waits
  | completed waits ended => cases hidle.symm.trans waits
  | lost error waits => cases hidle.symm.trans waits
  | _ => simp_all

end Front

/-! ## How uploads end -/

/-- What is heard of the end of an upload when a command answers or does not: the video, the command
under way, its answer, and the events. -/
structure EndHeard (videoId : Option String) (latest : Option RecorderCommand)
    (result? : Option (Except RecorderError RecorderReply)) (events : List RecorderEvent) :
    Prop where
  completed_iff : (∃ e ∈ events, e.kind = .uploadCompleted) ↔
    latest = some .stop ∧ ∃ reply, result? = some (.ok reply)
  completed : ∀ reply, latest = some .stop → result? = some (.ok reply) →
    ∃ c name, reply = .uploaded c ∧ videoId = some name ∧ c.key = videoObjectKey name ∧
      events = [.uploadCompleted (videoObjectKey name) c.parts.length c.totalBytes]
  failed_iff : (∃ e ∈ events, e.kind = .uploadFailed) ↔
    latest = some .stop ∧ ∃ error, result? = some (.error (.upload error))
  failed : ∀ error, latest = some .stop → result? = some (.error (.upload error)) →
    ∃ name, videoId = some name ∧ events = [.uploadFailed name error.message]

namespace EndHeard

variable {videoId : Option String} {latest : Option RecorderCommand}
  {result? : Option (Except RecorderError RecorderReply)} {events : List RecorderEvent}

/-- Nothing is heard where no stop comes to an answer. -/
theorem of_silent (hsilent : ∀ e ∈ events, ¬e.kind.EndsUpload)
    (hother : latest = some .stop → (∀ reply, result? ≠ some (.ok reply)) ∧
      ∀ error, result? ≠ some (.error (.upload error))) :
    EndHeard videoId latest result? events where
  completed_iff := iff_of_false (fun ⟨e, he, hkind⟩ => hsilent e he (.inl hkind))
    fun ⟨hstop, reply, hreply⟩ => (hother hstop).1 reply hreply
  completed := fun reply hstop hreply => absurd hreply ((hother hstop).1 reply)
  failed_iff := iff_of_false (fun ⟨e, he, hkind⟩ => hsilent e he (.inr hkind))
    fun ⟨hstop, error, herror⟩ => (hother hstop).2 error herror
  failed := fun error hstop herror => absurd herror ((hother hstop).2 error)

theorem of_completed {c : CompletedUpload} {name : String} (hvideo : videoId = some name)
    (hkey : c.key = videoObjectKey name) :
    EndHeard videoId (some .stop) (some (.ok (.uploaded c)))
      [.uploadCompleted c.key c.parts.length c.totalBytes] where
  completed_iff := iff_of_true ⟨_, List.mem_singleton_self _, rfl⟩ ⟨rfl, _, rfl⟩
  completed := by
    intro reply _ hreply
    obtain rfl := Except.ok.inj (Option.some.inj hreply)
    exact ⟨c, name, rfl, hvideo, hkey, by rw [hkey]⟩
  failed_iff := iff_of_false (by simp [RecorderEvent.kind]) (by simp)
  failed := nofun

theorem of_failed {error : UploadError} {name : String} (hvideo : videoId = some name) :
    EndHeard videoId (some .stop) (some (.error (.upload error)))
      [.uploadFailed name error.message] where
  completed_iff := iff_of_false (by simp [RecorderEvent.kind]) (by simp)
  completed := nofun
  failed_iff := iff_of_true ⟨_, List.mem_singleton_self _, rfl⟩ ⟨rfl, _, rfl⟩
  failed := by
    intro error' _ herror
    obtain rfl := RecorderError.upload.inj (Except.error.inj (Option.some.inj herror))
    exact ⟨name, hvideo, rfl⟩

end EndHeard

/-- In every step a handler hears of the end of an upload what the stop answers. -/
theorem Front.Step.ends {f f' : Front} {label : Label} {latest : Option RecorderCommand}
    {handler : Nat} (hstep : f.Step label f') (hmanned : f.Manned latest)
    (hhears : f.emitter.Hears handler) :
    ∃ events, f'.emitter.heardBy handler = f.emitter.heardBy handler ++ events ∧
      EndHeard f.videoId (label.command?.or latest) label.result? events := by
  have hquiet : ∀ {f' : Front} {label : Label}, f'.emitter.heard = f.emitter.heard →
      (label.command?.or latest = some .stop → (∀ reply, label.result? ≠ some (.ok reply)) ∧
        ∀ error, label.result? ≠ some (.error (.upload error))) →
      ∃ events, f'.emitter.heardBy handler = f.emitter.heardBy handler ++ events ∧
        EndHeard f.videoId (label.command?.or latest) label.result? events :=
    fun heq hother => ⟨[], by rw [Emitter.heardBy, heq, ← Emitter.heardBy, List.append_nil],
      .of_silent (by simp) hother⟩
  have htell : ∀ {f' : Front} {label : Label} {event : RecorderEvent} (kind : EventKind),
      event.kind = kind → ¬kind.EndsUpload → f'.emitter = f.emitter.emit event →
      (label.command?.or latest = some .stop → (∀ reply, label.result? ≠ some (.ok reply)) ∧
        ∀ error, label.result? ≠ some (.error (.upload error))) →
      ∃ events, f'.emitter.heardBy handler = f.emitter.heardBy handler ++ events ∧
        EndHeard f.videoId (label.command?.or latest) label.result? events := by
    intro f' label event kind hkind hends hemitter hother
    refine ⟨[event], by rw [hemitter, hhears.heardBy_emit], .of_silent (fun e he => ?_) hother⟩
    obtain rfl := List.mem_singleton.1 he
    rwa [hkind]
  have hstart : ∀ {w i}, f.waiting = some w → w.storePlace? = some i → latest ≠ some .stop := by
    intro w i hwaits hplace heq
    have hcommand := hmanned.command w hwaits
    cases w with
    | creating j name => simp [heq, Waiting.IsOf] at hcommand
    | undoing j reason => simp [heq, Waiting.IsOf] at hcommand
    | uploading j deadline => cases hplace
  cases hstep with
  | behind kept => exact hquiet rfl fun _ => ⟨nofun, nofun⟩
  | registered kind other => exact hquiet rfl fun _ => ⟨nofun, nofun⟩
  | misnamed other => exact hquiet rfl fun _ => ⟨nofun, nofun⟩
  | refused c idle => exact hquiet rfl fun _ => ⟨nofun, nofun⟩
  | failed idle permitted tried => exact hquiet rfl fun _ => ⟨nofun, nofun⟩
  | installed idle state tried => exact htell .installed rfl (by decide) rfl nofun
  | asked name idle state => exact hquiet rfl fun _ => ⟨nofun, nofun⟩
  | uncreated error waits => exact hquiet rfl fun heq => absurd heq (hstart waits rfl)
  | started instant waits tried =>
      exact htell .started rfl (by decide) rfl fun heq => absurd heq (hstart waits rfl)
  | undoing waits tried => exact hquiet rfl fun _ => ⟨nofun, nofun⟩
  | unstarted waits tried => exact hquiet rfl fun _ => ⟨nofun, nofun⟩
  | undone waits => exact hquiet rfl fun _ => ⟨nofun, nofun⟩
  | paused seconds idle state tried => exact htell .paused rfl (by decide) rfl nofun
  | resumed seconds idle state tried => exact htell .resumed rfl (by decide) rfl nofun
  | stopped deadline seconds idle state held tried =>
      exact htell .stopped rfl (by decide) rfl fun _ => ⟨nofun, nofun⟩
  | stranded seconds idle state bare tried => exact absurd bare (hmanned.upload_ne_none state)
  | completed waits ended =>
      obtain ⟨name, hvideo, hkey⟩ := hmanned.uploading _ _ waits
      obtain rfl : latest = some .stop := hmanned.command _ waits
      have hobject := Option.some.inj ((hmanned.completed _ _ ended).symm.trans hkey)
      exact ⟨_, hhears.heardBy_emit _, .of_completed hvideo hobject⟩
  | lost error waits =>
      obtain ⟨name, hvideo, -⟩ := hmanned.uploading _ _ waits
      obtain rfl : latest = some .stop := hmanned.command _ waits
      have hname : f.videoId.getD "" = name := by rw [hvideo, Option.getD_some]
      refine ⟨_, hhears.heardBy_emit _, ?_⟩
      rw [hname]
      exact .of_failed hvideo
  | released idle state => exact htell .destroyed rfl (by decide) rfl nofun
  | dismantled idle state tried => exact htell .destroyed rfl (by decide) rfl nofun
  | redestroyed idle state => exact hquiet rfl nofun

/-- The stop itself never finds that there is no upload. -/
theorem Front.Manned.stop_waits {f f' : Front} {label : Label} {latest : Option RecorderCommand}
    (h : f.Manned latest) (hstep : f.Step label f') (hstop : label.command? = some .stop)
    (error : UploadError) : label.result? ≠ some (.error (.upload error)) := by
  cases hstep with
  | stranded seconds idle state bare tried => exact absurd bare (h.upload_ne_none state)
  | refused c idle => nofun
  | failed idle permitted tried => nofun
  | stopped deadline seconds idle state held tried => nofun
  | _ => cases hstop

/-! ## Courses -/

theorem EventKind.ofName?_name (kind : EventKind) : ofName? kind.name = some kind := by
  cases kind <;> decide

namespace Scene

/-- A handler is registered for every kind of events. -/
def listening (s : Scene) (handler : Nat) : Scene :=
  ⟨EventKind.all.foldl (fun r kind => (r.on kind.name handler).2) s.recorder, s.waiting⟩

/-- What a handler heard. -/
def heardBy (s : Scene) (handler : Nat) : List RecorderEvent :=
  s.recorder.emitter.heardBy handler

variable {first s s' : Scene} {turns later : List Turn} {handler : Nat}

theorem front_listening (config : RecorderConfig) (uploadConfig : UploadConfig)
    (script : Dict (List ScriptedCall)) (available : DeviceChoice)
    (failures : Dict (List (Option String))) (preferred : DeviceChoice) (origin : Timestamp)
    (handler : Nat) :
    ((opening config uploadConfig script available failures preferred origin).listening
        handler).front =
      { (opening config uploadConfig script available failures preferred origin).front with
        emitter := ⟨EventKind.all.map (·, handler), []⟩ } := by
  have hon : ∀ (r : Recorder) (kind : EventKind), (r.on kind.name handler).2 =
      { r with emitter := r.emitter.on kind handler } := fun r kind => by
    rw [Recorder.on, EventKind.ofName?_name]
  simp only [listening, hon]
  rfl

/-- The handler hears from the beginning. -/
theorem listened_listening (config : RecorderConfig) (uploadConfig : UploadConfig)
    (script : Dict (List ScriptedCall)) (available : DeviceChoice)
    (failures : Dict (List (Option String))) (preferred : DeviceChoice) (origin : Timestamp)
    (handler : Nat) :
    let first := (opening config uploadConfig script available failures preferred origin).listening
      handler
    first.front.Manned none ∧ first.front.Listened handler := by
  intro first
  have hfront : first.front = _ :=
    front_listening config uploadConfig script available failures preferred origin handler
  rw [hfront]
  refine ⟨.of_idle rfl (by simp [front, opening, Recorder.new]) nofun,
    ⟨fun kind => ?_, .fresh, .nil, ?_⟩⟩
  · cases kind <;> simp [EventKind.all]
  · exact iff_of_false (by simp [Front.told, Emitter.heardBy]) (Front.not_uploads_of_idle rfl)

/-- It goes on hearing while it is not registered again. -/
theorem Course.listened (h : Course first turns s) (hmanned : first.front.Manned none)
    (hlistened : first.front.Listened handler) (hother : .handler handler ∉ sightsOf turns) :
    s.front.Manned (latestCommand? turns) ∧ s.front.Listened handler := by
  induction h with
  | start => exact ⟨hmanned, hlistened⟩
  | @step turns s s' a sofar acted ih =>
      rw [sightsOf_snoc, List.mem_append, not_or] at hother
      obtain ⟨hmanned, hlistened⟩ := ih hother.1
      have hstep := front_step acted
      have hnew : (Turn.mk s a s').label.handler? ≠ some handler := fun heq =>
        hother.2 (Turn.handler_mem_sights heq)
      rw [latestCommand?_snoc]
      exact ⟨hmanned.step hstep, hlistened.step hmanned hstep hnew⟩

/-- After the recorder is destroyed nothing is heard. -/
theorem Course.silent (h : Course first turns s) (hstate : first.recorder.state = .destroyed)
    (hidle : first.waiting = none) : s.heardBy handler = first.heardBy handler := by
  have hkept := h.kept (P := fun _ s => s.recorder.state = .destroyed ∧ s.waiting = none ∧
      s.heardBy handler = first.heardBy handler) ⟨hstate, hidle, rfl⟩ ?_
  · exact hkept.2.2
  · rintro turns s a s' - ⟨hstate, hidle, hheard⟩ hact
    obtain ⟨hstate', hidle', hheard'⟩ := (front_step hact).silent hstate hidle handler
    exact ⟨hstate', hidle', hheard'.trans hheard⟩

end Scene

/-- What a handler heard in a course, and the scene that the course led to. -/
structure HeardWell (handler : Nat) (turns : List Turn) (scene : Scene) : Prop where
  /-- Less a last `destroyed`, the kinds are on their way to
  `installed (started (paused resumed)* paused? stopped (upload-completed | upload-failed))*`. -/
  grammar : ∃ kinds, Continues eventWords.sessions.matches' kinds ∧
    (scene.heardBy handler).map (·.kind) =
      kinds ++ if scene.recorder.state = .destroyed then [.destroyed] else []
  /-- After that nothing is heard. -/
  silent : scene.recorder.state = .destroyed → ∀ later last, scene.Course later last →
    last.heardBy handler = scene.heardBy handler
  /-- Between commands, every stop has been followed by one end of an upload. -/
  answered : scene.waiting = none → ∀ before after,
    (scene.heardBy handler).map (·.kind) = before ++ .stopped :: after →
    ∃ told rest, after = told :: rest ∧ told.EndsUpload ∧ ∀ next ∈ rest.head?, ¬next.EndsUpload
  /-- In every turn the end of an upload is heard as the stop answers it. -/
  ended : ∀ earlier t later, turns = earlier ++ t :: later →
    ∃ events, t.after.heardBy handler = t.before.heardBy handler ++ events ∧
      EndHeard t.before.recorder.videoId (latestCommand? (earlier ++ [t])) t.result? events
  /-- A recording under way has its upload and its name. -/
  manned : scene.recorder.state = .recording ∨ scene.recorder.state = .paused →
    ∃ i name, scene.recorder.upload = some i ∧ scene.recorder.videoId = some name ∧
      scene.recorder.timeline.keys[i]? = some (videoObjectKey name)
  /-- So the stop itself never finds that there is no upload. -/
  stops : ∀ t ∈ turns, t.command? = some .stop → ∀ error,
    t.result? ≠ some (.error (.upload error))

/-- What a handler hears of a recorder that is registered for every kind of events before all else,
in whatever order commands are given, and however the capture device and the store fail. What calls
on the recorder come to is one of its courses. -/
theorem heard_well (config : RecorderConfig) (uploadConfig : UploadConfig)
    (script : Dict (List ScriptedCall)) (available : DeviceChoice)
    (failures : Dict (List (Option String))) (preferred : DeviceChoice) (origin : Timestamp)
    (handler : Nat) :
    let first := (Scene.opening config uploadConfig script available failures preferred
      origin).listening handler
    (∀ calls r report, first.recorder.reports calls = some (r, report) →
      ∃ turns, first.Course turns ⟨r, none⟩ ∧ sightsOf turns = report) ∧
    ∀ turns scene, first.Course turns scene → .handler handler ∉ sightsOf turns →
      HeardWell handler turns scene := by
  intro first
  refine ⟨fun calls r report => Scene.course_of_reports, fun turns scene hcourse hother => ?_⟩
  obtain ⟨hmanned₀, hlistened₀⟩ := Scene.listened_listening config uploadConfig script available
    failures preferred origin handler
  obtain ⟨hmanned, hlistened⟩ := hcourse.listened hmanned₀ hlistened₀ hother
  -- what is known before each turn
  have hturn : ∀ earlier t later, turns = earlier ++ t :: later →
      t.before.front.Manned (latestCommand? earlier) ∧ t.before.front.Listened handler ∧
        t.before.front.Step t.label t.after.front := by
    rintro earlier t later rfl
    obtain ⟨hearlier, hact, -⟩ := hcourse.split
    rw [sightsOf, List.flatMap_append, List.mem_append, not_or] at hother
    obtain ⟨hm, hl⟩ := hearlier.listened hmanned₀ hlistened₀ hother.1
    exact ⟨hm, hl, Scene.front_step hact⟩
  exact {
    grammar := hlistened.spoken.grammar
    silent := fun hstate later last hlater => by
      have hspoken : Spoken scene.recorder.state scene.waiting _ := hlistened.spoken
      rw [hstate] at hspoken
      exact hlater.silent hstate hspoken.of_destroyed.1
    answered := fun hidle before after heq =>
      hlistened.paired.followed (Front.not_uploads_of_idle hidle) heq
    ended := fun earlier t later heq => by
      obtain ⟨hm, hl, hstep⟩ := hturn earlier t later heq
      rw [latestCommand?_snoc]
      exact hstep.ends hm hl.hears
    manned := hmanned.recording
    stops := fun t ht hstop error => by
      obtain ⟨earlier, later, heq⟩ := List.append_of_mem ht
      obtain ⟨hm, -, hstep⟩ := hturn earlier t later heq
      exact hm.stop_waits hstep hstop error }

/-! The second of two recordings is refused by the store when it is completed. -/

def refusedSecond : Dict (List ScriptedCall) :=
  [("complete", [⟨0, .passed⟩, ⟨0, .failed (.rejected "scripted")⟩])]

def refusedCalls : List RecorderCall :=
  [.run .install, .run (.start "first"), .send ⟨#[1, 2]⟩, .run .pause, .run .resume, .run .stop,
    .run (.start "second"), .send ⟨#[3]⟩, .run .stop, .run .destroy, .run .destroy]

/-- The handlers that were registered. -/
def registered (report : List Sight) : List Nat :=
  report.filterMap fun
    | .handler handler => some handler
    | _ => none

theorem heard_well_refused :
    ∃ turns r, ((Scene.opening {} {} refusedSecond {} [] {} ⟨0, 0⟩).listening 7).Course turns
        ⟨r, none⟩ ∧ .handler 7 ∉ sightsOf turns ∧
      (r.emitter.heardBy 7).map (·.kind) =
        [.installed, .started, .paused, .resumed, .stopped, .uploadCompleted, .started, .stopped,
          .uploadFailed, .destroyed] ∧
      .uploadCompleted "first.webm" 1 2 ∈ r.emitter.heardBy 7 ∧
      HeardWell 7 turns ⟨r, none⟩ := by
  have hreports : (((Scene.opening {} {} refusedSecond {} [] {} ⟨0, 0⟩).listening
      7).recorder.reports refusedCalls).any (fun p => decide (registered p.2 = [] ∧
        (p.1.emitter.heardBy 7).map (·.kind) =
          [.installed, .started, .paused, .resumed, .stopped, .uploadCompleted, .started, .stopped,
            .uploadFailed, .destroyed] ∧
        .uploadCompleted "first.webm" 1 2 ∈ p.1.emitter.heardBy 7)) = true := by decide +kernel
  obtain ⟨⟨r, report⟩, hreports, hend⟩ := (Option.any_eq_true _ _).1 hreports
  obtain ⟨hregistered, hkinds, hcompleted⟩ := of_decide_eq_true hend
  obtain ⟨hcourses, hheard⟩ := heard_well {} {} refusedSecond {} [] {} ⟨0, 0⟩ 7
  obtain ⟨turns, hcourse, rfl⟩ := hcourses _ _ _ hreports
  have hother : .handler 7 ∉ sightsOf turns := fun hmem =>
    Option.some_ne_none 7 (List.filterMap_eq_nil_iff.1 hregistered _ hmem)
  exact ⟨turns, r, hcourse, hother, hkinds, hcompleted, hheard _ _ hcourse hother⟩

end StudySession

import StudySession.Proofs.Upload.Ledger
import StudySession.Upload.Stream

/-!
# Plans

What the owner of a single upload tells it, one command after the other, by what it is answered.
Streaming a file is such a plan (`Plan.stream_eq`). An `Errand` carries a plan out on a timeline,
with whatever is due in any order. A plan is `Orderly` if it creates the upload first and does not
leave it open; carrying it out keeps the ledger (`Errand.Abiding.move`), so when it is done, nothing
is open.
-/

namespace StudySession

/-- What is told to an upload, by what it answers. -/
inductive Plan (α : Type) where
  | done (a : α)
  | tell (c : Command) (next : Except UploadError Outcome → Plan α)

namespace Plan

variable {α : Type}

/-- Carries a plan out with a store that answers every call at once. -/
def obeyed {σ : Type} (store : ImmediateStore σ) (u : Upload) (state : σ) : Plan α → α × σ
  | done a => (a, state)
  | tell c next =>
    let ((u, state), result) := u.obey store state c
    obeyed store u state (next result)

/-- Takes in what is read, and completes the upload at its end. -/
def takeIn : List (Except FileError ByteArray) → Plan (Except StreamError CompletedUpload)
  | [] => tell .complete fun
    | .ok (.completed upload) => done (.ok upload)
    | .ok _ => done (.error (.upload .notStarted))
    | .error e => done (.error (.upload e))
  | .error e :: _ => tell .abort fun _ => done (.error (.unreadable e))
  | .ok chunk :: rest => tell (.accept chunk) fun
    | .ok _ => takeIn rest
    | .error e => done (.error (.upload e))

/-- Uploads what is read. -/
def stream (reads : List (Except FileError ByteArray)) : Plan (Except StreamError CompletedUpload) :=
  tell .create fun
    | .ok _ => takeIn reads
    | .error e => done (.error (.upload e))

variable {σ : Type}

theorem takeIn_eq (store : ImmediateStore σ) (u : Upload) (state : σ)
    (reads : List (Except FileError ByteArray)) :
    u.takeIn store state reads = (takeIn reads).obeyed store u state := by
  induction reads generalizing u state with
  | nil =>
      rw [Upload.takeIn, takeIn, obeyed]
      obtain ⟨⟨u, state⟩, result⟩ := u.obey store state .complete
      cases result with
      | error e => rfl
      | ok outcome => cases outcome <;> rfl
  | cons read rest ih =>
      cases read with
      | error e => rfl
      | ok chunk =>
          rw [Upload.takeIn, takeIn, obeyed]
          obtain ⟨⟨u, state⟩, result⟩ := u.obey store state (.accept chunk)
          cases result with
          | error e => rfl
          | ok outcome => exact ih u state

/-- Streaming a file is carrying out its plan. -/
theorem stream_eq (store : ImmediateStore σ) (u : Upload) (state : σ)
    (reads : List (Except FileError ByteArray)) :
    u.stream store state reads = (stream reads).obeyed store u state := by
  rw [Upload.stream, stream, obeyed]
  obtain ⟨⟨u, state⟩, result⟩ := u.obey store state .create
  cases result with
  | error e => rfl
  | ok outcome => exact takeIn_eq store u state reads

end Plan

/-! ## Orderly plans -/

/-- What a command comes to in the end, by the stance before it. -/
inductive Ends : Stance → Command → Stance → Except UploadError Outcome → Prop where
  | created {snapshot : Snapshot} : Ends .unopened .create .opened (.ok (.opened snapshot))
  | refused {error : UploadError} : Ends .unopened .create .unopened (.error error)
  | taken {chunk : ByteArray} : Ends .opened (.accept chunk) .opened (.ok .done)
  | closed {c : Command} {result : Except UploadError Outcome} : Ends .opened c .past result
  | dismissed {c : Command} {result : Except UploadError Outcome} : Ends .past c .past result

theorem Told.ends {stance after : Stance} {c : Command} {result : Except UploadError Outcome}
    (h : Told stance c after (some result)) : Ends stance c after result := by
  cases h with
  | taken => exact .taken
  | dismissed => exact .dismissed

theorem Dealt.ends {stance between after : Stance} {c : Command}
    {result : Except UploadError Outcome} (h : Dealt between after (some result))
    (htold : Told stance c between none) : Ends stance c after result := by
  cases htold with
  | created =>
      cases h with
      | created => exact .created
      | refused => exact .refused
  | closing =>
      cases h with
      | closed => exact .closed

/-- Until a command ends, its upload stays as it is. -/
theorem Dealt.eq_of_none {stance after : Stance} (h : Dealt stance after none) : after = stance := by
  cases h
  rfl

namespace Plan

variable {α : Type}

/-- A plan that fits the stance of its upload, and does not leave it open. -/
def Orderly : Stance → Plan α → Prop
  | stance, done _ => stance = .unopened ∨ stance = .past
  | stance, tell c next => Account.Fits stance c ∧
      ∀ after result, Ends stance c after result → Orderly after (next result)

end Plan

/-! ## Errands -/

/-- A plan that is carried out on a timeline, and whether its next command is under way. -/
structure Errand (α : Type) where
  timeline : Timeline
  plan : Plan α
  told : Bool

/-- What can happen on an errand. -/
inductive ErrandMove where
  /-- The next command is told. -/
  | tell
  /-- An entry of the agenda happens at an instant. -/
  | occur (k now : Nat)

namespace Errand

variable {α : Type}

/-- An errand with an upload to a store under a script. -/
def opening (config : UploadConfig) (name : String) (script : Dict (List ScriptedCall))
    (plan : Plan α) : Errand α :=
  ⟨(Timeline.new script).add (.new config name), plan, false⟩

/-- Goes on with the plan when the command under way has ended. -/
def answer (e : Errand α) : Option (Except UploadError Outcome) → Errand α
  | none => e
  | some result =>
    match e.plan with
    | .done _ => e
    | .tell _ next => ⟨e.timeline, next result, false⟩

/-- Makes a move, if it can be made: the errand after it, and what the store answered. -/
def move? (e : Errand α) : ErrandMove → Option (Errand α × Option Contact)
  | .tell =>
    match e.plan, e.told with
    | .tell c _, false =>
      let (timeline, result) := e.timeline.command 0 c
      some (answer ⟨timeline, e.plan, true⟩ result, none)
    | _, _ => none
  | .occur k now =>
    (e.timeline.occur? k now).map fun (contact, timeline, notice) =>
      (match notice with
        | some (.finished _ result) => answer ⟨timeline, e.plan, e.told⟩ (some result)
        | _ => ⟨timeline, e.plan, e.told⟩, contact)

/-- The errand after some moves, and all that the store answered. -/
def play (e : Errand α) (moves : List ErrandMove) : Option (Errand α × List Contact) :=
  playMoves move? e moves

/-! ### What moves keep -/

/-- How the upload of an errand stands by its plan. -/
inductive Abides : Stance → Plan α → Bool → Prop where
  | ready {stance : Stance} {plan : Plan α} (orderly : plan.Orderly stance) :
      Abides stance plan false
  | waits {before between : Stance} {c : Command} {next : Except UploadError Outcome → Plan α}
      (orderly : (Plan.tell c next).Orderly before) (told : Told before c between none) :
      Abides between (.tell c next) true

/-- An errand of which the ledger is kept and the plan is orderly. -/
structure Abiding (passing : Prop) (e : Errand α) (stances : Nat → Stance) (log : List Contact) :
    Prop where
  ledger : Ledger passing e.timeline stances log
  single : e.timeline.uploads.length = 1
  abides : Abides (stances 0) e.plan e.told

variable {passing : Prop} {e e' : Errand α} {stances : Nat → Stance} {log : List Contact}

/-- A plan does not end while its upload is open or waits. -/
theorem Abides.settled {stance : Stance} {a : α} {told : Bool}
    (h : Abides stance (.done a) told) : stance = .unopened ∨ stance = .past := by
  cases h with
  | ready orderly => exact orderly

/-- Where an upload waits, a command is under way. -/
theorem Abides.answer {stance after : Stance} {plan : Plan α} {told : Bool}
    {result : Except UploadError Outcome} (h : Abides stance plan told)
    (hdealt : Dealt stance after (some result)) :
    ∃ c next, plan = .tell c next ∧ (next result).Orderly after := by
  cases h with
  | waits orderly told => exact ⟨_, _, rfl, orderly.2 _ _ (hdealt.ends told)⟩
  | @ready stance plan orderly =>
      have hbusy : stance = .creating ∨ stance = .closing := by
        cases hdealt with
        | created => exact .inl rfl
        | refused => exact .inl rfl
        | closed => exact .inr rfl
      cases plan with
      | done a => rcases hbusy with rfl | rfl <;> simp [Plan.Orderly] at orderly
      | tell c next => rcases hbusy with rfl | rfl <;> exact orderly.1.elim

theorem Abiding.tell (h : Abiding passing e stances log) {contact : Option Contact}
    (hmove : e.move? .tell = some (e', contact)) :
    ∃ stances', Abiding passing e' stances' (log ++ contact.toList) := by
  obtain ⟨t, plan, told⟩ := e
  obtain ⟨ledger, single, abides⟩ := h
  cases plan with
  | done a => cases hmove
  | tell c next =>
      cases abides with
      | waits orderly told => cases hmove
      | ready orderly =>
          obtain ⟨hfits, hnext⟩ := orderly
          obtain ⟨after, htold, hledger, hlength⟩ :=
            ledger.command (lt_of_lt_of_eq Nat.zero_lt_one single.symm) hfits
          rw [move?] at hmove
          dsimp only at hmove
          generalize t.command 0 c = out at htold hledger hlength hmove
          obtain ⟨t', result⟩ := out
          obtain ⟨rfl, rfl⟩ := Prod.mk.inj (Option.some.inj hmove)
          rw [Option.toList_none, List.append_nil]
          cases result with
          | none =>
              refine ⟨_, hledger, hlength.trans single, ?_⟩
              rw [Function.update_self]
              exact .waits ⟨hfits, hnext⟩ htold
          | some result =>
              refine ⟨_, hledger, hlength.trans single, ?_⟩
              rw [Function.update_self]
              exact .ready (hnext _ _ htold.ends)

theorem Abiding.occur (h : Abiding passing e stances log) {k now : Nat} {contact : Option Contact}
    (hmove : e.move? (.occur k now) = some (e', contact)) :
    ∃ stances', Abiding passing e' stances' (log ++ contact.toList) := by
  obtain ⟨t, plan, told⟩ := e
  obtain ⟨ledger, single, abides⟩ := h
  obtain ⟨⟨contact', t', notice⟩, hoccur, heq⟩ := Option.map_eq_some_iff.1 hmove
  obtain ⟨rfl, rfl⟩ := Prod.mk.inj heq
  obtain ⟨stances', hnoted, hledger, hlength⟩ := ledger.occur hoccur
  refine ⟨stances', ?_⟩
  cases hnoted with
  | woke placed => exact ⟨hledger, hlength.trans single, abides⟩
  | @dealt i after result placed dealt =>
      obtain rfl : i = 0 := Nat.lt_one_iff.1 (lt_of_lt_of_eq placed single)
      cases result with
      | none =>
          refine ⟨hledger, hlength.trans single, ?_⟩
          rw [Function.update_self, dealt.eq_of_none]
          exact abides
      | some result =>
          obtain ⟨c, next, rfl, hnext⟩ := abides.answer dealt
          refine ⟨hledger, hlength.trans single, ?_⟩
          rw [Function.update_self]
          exact .ready hnext

/-- Whatever happens on an errand, its plan is abided by. -/
theorem Abiding.move (h : Abiding passing e stances log) {m : ErrandMove}
    {contact : Option Contact} (hmove : e.move? m = some (e', contact)) :
    ∃ stances', Abiding passing e' stances' (log ++ contact.toList) := by
  cases m with
  | tell => exact h.tell hmove
  | occur k now => exact h.occur hmove

theorem Abiding.play (h : Abiding passing e stances log) {moves : List ErrandMove}
    {later : List Contact} (hplay : e.play moves = some (e', later)) :
    ∃ stances', Abiding passing e' stances' (log ++ later) := by
  refine kept_of_playMoves (P := fun e log => ∃ stances, Abiding passing e stances log) ?_
    ⟨stances, h⟩ hplay
  rintro e m e' contact log ⟨stances, h⟩ hmove
  exact h.move hmove

/-- Once the plan is done, the upload is not open. -/
theorem Abiding.settled (h : Abiding passing e stances log) {a : α} (hdone : e.plan = .done a) :
    Accounted.Settled e.timeline stances := by
  intro i hi
  obtain rfl : i = 0 := Nat.lt_one_iff.1 (lt_of_lt_of_eq hi h.single)
  have habides := h.abides
  rw [hdone] at habides
  exact habides.settled

end Errand

end StudySession

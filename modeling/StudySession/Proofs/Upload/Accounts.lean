import StudySession.Proofs.Upload.Reactions

/-!
# Accounts of uploads

What an upload costs on the store is read from the calls that were answered: a creation that
succeeded opens it there, and a completion that succeeded, or an abort, ends it. Whoever owns an
upload first creates it and then fills, completes or aborts it. A `Stance` says how far the two have
come, and an `Account` ties it to what the store was told.

The three lemmas on `Deal`s say what an account becomes when the owner gives a command
(`Account.told`), when the owner's call is answered (`Account.answered`), and when anything happens
to a part (`Account.partHappens`).
-/

namespace StudySession

/-! ## Contacts -/

/-- A call that the store answered, and the place of the upload that made it. -/
structure Contact where
  upload : Nat
  call : StoreCall
  answer : Except StoreError String

namespace Contact

/-- The key and the id of the upload that a call opened. -/
def opened? (c : Contact) : Option (String × String) :=
  match c.call, c.answer with
  | .create key _, .ok id => some (key, id)
  | _, _ => none

/-- The key and the id of the upload that a call ended: one that was completed, or that the store was
told to drop, whatever it answered. -/
def ended? (c : Contact) : Option (String × String) :=
  match c.call, c.answer with
  | .complete key id _, .ok _ => some (key, id)
  | .abort key id, _ => some (key, id)
  | _, _ => none

/-- Whether a call opened or ended an upload. -/
def counts (c : Contact) : Bool := c.opened?.isSome || c.ended?.isSome

end Contact

/-- What an upload opened and ended, in order. -/
def entriesOf (i : Nat) (log : List Contact) : List Contact :=
  log.filter fun c => c.upload == i && c.counts

@[simp] theorem entriesOf_nil (i : Nat) : entriesOf i [] = [] := rfl

theorem entriesOf_append (i : Nat) (log later : List Contact) :
    entriesOf i (log ++ later) = entriesOf i log ++ entriesOf i later :=
  List.filter_append log later

/-- A contact of another upload is not among them. -/
theorem entriesOf_singleton_of_ne {i : Nat} {c : Contact} (h : c.upload ≠ i) :
    entriesOf i [c] = [] := by
  simp [entriesOf, h]

/-- Nor is one that neither opened nor ended an upload. -/
theorem entriesOf_singleton_of_not_counts {c : Contact} (h : c.counts = false) (i : Nat) :
    entriesOf i [c] = [] := by
  simp [entriesOf, h]

theorem entriesOf_singleton_self {c : Contact} (h : c.counts = true) :
    entriesOf c.upload [c] = [c] := by
  simp [entriesOf, h]

/-! ## Effects -/

namespace Effect

/-- The result of the command that ended. -/
def ending? : List Effect → Option (Except UploadError Outcome)
  | [] => none
  | .call _ _ _ :: rest => ending? rest
  | .finished result :: _ => some result

/-- A command that ended ended by one of the effects. -/
theorem mem_of_ending? {effects : List Effect} {result : Except UploadError Outcome}
    (h : ending? effects = some result) : .finished result ∈ effects := by
  induction effects with
  | nil => cases h
  | cons effect rest ih =>
      cases effect with
      | call who after call => exact List.mem_cons_of_mem _ (ih h)
      | finished ended =>
          obtain rfl := Option.some.inj h
          exact List.mem_cons_self

/-- The calls that the owner asks for. -/
def asked (effects : List Effect) : List StoreCall :=
  effects.filterMap fun
    | .call .owner _ asked => some asked
    | _ => none

end Effect

/-- The call that the owner waits for. -/
def Upload.asking (u : Upload) : List StoreCall :=
  match u.awaiting with
  | some (.store _ call _) => [call]
  | _ => []

/-! ## Stances -/

/-- How far an upload and its owner have come. -/
inductive Stance where
  /-- Nothing is open on the store, and nothing is asked for. -/
  | unopened
  | creating
  /-- The upload is open, and its owner may go on. -/
  | opened
  /-- A command is under way that may have to end the upload. -/
  | closing
  /-- The upload was open, and was ended. -/
  | past
  deriving DecidableEq, Repr

/-- What the command under way waits for while an upload of an id is open or being dropped. -/
inductive Closes (s : Session) (id : String) : Await → Prop where
  | joining (phase : s.phase = .opened id) : Closes s id (.parts id)
  | completing {listed : List CompletedPart} {total attempt : Nat} (phase : s.phase = .opened id) :
      Closes s id (.store (.completing id listed total) (.complete s.key id listed) attempt)
  | failing {error : UploadError} {attempt : Nat} (phase : s.phase = .opened id) :
      Closes s id (.store (.failing error) (.abort s.key id) attempt)
  | aborting {error : UploadError} {attempt : Nat} (phase : s.phase = .failed error) :
      Closes s id (.store .aborting (.abort s.key id) attempt)

/-- The account of an upload: what it opened and ended on the store, as its stance has it. -/
inductive Account : Stance → Upload → List Contact → Prop where
  | unopened {s : Session} (phase : s.phase = .idle) : Account .unopened ⟨s, none⟩ []
  | creating {s : Session} {contentType : String} {attempt : Nat} (phase : s.phase = .idle) :
      Account .creating ⟨s, some (.store .creating (.create s.key contentType) attempt)⟩ []
  | opened {s : Session} {id : String} {first : Contact} (phase : s.phase = .opened id)
      (created : first.opened? = some (s.key, id)) : Account .opened ⟨s, none⟩ [first]
  | closing {s : Session} {id : String} {await : Await} {first : Contact}
      (closes : Closes s id await) (created : first.opened? = some (s.key, id)) :
      Account .closing ⟨s, some await⟩ [first]
  | past {s : Session} {id : String} {first last : Contact} (used : s.phase ≠ .idle)
      (shut : ∀ other, s.phase ≠ .opened other) (created : first.opened? = some (s.key, id))
      (ended : last.ended? = some (s.key, id)) : Account .past ⟨s, none⟩ [first, last]

/-- What happens at a command, by the stance before it: the stance after it, and the result if the
command has ended. -/
inductive Told : Stance → Command → Stance → Option (Except UploadError Outcome) → Prop where
  | created : Told .unopened .create .creating none
  | taken {chunk : ByteArray} : Told .opened (.accept chunk) .opened (some (.ok .done))
  | closing {c : Command} : Told .opened c .closing none
  | dismissed {c : Command} {result : Except UploadError Outcome} :
      Told .past c .past (some result)

/-- What happens at an answer. -/
inductive Dealt : Stance → Stance → Option (Except UploadError Outcome) → Prop where
  | waits {stance : Stance} : Dealt stance stance none
  | created {snapshot : Snapshot} : Dealt .creating .opened (some (.ok (.opened snapshot)))
  | refused {error : UploadError} : Dealt .creating .unopened (some (.error error))
  | closed {result : Except UploadError Outcome} : Dealt .closing .past (some result)

/-- What a reaction comes to: the account it leaves, the result of a command that it ended, and that
the owner's calls are those it waits for. `kept` is the call that was asked for before. -/
structure Deal (kept : List StoreCall) (entries : List Contact) (stance : Stance)
    (result : Option (Except UploadError Outcome)) (out : Upload × List Effect) : Prop where
  account : Account stance out.1 entries
  result : Effect.ending? out.2 = result
  asked : Effect.asked out.2 ++ kept = out.1.asking

namespace Account

variable {stance : Stance} {u : Upload} {s s' : Session} {await : Option Await}
  {entries : List Contact} {first : Contact} {id : String}

/-- An account is of the session's key and phase. -/
theorem congr (h : Account stance u entries) (hkey : s'.key = u.session.key)
    (hphase : s'.phase = u.session.phase) : Account stance ⟨s', u.awaiting⟩ entries := by
  cases h with
  | unopened phase => exact .unopened (hphase.trans phase)
  | creating phase =>
      rw [← hkey]
      exact .creating (hphase.trans phase)
  | opened phase created => exact .opened (hphase.trans phase) (hkey ▸ created)
  | closing closes created =>
      refine .closing ?_ (hkey ▸ created)
      cases closes with
      | joining phase => exact .joining (hphase.trans phase)
      | completing phase =>
          rw [← hkey]
          exact .completing (hphase.trans phase)
      | failing phase =>
          rw [← hkey]
          exact .failing (hphase.trans phase)
      | aborting phase =>
          rw [← hkey]
          exact .aborting (hphase.trans phase)
  | past used shut created ended =>
      exact .past (hphase ▸ used) (hphase ▸ shut) (hkey ▸ created) (hkey ▸ ended)

/-- Only an upload whose stance says so waits. -/
theorem awaiting_eq_none (h : Account stance u entries) (hcreating : stance ≠ .creating)
    (hclosing : stance ≠ .closing) : u.awaiting = none := by
  cases h with
  | unopened phase => rfl
  | creating phase => exact absurd rfl hcreating
  | opened phase created => rfl
  | closing closes created => exact absurd rfl hclosing
  | past used shut created ended => rfl

theorem isSome_awaiting (h : Account stance u entries)
    (hstance : stance = .creating ∨ stance = .closing) : u.awaiting.isSome = true := by
  cases h with
  | creating phase => rfl
  | closing closes created => rfl
  | unopened phase => simp at hstance
  | opened phase created => simp at hstance
  | past used shut created ended => simp at hstance

/-! ## Reactions -/

/-- Where nothing is done but for parts, the account stands. -/
theorem stand (h : Account stance u entries) {effects : List Effect}
    (hresult : Effect.ending? effects = none) (hasked : Effect.asked effects = []) :
    Deal u.asking entries stance none (u, effects) :=
  ⟨h, hresult, by rw [hasked]; rfl⟩

/-- An open upload that is given up is dropped. -/
theorem fail (hphase : s.phase = .opened id) (hcreated : first.opened? = some (s.key, id))
    (error : UploadError) : Deal [] [first] .closing none (Upload.fail s error) := by
  rw [Upload.fail_of_opened hphase]
  exact ⟨.closing (.failing hphase) hcreated, rfl, rfl⟩

theorem joined (hphase : s.phase = .opened id) (hcreated : first.opened? = some (s.key, id))
    {out : Upload × List Effect} (h : Upload.Joined s id out) :
    Deal [] [first] .closing none out := by
  cases h with
  | waits busy => exact ⟨.closing (.joining hphase) hcreated, rfl, rfl⟩
  | completes quiet acked nonempty => exact ⟨.closing (.completing hphase) hcreated, rfl, rfl⟩
  | fails error => exact fail hphase hcreated error

/-! ### Commands -/

/-- The commands that an owner may give: it creates first, and does not send parts itself. -/
def Fits : Stance → Command → Prop
  | .unopened, c => c = .create
  | .opened, c => (∃ chunk, c = .accept chunk) ∨ c = .complete ∨ c = .abort
  | .past, _ => True
  | _, _ => False

theorem told_create (hphase : s.phase = .idle) :
    Deal [] [] .creating none (Upload.begin s .create) := by
  rw [Upload.begin, hphase]
  exact ⟨.creating hphase, rfl, rfl⟩

/-- An open upload takes a chunk in, or the command may have to end it. -/
theorem told_opened (hphase : s.phase = .opened id) (hcreated : first.opened? = some (s.key, id))
    {c : Command} (hfits : Fits .opened c) :
    ∃ stance result, Told .opened c stance result ∧
      Deal [] [first] stance result (Upload.begin s c) := by
  have htold := Upload.told_begin hphase c
  generalize Upload.begin s c = out at htold
  cases htold with
  | reopened => simp [Fits] at hfits
  | sent => simp [Fits] at hfits
  | refused gate lost => exact ⟨_, _, .closing, fail hphase hcreated _⟩
  | gathered healthy few =>
      exact ⟨_, _, .taken, (opened (s := { s with pending := _ }) hphase hcreated), rfl, rfl⟩
  | flushed healthy enough => exact ⟨_, _, .taken, .opened hphase hcreated, rfl, rfl⟩
  | joined healthy empty hjoined => exact ⟨_, _, .closing, joined hphase hcreated hjoined⟩
  | flushedLast healthy rest =>
      exact ⟨_, _, .closing, .closing (.joining hphase) hcreated, rfl, rfl⟩
  | aborted => exact ⟨_, _, .closing, .closing (.aborting rfl) hcreated, rfl, rfl⟩

/-- An upload that was ended makes no further call, whatever the command. -/
theorem told_past {last : Contact} (used : s.phase ≠ .idle)
    (shut : ∀ other, s.phase ≠ .opened other) (created : first.opened? = some (s.key, id))
    (ended : last.ended? = some (s.key, id)) (c : Command) :
    ∃ result, Deal [] [first, last] .past (some result) (Upload.begin s c) := by
  have hbegun := Upload.begun_begin s c
  generalize Upload.begin s c = out at hbegun
  cases hbegun with
  | creating phase => exact absurd phase used
  | told phase told => exact absurd phase (shut _)
  | dismissed _ refused => exact ⟨_, .past used shut created ended, rfl, rfl⟩
  | failed _ lost =>
      rw [Upload.fail_of_shut shut]
      exact ⟨_, .past (by simp) (by simp) created ended, rfl, rfl⟩

/-- What a command that fits comes to. -/
theorem told (h : Account stance u entries) {c : Command} (hfits : Fits stance c) :
    ∃ after result, Told stance c after result ∧
      Deal [] entries after result (u.react (.command c)) := by
  cases h with
  | unopened phase =>
      obtain rfl := hfits
      exact ⟨_, _, .created, told_create phase⟩
  | creating phase => exact hfits.elim
  | opened phase created => exact told_opened phase created hfits
  | closing closes created => exact hfits.elim
  | past used shut created ended =>
      obtain ⟨result, hdeal⟩ := told_past used shut created ended c
      exact ⟨_, _, .dismissed, hdeal⟩

/-! ### Answers to the owner -/

/-- The answer to a creation. -/
theorem answered_creating {contentType : String} {attempt : Nat} (hphase : s.phase = .idle)
    {answer : Except StoreError String} {out : Upload × List Effect} (i : Nat)
    (htold : Upload.OwnerTold ⟨s, await⟩ .creating (.create s.key contentType) attempt answer out) :
    ∃ after result, Dealt .creating after result ∧
      Deal [] (entriesOf i [⟨i, .create s.key contentType, answer⟩]) after result out := by
  cases htold with
  | again retried pause =>
      rw [entriesOf_singleton_of_not_counts rfl]
      exact ⟨_, _, .waits, .creating hphase, rfl, rfl⟩
  | concluded last =>
      cases answer with
      | ok id =>
          have hentry := entriesOf_singleton_self (c := ⟨i, .create s.key contentType, .ok id⟩) rfl
          rw [hentry]
          exact ⟨_, _, .created, .opened rfl rfl, rfl, rfl⟩
      | error e =>
          rw [entriesOf_singleton_of_not_counts rfl]
          exact ⟨_, _, .refused, .unopened hphase, rfl, rfl⟩

/-- The answer to the call that may end the upload. -/
theorem answered_closing {purpose : Purpose} {call : StoreCall} {attempt : Nat}
    (hcloses : Closes s id (.store purpose call attempt))
    (hcreated : first.opened? = some (s.key, id)) {answer : Except StoreError String}
    {out : Upload × List Effect} (i : Nat)
    (htold : Upload.OwnerTold ⟨s, await⟩ purpose call attempt answer out) :
    ∃ after result, Dealt .closing after result ∧
      Deal [] ([first] ++ entriesOf i [⟨i, call, answer⟩]) after result out := by
  have hended : ∀ last : Contact, last.upload = i → last.ended? = some (s.key, id) →
      [first] ++ entriesOf i [last] = [first, last] := by
    rintro last rfl hlast
    rw [entriesOf_singleton_self (by simp [Contact.counts, hlast])]
    rfl
  cases hcloses with
  | completing phase =>
      cases htold with
      | again retried pause =>
          rw [entriesOf_singleton_of_not_counts rfl]
          exact ⟨_, _, .waits, .closing (.completing phase) hcreated, rfl, rfl⟩
      | concluded last =>
          cases answer with
          | ok tag =>
              rw [hended _ rfl rfl]
              exact ⟨_, _, .closed, .past (by simp) (by simp) hcreated rfl, rfl, rfl⟩
          | error e =>
              -- a completion that failed ends nothing; the upload is dropped then
              rw [entriesOf_singleton_of_not_counts rfl]
              exact ⟨_, _, .waits, fail phase hcreated _⟩
  | failing phase =>
      rw [hended _ rfl rfl]
      cases htold with
      | again retried pause => cases retried
      | concluded last => exact ⟨_, _, .closed, .past (by simp) (by simp) hcreated rfl, rfl, rfl⟩
  | aborting phase =>
      rw [hended _ rfl rfl]
      cases htold with
      | again retried pause => cases retried
      | concluded last =>
          cases answer with
          | ok tag =>
              exact ⟨_, _, .closed, .past (by simp [phase]) (by simp [phase]) hcreated rfl, rfl, rfl⟩
          | error e =>
              exact ⟨_, _, .closed, .past (by simp [phase]) (by simp [phase]) hcreated rfl, rfl, rfl⟩

/-- What the answer to the owner's call comes to. -/
theorem answered (h : Account stance u entries) {purpose : Purpose} {call : StoreCall}
    {attempt : Nat} (hawaiting : u.awaiting = some (.store purpose call attempt))
    (answer : Except StoreError String) (i : Nat) :
    ∃ after result, Dealt stance after result ∧
      Deal [] (entries ++ entriesOf i [⟨i, call, answer⟩]) after result
        (u.react (.answered .owner answer)) := by
  have htold := Upload.ownerTold_of_awaiting hawaiting answer
  cases h with
  | creating phase =>
      obtain ⟨rfl, rfl, rfl⟩ := Await.store.inj (Option.some.inj hawaiting)
      exact answered_creating phase i htold
  | closing closes created =>
      obtain rfl := Option.some.inj hawaiting
      exact answered_closing closes created i htold
  | unopened phase => cases hawaiting
  | opened phase created => cases hawaiting
  | past used shut created ended => cases hawaiting

/-! ### Parts -/

theorem afterPart (h : Account stance u entries) :
    Deal u.asking entries stance none (Upload.afterPart u) := by
  rcases Upload.afterPart_cases u with ⟨id, hawaiting, hjoined⟩ | ⟨-, hnone⟩
  · cases h with
    | closing closes created =>
        obtain rfl := Option.some.inj hawaiting
        cases closes with
        | joining phase => exact joined phase created hjoined
    | creating phase => cases hawaiting
    | unopened phase => cases hawaiting
    | opened phase created => cases hawaiting
    | past used shut created ended => cases hawaiting
  · rw [hnone]
    exact h.stand rfl rfl

/-- What happens to a part opens and ends nothing, and ends no command. -/
theorem partAnswered (h : Account stance u entries) (number : Nat)
    (answer : Except StoreError String) :
    Deal u.asking entries stance none (u.react (.answered (.part number) answer)) := by
  have hsettled : ∀ state,
      Account stance { u with session := u.session.settle number state } entries :=
    fun state => h.congr rfl rfl
  rw [Upload.react, Upload.partAnswered]
  dsimp only
  split
  · exact h.stand rfl rfl
  · next task hfound =>
      cases answer with
      | ok tag => exact (hsettled _).afterPart
      | error e =>
          dsimp only
          split
          · exact ⟨h.congr rfl rfl, rfl, rfl⟩
          · exact (hsettled _).afterPart

theorem partDied (h : Account stance u entries) (number : Nat) :
    Deal u.asking entries stance none (u.react (.died (.part number))) := by
  have hdropped : Account stance { u with session :=
      { u.session with tasks := u.session.tasks.filter (·.number != number) } } entries :=
    h.congr rfl rfl
  rw [Upload.react, Upload.partDied]
  split
  · exact hdropped.afterPart
  · exact h.stand rfl rfl

end Account

/-! ## Parts send parts -/

/-- Whether a call sends a part. -/
def StoreCall.isPart : StoreCall → Bool
  | part _ _ _ _ => true
  | _ => false

/-- What sends a part neither opens nor ends an upload. -/
theorem Contact.counts_of_isPart {c : Contact} (h : c.call.isPart = true) : c.counts = false := by
  obtain ⟨i, call, answer⟩ := c
  cases call with
  | part key id number body => rfl
  | create key contentType => cases h
  | complete key id parts => cases h
  | abort key id => cases h

/-- The parts on their way make calls that send parts. -/
def Session.SendsParts (s : Session) : Prop := ∀ task ∈ s.tasks, task.call.isPart = true

namespace Upload

/-- So do those that a reaction leaves, and those that it lets make a call. -/
structure SendsParts (out : Upload × List Effect) : Prop where
  tasks : out.1.session.SendsParts
  calls : ∀ number after call, .call (.part number) after call ∈ out.2 → call.isPart = true

variable {s s' : Session}

theorem SendsParts.finish (h : s.SendsParts) (result : Except UploadError Outcome) :
    SendsParts (finish s result) :=
  ⟨h, by simp [Upload.finish]⟩

theorem SendsParts.ask (h : s.SendsParts) (purpose : Purpose) (call : StoreCall) :
    SendsParts (ask s purpose call) :=
  ⟨h, by simp [Upload.ask]⟩

/-- What is given up drops its parts. -/
theorem SendsParts.fail (s : Session) (error : UploadError) : SendsParts (fail s error) := by
  have hdropped : ∀ phase, Session.SendsParts { s with tasks := [], pending := .empty, phase } := by
    intro phase task htask
    cases htask
  unfold Upload.fail
  dsimp only
  split
  · exact .ask (hdropped s.phase) _ _
  · exact .finish (hdropped _) _

/-- The part that is submitted is one more. -/
theorem sendsParts_submit (h : s.SendsParts) (pending : ByteArray) (id : String) :
    ({ s with pending }.submit id).1.SendsParts ∧
      ({ s with pending }.submit id).2.call.isPart = true := by
  refine ⟨fun task htask => ?_, rfl⟩
  rcases List.mem_append.1 htask with htask | htask
  · exact h task htask
  · rw [List.mem_singleton.1 htask]
    rfl

theorem Joined.sendsParts {id : String} {out : Upload × List Effect} (h : s.SendsParts)
    (hjoined : Joined s id out) : SendsParts out := by
  cases hjoined with
  | waits busy => exact ⟨h, by simp⟩
  | completes quiet acked nonempty => exact .ask h _ _
  | fails error => exact .fail s error

theorem Told.sendsParts {id : String} {c : Command} {out : Upload × List Effect}
    (h : s.SendsParts) (htold : Told s id c out) : SendsParts out := by
  cases htold with
  | reopened => exact .finish h _
  | refused gate lost => exact .fail s _
  | @gathered chunk healthy few =>
      exact SendsParts.finish (s := { s with pending := s.pending ++ chunk }) h _
  | @flushed chunk healthy enough =>
      obtain ⟨htasks, hcall⟩ := sendsParts_submit h (s.pending ++ chunk) id
      refine ⟨htasks, fun number after call hmem => ?_⟩
      simp only [List.mem_cons, Effect.call.injEq, List.not_mem_nil, or_false, reduceCtorEq]
        at hmem
      obtain ⟨-, -, rfl⟩ := hmem
      exact hcall
  | sent => exact .ask h _ _
  | joined healthy empty joined => exact joined.sendsParts h
  | flushedLast healthy rest =>
      obtain ⟨htasks, hcall⟩ := sendsParts_submit h s.pending id
      refine ⟨htasks, fun number after call hmem => ?_⟩
      obtain ⟨-, -, rfl⟩ := Effect.call.inj (List.mem_singleton.1 hmem)
      exact hcall
  | aborted => exact .ask (by intro task htask; cases htask) _ _

theorem SendsParts.begin (h : s.SendsParts) (c : Command) : SendsParts (begin s c) := by
  have hbegun := begun_begin s c
  generalize Upload.begin s c = out at hbegun
  cases hbegun with
  | creating phase => exact .ask h _ _
  | told phase told => exact told.sendsParts h
  | dismissed shut refused => exact .finish h _
  | failed shut lost => exact .fail s _

theorem SendsParts.conclude (h : s.SendsParts) (purpose : Purpose) (attempt : Nat)
    (answer : Except StoreError String) : SendsParts (conclude s purpose attempt answer) := by
  have hphase : ∀ phase, Session.SendsParts { s with phase } := fun phase => h
  unfold Upload.conclude
  split
  · exact .finish (hphase _) _
  · exact .finish h _
  · exact .finish h _
  · exact .finish h _
  · exact .finish (hphase _) _
  · exact .fail s _
  · exact .finish (hphase _) _
  · exact .finish h _
  · exact .finish h _

theorem SendsParts.afterPart {u : Upload} (h : u.session.SendsParts) :
    SendsParts (afterPart u) := by
  rcases afterPart_cases u with ⟨id, -, hjoined⟩ | ⟨-, hnone⟩
  · exact hjoined.sendsParts h
  · rw [hnone]
    exact ⟨h, by simp⟩

/-- Whatever happens, parts go on sending parts. -/
theorem sendsParts_react {u : Upload} (h : u.session.SendsParts) (event : Event) :
    SendsParts (u.react event) := by
  have hstill : SendsParts (u, []) := ⟨h, by simp⟩
  have hfiltered : ∀ p : PartTask → Bool,
      Session.SendsParts { u.session with tasks := u.session.tasks.filter p } :=
    fun p task htask => h task (List.mem_filter.1 htask).1
  have hsettled : ∀ number state, (u.session.settle number state).SendsParts :=
    fun number state task htask => h task (List.mem_filter.1 htask).1
  cases event with
  | command c =>
      rw [react]
      split
      · exact .begin h c
      · exact hstill
  | died who =>
      cases who with
      | owner => exact .finish (fun task htask => by cases htask) _
      | part number =>
          rw [react, partDied]
          split
          · exact .afterPart (hfiltered _)
          · exact hstill
  | answered who answer =>
      cases who with
      | owner =>
          rw [react, ownerAnswered]
          split
          · dsimp only
            split
            · exact ⟨h, by simp⟩
            · exact .conclude h _ _ _
          · exact hstill
      | part number =>
          rw [react, partAnswered]
          dsimp only
          split
          · exact hstill
          · next task hfound =>
              have htask := List.mem_of_find?_eq_some hfound
              cases answer with
              | ok tag => exact .afterPart (hsettled _ _)
              | error e =>
                  dsimp only
                  split
                  · refine ⟨fun other hother => ?_, fun number after call hmem => ?_⟩
                    · obtain ⟨before, hbefore, rfl⟩ := List.mem_map.1 hother
                      have hcall := h before hbefore
                      split <;> exact hcall
                    · obtain ⟨-, -, rfl⟩ := Effect.call.inj (List.mem_singleton.1 hmem)
                      exact h task htask
                  · exact .afterPart (hsettled _ _)

end Upload

end StudySession

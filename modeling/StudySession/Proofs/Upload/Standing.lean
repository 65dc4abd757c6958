import StudySession.Proofs.Upload.Books
import StudySession.Proofs.Upload.Reactions

/-!
# Where a run stands

`Transfer.Standing` is the invariant of all runs in which the owner sends no part by itself: an upload
is not created yet, being created, open, being completed, completed on the store alone, or at its end.
Each step leads from one standing to another.
-/

namespace StudySession

namespace Transfer

/-- Nothing was sent yet. -/
structure Untouched (s : Session) (trace : List Happening) : Prop where
  phase : s.phase = .idle
  parts : s.parts = []
  tasks : s.tasks = []
  pending : s.pending = .empty
  unopened : trace.any Happening.opens = false
  unflushed : bodiesFlushed trace = []

/-- The upload was given up, is being given up, or is completed. -/
inductive Ended (u : Upload) : Prop where
  | failing {error : UploadError} {call : StoreCall} {attempt : Nat}
      (awaiting : u.awaiting = some (.store (.failing error) call attempt))
  | aborting {error : UploadError} {call : StoreCall} {attempt : Nat}
      (phase : u.session.phase = .failed error)
      (awaiting : u.awaiting = some (.store .aborting call attempt))
  | failed {error : UploadError} (phase : u.session.phase = .failed error)
      (awaiting : u.awaiting = none)
  | completed (phase : u.session.phase = .completed) (awaiting : u.awaiting = none)

/-- An open upload, with its books in order; the store was told to complete nothing since the first
one. -/
structure Open (key : String) (first : MemoryStore) (id : String) (upload : PendingUpload)
    (w : Transfer) (trace : List Happening) : Prop where
  key_eq : w.upload.session.key = key
  books : Books id w.upload.session trace
  holds : Holds id (bodiesFlushed trace) w.upload.session w.store w.flying upload
  completions : w.store.completions = first.completions

/-- The owner asks nothing of the store: it rests, or has flushed everything and waits for the parts. -/
def Rests (id : String) (u : Upload) : Prop :=
  u.awaiting = none ∨ u.awaiting = some (.parts id) ∧ u.session.pending = .empty

/-- Where a run stands that began with a store; `key` is the upload's object. -/
inductive Standing (key : String) (first : MemoryStore) (w : Transfer) (trace : List Happening) :
    Prop where
  | fresh (key_eq : w.upload.session.key = key) (untouched : Untouched w.upload.session trace)
      (completions : w.store.completions = first.completions) (awaiting : w.upload.awaiting = none)
  | creating {attempt : Nat} {answer : Option (Except StoreError String)}
      (key_eq : w.upload.session.key = key) (untouched : Untouched w.upload.session trace)
      (completions : w.store.completions = first.completions)
      (awaiting : w.upload.awaiting =
        some (.store .creating (.create key videoContentType) attempt))
      (flying : w.flying .owner = some ⟨.create key videoContentType, answer⟩)
      (created : ∀ id, answer = some (.ok id) →
        w.store.pending.get? id = some ⟨key, videoContentType, []⟩)
  | live {id : String} {upload : PendingUpload} (opened : Open key first id upload w trace)
      (rests : Rests id w.upload)
  | completing {id : String} {upload : PendingUpload} {listed : List CompletedPart}
      {total attempt : Nat} {answer : Option (Except StoreError String)}
      (opened : Open key first id upload w trace)
      (quiet : w.upload.session.tasks = []) (empty : w.upload.session.pending = .empty)
      (acked : Session.acknowledged 1 w.upload.session.parts = .ok (listed, total))
      (awaiting : w.upload.awaiting =
        some (.store (.completing id listed total) (.complete key id listed) attempt))
      (flying : w.flying .owner = some ⟨.complete key id listed, answer⟩)
      (unanswered : ∀ tag, answer ≠ some (.ok tag))
  | assembled {id : String} {listed : List CompletedPart} {total attempt : Nat} {tag : String}
      (key_eq : w.upload.session.key = key) (books : Books id w.upload.session trace)
      (completions : w.store.completions = first.completions ++ [listed])
      (quiet : w.upload.session.tasks = []) (empty : w.upload.session.pending = .empty)
      (acked : Session.acknowledged 1 w.upload.session.parts = .ok (listed, total))
      (tags : List.Forall₂ (fun part body => part.eTag = Tag.ofBody body) listed
        (bodiesFlushed trace))
      (awaiting : w.upload.awaiting =
        some (.store (.completing id listed total) (.complete key id listed) attempt))
      (flying : w.flying .owner = some ⟨.complete key id listed, some (.ok tag)⟩)
      (object : w.store.objects.get? key =
        some ⟨videoContentType, joinBytes (bodiesFlushed trace)⟩)
  | ended (quiet : w.upload.session.tasks = []) (ended : Ended w.upload)

variable {id key : String} {s : Session} {trace : List Happening} {o : Happening}
  {store first : MemoryStore} {flying : Caller → Option Flight} {upload : PendingUpload}

/-! ## Steps -/

theorem expects_of_quiet {u : Upload} (hquiet : u.session.tasks = []) {who : Caller}
    (h : u.expects who = true) : who = .owner := by
  cases who with
  | owner => rfl
  | part number => simp [Upload.expects, hquiet] at h

theorem exists_awaiting_of_expects {u : Upload} (h : u.expects .owner = true) :
    ∃ purpose call attempt, u.awaiting = some (.store purpose call attempt) := by
  rw [Upload.expects] at h
  split at h
  · next purpose call attempt hawaiting => exact ⟨purpose, call, attempt, hawaiting⟩
  · simp at h

theorem Untouched.snoc (h : Untouched s trace) (hopens : o.opens = false)
    (hflushed : o.flushed = []) : Untouched s (trace ++ [o]) := by
  refine { h with unopened := ?_, unflushed := ?_ }
  · simp [h.unopened, hopens]
  · rw [bodiesFlushed_snoc, h.unflushed, hflushed, List.append_nil]

/-- Until it is created on the store, an upload does nothing else. -/
theorem begin_of_idle (hphase : s.phase = .idle) (hparts : s.parts = []) (c : Command) :
    c = .create ∧
        Upload.begin s c = Upload.ask s .creating (.create s.key videoContentType) ∨
      ∃ result, Upload.begin s c = Upload.finish s result ∧
        (c = .abort ∧ result = .ok .done ∨ ∃ error, result = .error error) := by
  have hbegun := Upload.begun_begin s c
  generalize Upload.begin s c = out at hbegun
  cases hbegun with
  | creating phase => exact .inl ⟨rfl, rfl⟩
  | told phase told => rw [hphase] at phase; cases phase
  | dismissed shut refused => exact .inr ⟨_, rfl, refused⟩
  | failed shut lost =>
      rw [Session.lostPart?, hparts] at lost
      cases lost

theorem launch_ask (flying : Caller → Option Flight) (s : Session) (purpose : Purpose)
    (call : StoreCall) :
    launch flying (Upload.ask s purpose call).2 .owner = some ⟨call, none⟩ := by
  simp [Upload.ask, launch]

theorem launch_ask_part (flying : Caller → Option Flight) (s : Session) (purpose : Purpose)
    (call : StoreCall) (n : Nat) :
    launch flying (Upload.ask s purpose call).2 (.part n) = flying (.part n) := by
  simp [Upload.ask, launch]

/-- What is launched is not answered yet. -/
theorem launch_answered {flying : Caller → Option Flight} {effects : List Effect} {who : Caller}
    {call : StoreCall} {answer : Except StoreError String}
    (h : launch flying effects who = some ⟨call, some answer⟩) :
    flying who = some ⟨call, some answer⟩ := by
  induction effects generalizing flying with
  | nil => exact h
  | cons effect rest ih =>
      cases effect with
      | finished result => exact ih h
      | call other after made =>
          have hlast := ih h
          by_cases hsame : who = other
          · rw [hsame, Function.update_self] at hlast
            cases hlast
          · rwa [Function.update_of_ne hsame] at hlast

theorem answered_of_update {flying : Caller → Option Flight} {who other : Caller} {f : Flight}
    (h : Function.update flying other none who = some f) : flying who = some f := by
  by_cases hsame : who = other
  · rw [hsame, Function.update_self] at h
    cases h
  · rwa [Function.update_of_ne hsame] at h

/-- A session that gives up has ended. -/
theorem Standing.of_fail (hphase : s.phase = .opened id) (error : UploadError)
    (flying : Caller → Option Flight) :
    Standing key first ⟨(Upload.fail s error).1, store, flying⟩ trace := by
  rw [Upload.fail_of_opened hphase]
  exact .ended rfl (.failing rfl)

/-- Nothing is flushed where parts are joined. -/
theorem flushed_of_joined {result : Upload × List Effect} (h : Upload.Joined s id result)
    (c : Command) : (Happening.told c result.2).flushed = [] := by
  cases h with
  | waits busy => rfl
  | completes quiet acked nonempty => rfl
  | fails error =>
      unfold Upload.fail
      dsimp only
      split <;> rfl

variable {w w' : Transfer}

/-- What is flushed sets out as the next part. -/
theorem Open.flush (h : Open key first id upload w trace) {body : ByteArray}
    (hflushed : o.flushed = [body])
    (hbody : body = w.upload.session.pending ++ joinBytes o.chunk?.toList)
    {awaiting : Option Await} (hawaiting : awaiting = none ∨ awaiting = some (.parts id)) :
    Standing key first
      ⟨⟨({ w.upload.session with pending := body }.submit id).1, awaiting⟩, w.store,
        Function.update w.flying (.part (w.upload.session.parts.length + 1))
          (some ⟨.part w.upload.session.key id (w.upload.session.parts.length + 1) body, none⟩)⟩
      (trace ++ [o]) := by
  have hholds := h.holds.flush h.books body
  rw [← hflushed, ← bodiesFlushed_snoc] at hholds
  have hbooks := h.books.flush hflushed hbody
  exact .live ⟨h.key_eq, hbooks, hholds, h.completions⟩ (hawaiting.imp_right fun h => ⟨h, rfl⟩)

/-- Joining the parts of an open session waits for them, asks for its completion, or gives up. -/
theorem Open.join (h : Open key first id upload w trace)
    (hempty : w.upload.session.pending = .empty) {result : Upload × List Effect}
    (hjoined : Upload.Joined w.upload.session id result) :
    Standing key first ⟨result.1, w.store, launch w.flying result.2⟩ trace := by
  obtain ⟨rfl, books, holds, completions⟩ := h
  cases hjoined with
  | waits busy => exact .live ⟨rfl, books, holds, completions⟩ (.inr ⟨rfl, hempty⟩)
  | @completes listed total quiet acked nonempty =>
      have hholds := holds.congr rfl rfl rfl (launch_ask_part w.flying w.upload.session
        (.completing id listed total) (.complete w.upload.session.key id listed))
      refine .completing ⟨rfl, books, hholds, completions⟩ quiet hempty acked rfl
        (launch_ask w.flying w.upload.session (.completing id listed total) _) ?_
      simp
  | fails error => exact .of_fail books.phase error _

/-- A command to an upload that is not open on the store. -/
theorem Standing.tell_fresh (hkey : w.upload.session.key = key)
    (untouched : Untouched w.upload.session trace)
    (hcompletions : w.store.completions = first.completions) {c : Command} {u : Upload}
    {effects : List Effect} (hbegin : Upload.begin w.upload.session c = (u, effects)) :
    Standing key first ⟨u, w.store, launch w.flying effects⟩ (trace ++ [.told c effects]) := by
  -- either the store is asked to create the upload, or the command is refused at once
  rcases begin_of_idle untouched.phase untouched.parts c with
    ⟨-, hask⟩ | ⟨result, hfinish, hresult⟩
  · obtain ⟨rfl, rfl⟩ := Prod.mk.inj (hask.symm.trans hbegin)
    subst hkey
    refine .creating rfl (untouched.snoc rfl rfl) hcompletions rfl
      (launch_ask w.flying w.upload.session .creating _) ?_
    simp
  · obtain ⟨rfl, rfl⟩ := Prod.mk.inj (hfinish.symm.trans hbegin)
    refine .fresh hkey (untouched.snoc ?_ rfl) hcompletions rfl
    rcases hresult with ⟨rfl, rfl⟩ | ⟨error, rfl⟩ <;> rfl

/-- A command to an open upload. -/
theorem Open.tell (h : Open key first id upload w trace) {c : Command}
    {result : Upload × List Effect} (htold : Upload.Told w.upload.session id c result)
    (hbackground : ∀ number body, c ≠ .sendPart number body) :
    Standing key first ⟨result.1, w.store, launch w.flying result.2⟩
      (trace ++ [.told c result.2]) := by
  obtain ⟨key_eq, books, holds, completions⟩ := h
  cases htold with
  | reopened =>
      exact .live ⟨key_eq, books.snoc rfl rfl, holds.snoc rfl, completions⟩ (.inl rfl)
  | refused gate lost => exact .of_fail books.phase _ _
  | @gathered chunk healthy few =>
      have hbooks := books.note (o := .told (.accept chunk) [.finished (.ok .done)]) rfl
      rw [show Happening.chunk? (.told (.accept chunk) _) = some chunk from rfl,
        Option.toList_some, joinBytes_cons, joinBytes_nil, ByteArray.append_empty] at hbooks
      have hholds : Holds id (bodiesFlushed trace)
          { w.upload.session with pending := w.upload.session.pending ++ chunk } w.store w.flying
          upload := holds.congr rfl rfl rfl fun _ => rfl
      exact .live ⟨key_eq, hbooks, hholds.snoc rfl, completions⟩ (.inl rfl)
  | @flushed chunk healthy enough =>
      refine Open.flush ⟨key_eq, books, holds, completions⟩ rfl ?_ (.inl rfl)
      rw [show Happening.chunk? (.told (.accept chunk) _) = some chunk from rfl,
        Option.toList_some, joinBytes_cons, joinBytes_nil, ByteArray.append_empty]
  | sent => exact absurd rfl (hbackground _ _)
  | joined healthy empty joined =>
      have hempty : w.upload.session.pending = .empty :=
        ByteArray.size_eq_zero_iff.1 (by simpa [ByteArray.isEmpty] using empty)
      have hflushed := flushed_of_joined joined .complete
      have hopen : Open key first id upload w (trace ++ [.told .complete result.2]) :=
        ⟨key_eq, books.snoc rfl hflushed, holds.snoc hflushed, completions⟩
      exact hopen.join hempty joined
  | flushedLast healthy rest =>
      refine Open.flush ⟨key_eq, books, holds, completions⟩ rfl ?_ (.inr rfl)
      exact ByteArray.append_empty.symm
  | aborted => exact .ended rfl (.aborting rfl rfl)

/-- While the owner rests, only parts wait for answers. -/
theorem Rests.exists_task {u : Upload} {who : Caller} (hrests : Rests id u)
    (h : u.expects who = true) : ∃ task ∈ u.session.tasks, who = .part task.number := by
  cases who with
  | owner =>
      obtain ⟨purpose, call, attempt, hstore⟩ := exists_awaiting_of_expects h
      rcases hrests with hnone | ⟨hparts, -⟩
      · rw [hnone] at hstore
        cases hstore
      · rw [hparts] at hstore
        cases hstore
  | part number =>
      obtain ⟨task, htask, hnumber⟩ := List.any_eq_true.1 h
      exact ⟨task, htask, by rw [beq_iff_eq.1 hnumber]⟩

/-- A part that is on its way no longer may have been the last one waited for. -/
theorem Open.afterPart {u : Upload} (h : Open key first id upload ⟨u, store, flying⟩ trace)
    (hrests : Rests id u) :
    Standing key first ⟨u.afterPart.1, store, launch flying u.afterPart.2⟩ trace := by
  rcases Upload.afterPart_cases u with ⟨id', hparts, hjoined⟩ | ⟨hother, hnone⟩
  · rcases hrests with hwaits | ⟨hwaits, hempty⟩
    · rw [hwaits] at hparts
      cases hparts
    · obtain rfl : id = id' := by
        rw [hwaits] at hparts
        exact Await.parts.inj (Option.some.inj hparts)
      exact h.join hempty hjoined
  · rw [hnone]
    exact .live h hrests

/-- A part's call reaches the store. -/
theorem Open.reach (h : Open key first id upload w trace) (hrests : Rests id w.upload)
    {task : PartTask} (htask : task ∈ w.upload.session.tasks) {call : StoreCall}
    {answer : Except StoreError String}
    (hflying : w.flying (.part task.number) = some ⟨call, none⟩)
    (hperform : w.store.perform call = (answer, store)) :
    Standing key first ⟨w.upload, store,
        Function.update w.flying (.part task.number) (some ⟨call, some answer⟩)⟩
      (trace ++ [.reached (.part task.number) call answer]) := by
  obtain ⟨hcall, -⟩ := h.holds.flight task htask _ hflying
  obtain ⟨store', upload', hreached, hkept, hholds⟩ := h.holds.reach h.books htask
  obtain rfl : call = task.call := hcall
  obtain ⟨rfl, rfl⟩ := Prod.mk.inj (hreached.symm.trans hperform)
  exact .live ⟨h.key_eq, h.books.snoc rfl rfl, hholds.snoc rfl, hkept.trans h.completions⟩ hrests

/-- A part's call fails. -/
theorem Open.fail (h : Open key first id upload w trace) (hrests : Rests id w.upload)
    {task : PartTask} (htask : task ∈ w.upload.session.tasks) {call : StoreCall}
    (hflying : w.flying (.part task.number) = some ⟨call, none⟩) (error : StoreError) :
    Standing key first ⟨w.upload, w.store,
        Function.update w.flying (.part task.number) (some ⟨call, some (.error error)⟩)⟩
      (trace ++ [.failed (.part task.number) call error]) := by
  obtain ⟨hcall, -⟩ := h.holds.flight task htask _ hflying
  have hholds := h.holds.unanswered h.books htask (f := some ⟨call, some (.error error)⟩) (by
    rintro _ ⟨⟩
    exact ⟨hcall, by simp⟩)
  exact .live ⟨h.key_eq, h.books.snoc rfl rfl, hholds.snoc rfl, h.completions⟩ hrests

/-- The answer to a part comes back. -/
theorem Open.answer (h : Open key first id upload w trace) (hrests : Rests id w.upload)
    {task : PartTask} (htask : task ∈ w.upload.session.tasks) {call : StoreCall}
    {answer : Except StoreError String} {result : Upload × List Effect}
    (hflying : w.flying (.part task.number) = some ⟨call, some answer⟩)
    (htold : Upload.PartTold w.upload task answer result) :
    Standing key first ⟨result.1, w.store,
        launch (Function.update w.flying (.part task.number) none) result.2⟩
      (trace ++ [.answered (.part task.number) call answer result.2]) := by
  obtain ⟨key_eq, books, holds, completions⟩ := h
  obtain ⟨-, hkept⟩ := holds.flight task htask _ hflying
  obtain ⟨-, i, hnumber, hbody⟩ := books.task task htask
  generalize ho : Happening.answered (.part task.number) call answer result.2 = o
  have hflushed : o.flushed = [] := by rw [← ho]; rfl
  have hbooks : Books id w.upload.session (trace ++ [o]) :=
    books.snoc (by rw [← ho]; rfl) hflushed
  -- the part has no call in the air any more
  have hholds := (holds.unanswered books htask (f := none) (by simp)).snoc hflushed
  cases htold with
  | @acknowledged tag =>
      obtain ⟨htag, hstored⟩ := hkept tag rfl
      have hacked : Acknowledged (trace ++ [o]) task.number tag := by
        rw [← ho]
        exact ⟨call, _, List.mem_append_right _ (List.mem_singleton_self _)⟩
      rw [← bodiesFlushed_snoc_of_none hflushed] at hbody
      refine Open.afterPart ⟨key_eq, hbooks.settle ?_, hholds.settle hbooks ?_, completions⟩ hrests
      · rintro _ ⟨⟩
        exact hacked
      · rintro _ ⟨⟩
        exact ⟨i, task.body, hnumber, hbody, htag, hstored⟩
  | @again error delay pause =>
      -- the call is made again, and carries the same body
      have htasks := tasksAmong_again task.number w.upload.session.tasks
      have hagain := (holds.unanswered books htask (f := some ⟨task.call, none⟩)
        (by simp)).tasks htasks
      have hlaunch : launch (Function.update w.flying (.part task.number) none)
          [.call (.part task.number) delay task.call] =
          Function.update w.flying (.part task.number) (some ⟨task.call, none⟩) :=
        Function.update_idem _ _ _
      rw [← hlaunch] at hagain
      exact .live ⟨key_eq, hbooks.tasks htasks, hagain.snoc hflushed, completions⟩ hrests
  | lost pause =>
      exact Open.afterPart ⟨key_eq, hbooks.settle (by simp), hholds.settle hbooks (by simp),
        completions⟩ hrests

/-- The task of a part dies. -/
theorem Open.die (h : Open key first id upload w trace) (hrests : Rests id w.upload)
    {task : PartTask} (htask : task ∈ w.upload.session.tasks) {u : Upload} {effects : List Effect}
    (hdied : w.upload.partDied task.number = (u, effects)) :
    Standing key first ⟨u, w.store,
        launch (Function.update w.flying (.part task.number) none) effects⟩
      (trace ++ [.died task.number effects]) := by
  have htasks := tasksAmong_filter (·.number != task.number) w.upload.session.tasks
  have hbooks : Books id w.upload.session (trace ++ [.died task.number effects]) :=
    h.books.snoc rfl rfl
  have hholds := (h.holds.unanswered h.books htask (f := none) (by simp)).tasks htasks
  rw [Upload.partDied_of_mem _ htask] at hdied
  have hafter := Open.afterPart
    (u := { w.upload with
      session :=
        { w.upload.session with
          tasks := w.upload.session.tasks.filter (·.number != task.number) } })
    ⟨h.key_eq, hbooks.tasks htasks, hholds.snoc rfl, h.completions⟩ hrests
  rwa [hdied] at hafter

/-- A step of an open upload whose owner rests. -/
theorem Open.step (h : Open key first id upload w trace) (hrests : Rests id w.upload)
    (hstep : Step w o w') (hbackground : o.sendsPart = false) :
    Standing key first w' (trace ++ [o]) := by
  cases hstep with
  | @tell c u effects idle react =>
      rw [Upload.react, idle] at react
      have htold := Upload.told_begin h.books.phase c
      rw [show Upload.begin w.upload.session c = (u, effects) from react] at htold
      refine h.tell htold ?_
      rintro number body rfl
      cases hbackground
  | reach expected flying perform =>
      obtain ⟨task, htask, rfl⟩ := hrests.exists_task expected
      exact h.reach hrests htask flying perform
  | fail expected flying =>
      obtain ⟨task, htask, rfl⟩ := hrests.exists_task expected
      exact h.fail hrests htask flying _
  | @answer who call answer u effects expected flying react =>
      obtain ⟨task, htask, rfl⟩ := hrests.exists_task expected
      -- the task found by the number may be another one of the same number
      obtain ⟨task', htask', hnumber, htold⟩ := Upload.partTold_of_expects expected answer
      rw [react] at htold
      rw [← hnumber] at flying ⊢
      exact h.answer hrests htask' flying htold
  | die expected react =>
      obtain ⟨task, htask, hwho⟩ := hrests.exists_task expected
      obtain rfl := Caller.part.inj hwho
      exact h.die hrests htask react

/-! ## Steps while no part is on its way -/

/-- What can happen while no part is on its way: only the owner's calls matter. -/
inductive Alone (w : Transfer) : Happening → Transfer → Prop where
  | told {c : Command} {u : Upload} {effects : List Effect} (idle : w.upload.awaiting = none)
      (begun : Upload.begin w.upload.session c = (u, effects)) :
      Alone w (.told c effects) ⟨u, w.store, launch w.flying effects⟩
  | reached {call : StoreCall} {answer : Except StoreError String} {store : MemoryStore}
      (awaiting : w.upload.awaiting ≠ none) (flying : w.flying .owner = some ⟨call, none⟩)
      (perform : w.store.perform call = (answer, store)) :
      Alone w (.reached .owner call answer)
        ⟨w.upload, store, Function.update w.flying .owner (some ⟨call, some answer⟩)⟩
  | failed {call : StoreCall} {error : StoreError} (awaiting : w.upload.awaiting ≠ none)
      (flying : w.flying .owner = some ⟨call, none⟩) :
      Alone w (.failed .owner call error)
        ⟨w.upload, w.store,
          Function.update w.flying .owner (some ⟨call, some (.error error)⟩)⟩
  | answered {purpose : Purpose} {asked call : StoreCall} {attempt : Nat}
      {answer : Except StoreError String} {result : Upload × List Effect}
      (awaiting : w.upload.awaiting = some (.store purpose asked attempt))
      (flying : w.flying .owner = some ⟨call, some answer⟩)
      (told : Upload.OwnerTold w.upload purpose asked attempt answer result) :
      Alone w (.answered .owner call answer result.2)
        ⟨result.1, w.store, launch (Function.update w.flying .owner none) result.2⟩

theorem alone_of_step (hquiet : w.upload.session.tasks = []) (hstep : Step w o w') :
    Alone w o w' := by
  cases hstep with
  | tell idle react =>
      rw [Upload.react, idle] at react
      exact .told idle react
  | reach expected flying perform =>
      obtain rfl := expects_of_quiet hquiet expected
      obtain ⟨purpose, call, attempt, hawaiting⟩ := exists_awaiting_of_expects expected
      exact .reached (by simp [hawaiting]) flying perform
  | fail expected flying =>
      obtain rfl := expects_of_quiet hquiet expected
      obtain ⟨purpose, call, attempt, hawaiting⟩ := exists_awaiting_of_expects expected
      exact .failed (by simp [hawaiting]) flying
  | @answer who call answer u effects expected flying react =>
      obtain rfl := expects_of_quiet hquiet expected
      obtain ⟨purpose, asked, attempt, hawaiting⟩ := exists_awaiting_of_expects expected
      have htold := Upload.ownerTold_of_awaiting hawaiting answer
      have halone := Alone.answered hawaiting flying htold
      rwa [react] at halone
  | die expected react =>
      have := expects_of_quiet hquiet expected
      cases this

theorem update_owner (flying : Caller → Option Flight) (f : Option Flight) :
    Function.update flying .owner f .owner = f :=
  Function.update_self _ _ _

theorem update_owner_part (flying : Caller → Option Flight) (f : Option Flight) (n : Nat) :
    Function.update flying .owner f (.part n) = flying (.part n) :=
  Function.update_of_ne (by simp) _ _

/-- What the owner asks again is in the air again. -/
theorem launch_again (flying : Caller → Option Flight) (delay : Duration) (call : StoreCall) :
    launch (Function.update flying .owner none) [.call .owner delay call] .owner =
      some ⟨call, none⟩ := by
  simp [launch]

theorem launch_again_part (flying : Caller → Option Flight) (delay : Duration) (call : StoreCall)
    (n : Nat) :
    launch (Function.update flying .owner none) [.call .owner delay call] (.part n) =
      flying (.part n) := by
  simp [launch]

theorem Standing.step_fresh (hkey : w.upload.session.key = key)
    (untouched : Untouched w.upload.session trace)
    (hcompletions : w.store.completions = first.completions) (hidle : w.upload.awaiting = none)
    (hstep : Alone w o w') : Standing key first w' (trace ++ [o]) := by
  cases hstep with
  | told idle begun => exact .tell_fresh hkey untouched hcompletions begun
  | reached awaiting flying perform => exact absurd hidle awaiting
  | failed awaiting flying => exact absurd hidle awaiting
  | answered awaiting flying told => rw [hidle] at awaiting; cases awaiting

/-- The store's id opens the session. -/
theorem Untouched.books (h : Untouched s trace) (hopens : o.opens = true) (hflushed : o.flushed = [])
    (id : String) : Books id { s with phase := .opened id } (trace ++ [o]) := by
  have hbodies : bodiesFlushed (trace ++ [o]) = [] := by
    rw [bodiesFlushed_snoc_of_none hflushed, h.unflushed]
  refine { phase := rfl, opened := ?_, chunks := ?_, count := ?_, part := ?_, task := ?_ }
  · simp [hopens]
  · rw [chunksGiven_snoc_of_not_open h.unopened, hbodies, h.pending]
    rfl
  · rw [hbodies]
    exact congrArg List.length h.parts
  · simp [h.parts]
  · simp [h.tasks]

theorem Untouched.holds (h : Untouched s trace)
    (hfound : store.pending.get? id = some ⟨s.key, videoContentType, []⟩) :
    Holds id (bodiesFlushed trace) { s with phase := .opened id } store flying
      ⟨s.key, videoContentType, []⟩ where
  found := hfound
  key_eq := rfl
  type_eq := rfl
  part := by simp [h.parts]
  flight := by simp [h.tasks]

theorem Standing.step_creating {attempt : Nat} {answer : Option (Except StoreError String)}
    (hkey : w.upload.session.key = key) (untouched : Untouched w.upload.session trace)
    (hcompletions : w.store.completions = first.completions)
    (hawaiting : w.upload.awaiting =
      some (.store .creating (.create key videoContentType) attempt))
    (hflying : w.flying .owner = some ⟨.create key videoContentType, answer⟩)
    (hcreated : ∀ id, answer = some (.ok id) →
      w.store.pending.get? id = some ⟨key, videoContentType, []⟩)
    (hstep : Alone w o w') : Standing key first w' (trace ++ [o]) := by
  cases hstep with
  | told idle begun => rw [hawaiting] at idle; cases idle
  | reached awaiting flying perform =>
      rw [hflying] at flying
      obtain ⟨rfl, rfl⟩ := Flight.mk.inj (Option.some.inj flying)
      obtain ⟨rfl, rfl⟩ := Prod.mk.inj perform
      refine .creating hkey (untouched.snoc rfl rfl) hcompletions hawaiting
        (update_owner w.flying _) ?_
      rintro id ⟨⟩
      exact MemoryStore.get?_create key videoContentType
  | failed awaiting flying =>
      rw [hflying] at flying
      obtain ⟨rfl, rfl⟩ := Flight.mk.inj (Option.some.inj flying)
      refine .creating hkey (untouched.snoc rfl rfl) hcompletions hawaiting
        (update_owner w.flying _) ?_
      simp
  | @answered purpose asked call attempt answer result awaiting flying told =>
      rw [hflying] at flying
      obtain ⟨rfl, rfl⟩ := Flight.mk.inj (Option.some.inj flying)
      rw [hawaiting] at awaiting
      obtain ⟨rfl, rfl, rfl⟩ := Await.store.inj (Option.some.inj awaiting)
      cases told with
      | @again error delay retried pause =>
          refine .creating hkey (untouched.snoc rfl rfl) hcompletions rfl
            (launch_again w.flying delay _) ?_
          simp
      | concluded last =>
          cases answer with
          | error e => exact .fresh hkey (untouched.snoc rfl rfl) hcompletions rfl
          | ok id =>
              -- from here on the chunks count
              subst hkey
              have hfound := hcreated id rfl
              exact .live ⟨rfl, untouched.books rfl rfl id, (untouched.holds hfound).snoc rfl,
                hcompletions⟩ (.inl rfl)

/-- The completion reaches the store. -/
theorem Open.assemble {listed : List CompletedPart} {total attempt : Nat}
    (h : Open key first id upload w trace) (hquiet : w.upload.session.tasks = [])
    (hempty : w.upload.session.pending = .empty)
    (hacked : Session.acknowledged 1 w.upload.session.parts = .ok (listed, total))
    (hawaiting : w.upload.awaiting =
      some (.store (.completing id listed total) (.complete key id listed) attempt))
    {answer : Except StoreError String}
    (hperform : w.store.perform (.complete key id listed) = (answer, store)) :
    Standing key first
      ⟨w.upload, store,
        Function.update w.flying .owner (some ⟨.complete key id listed, some answer⟩)⟩
      (trace ++ [.reached .owner (.complete key id listed) answer]) := by
  obtain ⟨hkey, books, holds, hcompletions⟩ := h
  obtain ⟨-, hnumbers, -⟩ := Session.forall₂_of_acknowledged hacked
  -- every part is acknowledged, so the store holds every body
  have hlisted := holds.listed books hacked
  have hcomplete := MemoryStore.complete_of_pending holds.found (holds.key_eq.trans hkey) hnumbers
    hlisted
  rw [MemoryStore.perform, hcomplete] at hperform
  obtain ⟨rfl, rfl⟩ := Prod.mk.inj hperform
  refine .assembled hkey (books.snoc rfl rfl) ?_ hquiet hempty hacked ?_ hawaiting
    (update_owner w.flying _) ?_
  · exact congrArg (· ++ [listed]) hcompletions
  · rw [bodiesFlushed_snoc_of_none rfl]
    exact hlisted.imp fun part body h => h.2.symm
  · rw [bodiesFlushed_snoc_of_none rfl, holds.type_eq]
    exact Dict.get?_insert_self _ _ _

theorem Open.step_completing {listed : List CompletedPart} {total attempt : Nat}
    {answer : Option (Except StoreError String)} (h : Open key first id upload w trace)
    (hquiet : w.upload.session.tasks = []) (hempty : w.upload.session.pending = .empty)
    (hacked : Session.acknowledged 1 w.upload.session.parts = .ok (listed, total))
    (hawaiting : w.upload.awaiting =
      some (.store (.completing id listed total) (.complete key id listed) attempt))
    (hflying : w.flying .owner = some ⟨.complete key id listed, answer⟩)
    (hunanswered : ∀ tag, answer ≠ some (.ok tag)) (hstep : Alone w o w') :
    Standing key first w' (trace ++ [o]) := by
  have ⟨hkey, books, holds, hcompletions⟩ := h
  cases hstep with
  | told idle begun => rw [hawaiting] at idle; cases idle
  | reached awaiting flying perform =>
      rw [hflying] at flying
      obtain ⟨rfl, rfl⟩ := Flight.mk.inj (Option.some.inj flying)
      exact h.assemble hquiet hempty hacked hawaiting perform
  | @failed call error awaiting flying =>
      rw [hflying] at flying
      obtain ⟨rfl, rfl⟩ := Flight.mk.inj (Option.some.inj flying)
      have hholds := holds.congr rfl rfl rfl
        (update_owner_part w.flying (some ⟨.complete key id listed, some (.error error)⟩))
      exact .completing ⟨hkey, books.snoc rfl rfl, hholds.snoc rfl, hcompletions⟩ hquiet hempty
        hacked hawaiting (update_owner w.flying _) (by simp)
  | @answered purpose asked call attempt answer result awaiting flying told =>
      rw [hflying] at flying
      obtain ⟨rfl, rfl⟩ := Flight.mk.inj (Option.some.inj flying)
      rw [hawaiting] at awaiting
      obtain ⟨rfl, rfl, rfl⟩ := Await.store.inj (Option.some.inj awaiting)
      cases told with
      | @again error delay retried pause =>
          have hholds := holds.congr rfl rfl rfl
            (launch_again_part w.flying delay (.complete key id listed))
          exact .completing ⟨hkey, books.snoc rfl rfl, hholds.snoc rfl, hcompletions⟩ hquiet hempty
            hacked rfl (launch_again w.flying delay _) (by simp)
      | concluded last =>
          -- a completion that failed on its way made no object, and the upload is given up
          cases answer with
          | ok tag => exact absurd rfl (hunanswered tag)
          | error e => exact .of_fail books.phase _ _

theorem Standing.step_assembled {listed : List CompletedPart} {total attempt : Nat} {tag : String}
    (hquiet : w.upload.session.tasks = [])
    (hawaiting : w.upload.awaiting =
      some (.store (.completing id listed total) (.complete key id listed) attempt))
    (hflying : w.flying .owner = some ⟨.complete key id listed, some (.ok tag)⟩)
    (hstep : Alone w o w') : Standing key first w' (trace ++ [o]) := by
  cases hstep with
  | told idle begun => rw [hawaiting] at idle; cases idle
  | reached awaiting flying perform => rw [hflying] at flying; cases flying
  | failed awaiting flying => rw [hflying] at flying; cases flying
  | @answered purpose asked call attempt answer result awaiting flying told =>
      rw [hflying] at flying
      obtain ⟨rfl, hanswer⟩ := Flight.mk.inj (Option.some.inj flying)
      obtain rfl := Option.some.inj hanswer
      rw [hawaiting] at awaiting
      obtain ⟨rfl, rfl, rfl⟩ := Await.store.inj (Option.some.inj awaiting)
      -- the answer is no error, so the call is not made again
      cases told with
      | concluded last => exact .ended hquiet (.completed rfl rfl)

/-- A session that was given up or is completed. -/
def Closed (s : Session) : Prop := (∃ error, s.phase = .failed error) ∨ s.phase = .completed

/-- A closed session is not opened again, and makes no call; a completed one can still find a part
lost, and is then given up. -/
theorem begin_of_closed (hquiet : s.tasks = []) (hclosed : Closed s) (c : Command) :
    ∃ s' result, Upload.begin s c = Upload.finish s' result ∧ s'.tasks = [] ∧ Closed s' := by
  have hbegun := Upload.begun_begin s c
  generalize Upload.begin s c = out at hbegun
  cases hbegun with
  | creating phase => simp [Closed, phase] at hclosed
  | told phase told => simp [Closed, phase] at hclosed
  | dismissed shut refused => exact ⟨s, _, rfl, hquiet, hclosed⟩
  | failed shut lost =>
      rw [Upload.fail_of_shut shut]
      exact ⟨_, _, rfl, rfl, .inl ⟨_, rfl⟩⟩

theorem Standing.step_ended (hquiet : w.upload.session.tasks = []) (hended : Ended w.upload)
    (hstep : Alone w o w') : Standing key first w' (trace ++ [o]) := by
  cases hstep with
  | @told c u effects idle begun =>
      have hclosed : Closed w.upload.session := by
        cases hended with
        | failing awaiting => rw [idle] at awaiting; cases awaiting
        | aborting phase awaiting => exact .inl ⟨_, phase⟩
        | failed phase awaiting => exact .inl ⟨_, phase⟩
        | completed phase awaiting => exact .inr phase
      obtain ⟨s', result, hfinish, htasks, hclosed'⟩ := begin_of_closed hquiet hclosed c
      obtain ⟨rfl, rfl⟩ := Prod.mk.inj (hfinish.symm.trans begun)
      rcases hclosed' with ⟨error, hfailed⟩ | hcompleted
      · exact .ended htasks (.failed hfailed rfl)
      · exact .ended htasks (.completed hcompleted rfl)
  | reached awaiting flying perform => exact .ended hquiet hended
  | failed awaiting flying => exact .ended hquiet hended
  | @answered purpose asked call attempt answer result awaiting flying told =>
      cases hended with
      | failing hawaiting =>
          rw [hawaiting] at awaiting
          obtain ⟨rfl, rfl, rfl⟩ := Await.store.inj (Option.some.inj awaiting)
          cases told with
          | again retried pause => cases retried
          | concluded last => exact .ended hquiet (.failed rfl rfl)
      | aborting phase hawaiting =>
          rw [hawaiting] at awaiting
          obtain ⟨rfl, rfl, rfl⟩ := Await.store.inj (Option.some.inj awaiting)
          cases told with
          | again retried pause => cases retried
          | concluded last =>
              cases answer with
              | ok tag => exact .ended hquiet (.failed phase rfl)
              | error e => exact .ended hquiet (.failed phase rfl)
      | failed phase hidle => rw [hidle] at awaiting; cases awaiting
      | completed phase hidle => rw [hidle] at awaiting; cases awaiting

/-! ## Runs -/

/-- Whatever happens, short of a part sent by the owner itself, the run stands somewhere. -/
theorem Standing.step (h : Standing key first w trace) (hstep : Step w o w')
    (hbackground : o.sendsPart = false) :
    Standing key first w' (trace ++ [o]) := by
  cases h with
  | fresh key_eq untouched completions awaiting =>
      have halone := alone_of_step untouched.tasks hstep
      exact step_fresh key_eq untouched completions awaiting halone
  | creating key_eq untouched completions awaiting flying created =>
      have halone := alone_of_step untouched.tasks hstep
      exact step_creating key_eq untouched completions awaiting flying created halone
  | live opened rests => exact opened.step rests hstep hbackground
  | completing opened quiet empty acked awaiting flying unanswered =>
      have halone := alone_of_step quiet hstep
      exact opened.step_completing quiet empty acked awaiting flying unanswered halone
  | assembled key_eq books completions quiet empty acked tags awaiting flying object =>
      exact step_assembled quiet awaiting flying (alone_of_step quiet hstep)
  | ended quiet ended => exact step_ended quiet ended (alone_of_step quiet hstep)

theorem standing_start (config : UploadConfig) (name : String) (store : MemoryStore) :
    Standing (videoObjectKey name) store (start config name store) [] :=
  .fresh rfl ⟨rfl, rfl, rfl, rfl, rfl, rfl⟩ rfl rfl

theorem standing_of_run {config : UploadConfig} {name : String}
    (hrun : Run (start config name store) trace w)
    (hbackground : ∀ o ∈ trace, o.sendsPart = false) :
    Standing (videoObjectKey name) store w trace := by
  induction hrun with
  | start => exact standing_start config name store
  | @step trace w w' o sofar step ih =>
      have hlast : o.sendsPart = false :=
        hbackground o (List.mem_append_right _ (List.mem_singleton_self _))
      exact (ih fun o ho => hbackground o (List.mem_append_left _ ho)).step step hlast

end Transfer

end StudySession

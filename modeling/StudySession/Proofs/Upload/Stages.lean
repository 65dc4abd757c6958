import StudySession.Proofs.Upload.Progress

/-!
# The stages of an upload

`Traffic.Stage` is the invariant of every run, whatever the store answers: an upload is not created
yet, being created, open, being dropped, failed or completed. While it is open, its progress agrees
with the history of the run (`Opened`) and its owner is busy with one thing (`Busy`). A stage also
says how often the store was told to drop the upload. A step leads from one stage to another, with
one lemma for each way a step can go (`Traffic.Moved`).
-/

namespace StudySession

namespace Traffic

open Transfer (Books Untouched TasksAmong launch)

/-- An open upload and the history of its run agree. -/
structure Opened (size : Nat) (id : String) (w : Traffic) (trace : List Happening) : Prop where
  size_eq : w.upload.session.partSize = size
  books : Books id w.upload.session trace
  entries : Entries w.upload.session trace
  carried : Carried w.upload.session w.flying
  unaborted : abortsMade trace = []

/-- What the owner of an open upload is busy with. -/
inductive Busy (size : Nat) (id : String) (w : Traffic) (trace : List Happening) : Prop where
  | resting (awaiting : w.upload.awaiting = none) (gathered : Gathered size w.upload.session trace)
  | sending {number bytes attempt : Nat} {body : ByteArray}
      {answer : Option (Except StoreError String)}
      (awaiting : w.upload.awaiting = some (.store (.sending number bytes)
        (.part w.upload.session.key id number body) attempt))
      (flying : w.flying .owner = some ⟨.part w.upload.session.key id number body, answer⟩)
      (gathered : Gathered size w.upload.session trace)
  | joining (awaiting : w.upload.awaiting = some (.parts id))
      (sealed : Sealed size w.upload.session trace)
  | completing {listed : List CompletedPart} {total attempt : Nat}
      {answer : Option (Except StoreError String)} (quiet : w.upload.session.tasks = [])
      (acked : Session.acknowledged 1 w.upload.session.parts = .ok (listed, total))
      (nonempty : listed ≠ [])
      (awaiting : w.upload.awaiting = some (.store (.completing id listed total)
        (.complete w.upload.session.key id listed) attempt))
      (flying : w.flying .owner = some ⟨.complete w.upload.session.key id listed, answer⟩)
      (sealed : Sealed size w.upload.session trace)

/-- The store is being told to drop an upload that fails with an error. -/
inductive Drops (s : Session) (error : UploadError) : Purpose → Prop where
  /-- The upload fails once the store has answered. -/
  | failing {id : String} (phase : s.phase = .opened id) : Drops s error (.failing error)
  | aborting (phase : s.phase = .failed error) : Drops s error .aborting

/-- An upload that was never open, and of which nothing was taken in, sent or dropped. -/
structure Unopened (size : Nat) (s : Session) (trace : List Happening) : Prop where
  size_eq : s.partSize = size
  untouched : Untouched s trace
  unaccepted : chunksAccepted trace = []
  unacknowledged : ∀ number tag, ¬ Acknowledged trace number tag
  unaborted : abortsMade trace = []

/-- How far an upload with a part size has come. -/
inductive Stage (size : Nat) (w : Traffic) (trace : List Happening) : Prop where
  | fresh (unopened : Unopened size w.upload.session trace) (awaiting : w.upload.awaiting = none)
  | creating {attempt : Nat} {answer : Option (Except StoreError String)}
      (unopened : Unopened size w.upload.session trace) (told : lastCommand? trace = some .create)
      (awaiting : w.upload.awaiting =
        some (.store .creating (.create w.upload.session.key videoContentType) attempt))
      (flying : w.flying .owner =
        some ⟨.create w.upload.session.key videoContentType, answer⟩)
  | live {id : String} (opened : Opened size id w trace) (busy : Busy size id w trace)
  | dropping {error : UploadError} {purpose : Purpose} {key id : String} {attempt : Nat}
      {answer : Option (Except StoreError String)} (drops : Drops w.upload.session error purpose)
      (quiet : w.upload.session.tasks = [])
      (awaiting : w.upload.awaiting = some (.store purpose (.abort key id) attempt))
      (flying : w.flying .owner = some ⟨.abort key id, answer⟩)
      (aborted : (abortsMade trace).length = if answer.isSome then 1 else 0)
  | failed {error : UploadError} (phase : w.upload.session.phase = .failed error)
      (quiet : w.upload.session.tasks = []) (awaiting : w.upload.awaiting = none)
      (aborted : (abortsMade trace).length = 1)
  | completed (phase : w.upload.session.phase = .completed)
      (healthy : w.upload.session.lostPart? = none) (quiet : w.upload.session.tasks = [])
      (awaiting : w.upload.awaiting = none) (unaborted : abortsMade trace = [])

variable {size : Nat} {id : String} {w w' : Traffic} {trace : List Happening} {o : Happening}
  {s : Session} {flying : Caller → Option Flight} {task : PartTask}

/-! ## An open upload -/

/-- What is no command, no call and no acknowledgment leaves an open upload as it is. -/
theorem Opened.congr (h : Opened size id w trace) (hsession : w'.upload.session = w.upload.session)
    (hcarried : Carried w.upload.session w'.flying) (hchunk : o.chunk? = none)
    (hflushed : o.flushed = [])
    (hacked : ∀ number call tag effects, o ≠ .answered (.part number) call (.ok tag) effects)
    (hunaborted : abortsMade (trace ++ [o]) = []) : Opened size id w' (trace ++ [o]) := by
  refine ⟨?_, ?_, ?_, ?_, hunaborted⟩
  · rw [hsession]
    exact h.size_eq
  · rw [hsession]
    exact h.books.snoc hchunk hflushed
  · rw [hsession]
    exact h.entries.snoc hacked
  · rwa [hsession]

/-- What a part does leaves the owner of an open upload at what it is busy with. -/
theorem Busy.snoc (h : Busy size id w trace) (hbusy : w.upload.session.tasks ≠ [])
    (hawaiting : w'.upload.awaiting = w.upload.awaiting)
    (hkey : w'.upload.session.key = w.upload.session.key)
    (hpending : w'.upload.session.pending = w.upload.session.pending)
    (hflying : w'.flying .owner = w.flying .owner) (hnone : o.command? = none) :
    Busy size id w' (trace ++ [o]) := by
  cases h with
  | resting awaiting gathered =>
      exact .resting (hawaiting.trans awaiting) (gathered.snoc hpending hnone)
  | sending awaiting flying gathered =>
      rw [← hkey] at awaiting flying
      exact .sending (hawaiting.trans awaiting) (hflying.trans flying)
        (gathered.snoc hpending hnone)
  | joining awaiting sealed =>
      exact .joining (hawaiting.trans awaiting) (sealed.snoc hpending hnone)
  | completing quiet acked nonempty awaiting flying sealed => exact absurd quiet hbusy

/-- An open upload that gives up is being dropped. -/
theorem Stage.of_fail (hphase : s.phase = .opened id) (error : UploadError)
    (flying : Caller → Option Flight) (hunaborted : abortsMade trace = []) :
    Stage size ⟨(Upload.fail s error).1, launch flying (Upload.fail s error).2⟩ trace := by
  rw [Upload.fail_of_opened hphase]
  have hflying := Transfer.launch_ask flying { s with tasks := [], pending := .empty }
    (.failing error) (.abort s.key id)
  refine .dropping (.failing hphase) rfl rfl hflying ?_
  rw [hunaborted]
  rfl

/-- Joining the parts of an open upload waits for them, asks for its completion, or gives up. -/
theorem Opened.join (h : Opened size id w trace) (sealed : Sealed size w.upload.session trace)
    {result : Upload × List Effect} (hjoined : Upload.Joined w.upload.session id result) :
    Stage size ⟨result.1, launch w.flying result.2⟩ trace := by
  obtain ⟨size_eq, books, entries, carried, unaborted⟩ := h
  cases hjoined with
  | waits busy => exact .live ⟨size_eq, books, entries, carried, unaborted⟩ (.joining rfl sealed)
  | @completes listed total quiet acked nonempty =>
      have hflying := Transfer.launch_ask w.flying w.upload.session (.completing id listed total)
        (.complete w.upload.session.key id listed)
      exact .live ⟨size_eq, books, entries, carried.owner _, unaborted⟩
        (.completing quiet acked nonempty rfl hflying sealed)
  | fails error => exact .of_fail books.phase error _ unaborted

/-- A part that is on its way no longer may have been the last one waited for. -/
theorem Opened.afterPart {u : Upload} (h : Opened size id ⟨u, flying⟩ trace)
    (busy : Busy size id ⟨u, flying⟩ trace) :
    Stage size ⟨u.afterPart.1, launch flying u.afterPart.2⟩ trace := by
  rcases Upload.afterPart_cases u with ⟨id', hparts, hjoined⟩ | ⟨-, hnone⟩
  · cases busy with
    | resting awaiting gathered => rw [awaiting] at hparts; cases hparts
    | sending awaiting flying gathered => rw [awaiting] at hparts; cases hparts
    | joining awaiting sealed =>
        rw [awaiting] at hparts
        obtain rfl := Await.parts.inj (Option.some.inj hparts)
        exact h.join sealed hjoined
    | completing quiet acked nonempty awaiting flying sealed => rw [awaiting] at hparts; cases hparts
  · rw [hnone]
    exact .live h busy

/-! ## What parts do -/

/-- A part's call is made. -/
theorem Opened.partReached (h : Opened size id w trace) (busy : Busy size id w trace)
    (htask : task ∈ w.upload.session.tasks) {call : StoreCall} {answer : Except StoreError String}
    (hflying : w.flying (.part task.number) = some ⟨call, none⟩) :
    Stage size
      ⟨w.upload, Function.update w.flying (.part task.number) (some ⟨call, some answer⟩)⟩
      (trace ++ [.reached (.part task.number) call answer]) := by
  obtain rfl : call = task.call := h.carried task htask _ hflying
  have hpart : task.call.isAbort = false := by
    rw [(h.books.task task htask).1]
    rfl
  have hcarried := h.carried.update h.books htask (f := some ⟨task.call, some answer⟩) (by simp)
  refine .live (h.congr rfl hcarried rfl rfl (by simp) ?_) ?_
  · rw [abortsMade_snoc_of_some rfl, h.unaborted, hpart]
    rfl
  · exact busy.snoc (List.ne_nil_of_mem htask) rfl rfl rfl (by simp) rfl

/-- The answer to a part comes back. -/
theorem Opened.partAnswered (h : Opened size id w trace) (busy : Busy size id w trace)
    (htask : task ∈ w.upload.session.tasks) {call : StoreCall} {answer : Except StoreError String}
    {result : Upload × List Effect} (htold : Upload.PartTold w.upload task answer result) :
    Stage size
      ⟨result.1, launch (Function.update w.flying (.part task.number) none) result.2⟩
      (trace ++ [.answered (.part task.number) call answer result.2]) := by
  obtain ⟨size_eq, books, entries, carried, unaborted⟩ := h
  have hbusy := List.ne_nil_of_mem htask
  generalize ho : Happening.answered (.part task.number) call answer result.2 = o
  have hnone : o.command? = none := by rw [← ho]; rfl
  have hmade : o.made? = none := by rw [← ho]; rfl
  have hbooks := books.snoc (Happening.chunk?_of_command? hnone)
    (Happening.flushed_of_command? hnone)
  have hunaborted : abortsMade (trace ++ [o]) = [] := by
    rw [abortsMade_snoc_of_none hmade, unaborted]
  -- the part has no call in the air any more
  have hcarried := carried.update books htask (f := none) (by simp)
  have hflying : Function.update w.flying (.part task.number) none .owner = w.flying .owner := by
    simp
  cases htold with
  | @acknowledged tag =>
      have hnew : ∀ number tag', Acknowledged (trace ++ [o]) number tag' →
          Acknowledged trace number tag' ∨
            number = task.number ∧ PartState.acknowledged tag = .acknowledged tag' := by
        intro number tag' hacked
        rcases acknowledged_snoc_iff.1 hacked with hacked | ⟨call', effects, heq⟩
        · exact .inl hacked
        · rw [← ho] at heq
          obtain ⟨hnumber, -, htag, -⟩ := Happening.answered.inj heq
          cases hnumber
          cases htag
          exact .inr ⟨rfl, rfl⟩
      have hacked : Acknowledged (trace ++ [o]) task.number tag := by
        rw [← ho]
        exact ⟨call, _, List.mem_append_right _ (List.mem_singleton_self _)⟩
      refine Opened.afterPart ⟨size_eq, hbooks.settle ?_, entries.settle books htask hnew,
        hcarried.tasks (Transfer.tasksAmong_filter _ _), hunaborted⟩
        (busy.snoc hbusy rfl rfl rfl hflying hnone)
      rintro _ ⟨⟩
      exact hacked
  | @again error delay pause =>
      have htasks := Transfer.tasksAmong_again task.number w.upload.session.tasks
      have hagain := carried.update books htask (f := some ⟨task.call, none⟩) (by simp)
      have hlaunch : launch (Function.update w.flying (.part task.number) none)
          [.call (.part task.number) delay task.call] =
          Function.update w.flying (.part task.number) (some ⟨task.call, none⟩) :=
        Function.update_idem _ _ _
      have hentries := entries.snoc (o := o) (by rw [← ho]; simp)
      rw [hlaunch]
      exact .live ⟨size_eq, hbooks.tasks htasks, hentries.tasks htasks, hagain.tasks htasks,
        hunaborted⟩ (busy.snoc hbusy rfl rfl rfl (by simp) hnone)
  | @lost error pause =>
      have hnew : ∀ number tag', Acknowledged (trace ++ [o]) number tag' →
          Acknowledged trace number tag' ∨ number = task.number ∧
            PartState.lost (.fatal task.number task.attempt (.refused error)) =
              .acknowledged tag' := by
        intro number tag' hacked
        rcases acknowledged_snoc_iff.1 hacked with hacked | ⟨call', effects, heq⟩
        · exact .inl hacked
        · rw [← ho] at heq
          cases heq
      exact Opened.afterPart ⟨size_eq, hbooks.settle (by simp), entries.settle books htask hnew,
        hcarried.tasks (Transfer.tasksAmong_filter _ _), hunaborted⟩
        (busy.snoc hbusy rfl rfl rfl hflying hnone)

/-- The task of a part dies. -/
theorem Opened.partDied (h : Opened size id w trace) (busy : Busy size id w trace)
    (htask : task ∈ w.upload.session.tasks) {u : Upload} {effects : List Effect}
    (hdied : w.upload.partDied task.number = (u, effects)) :
    Stage size ⟨u, launch (Function.update w.flying (.part task.number) none) effects⟩
      (trace ++ [.died task.number effects]) := by
  obtain ⟨size_eq, books, entries, carried, unaborted⟩ := h
  have htasks := Transfer.tasksAmong_filter (·.number != task.number) w.upload.session.tasks
  have hbooks := books.snoc (o := .died task.number effects) rfl rfl
  have hentries := entries.snoc (o := .died task.number effects) (by simp)
  have hcarried := carried.update books htask (f := none) (by simp)
  have hflying : Function.update w.flying (.part task.number) none .owner = w.flying .owner := by
    simp
  rw [Upload.partDied_of_mem _ htask] at hdied
  have hafter := Opened.afterPart
    (u := { w.upload with
      session :=
        { w.upload.session with
          tasks := w.upload.session.tasks.filter (·.number != task.number) } })
    ⟨size_eq, hbooks.tasks htasks, hentries.tasks htasks, hcarried.tasks htasks,
      (abortsMade_snoc_of_none rfl).trans unaborted⟩
    (busy.snoc (List.ne_nil_of_mem htask) rfl rfl rfl hflying rfl)
  rwa [hdied] at hafter

/-! ## What the owner of an open upload does -/

/-- What is flushed sets out as the next part. -/
theorem Opened.flush (h : Opened size id w trace) {body : ByteArray} {c : Command}
    {effects : List Effect} (hflushed : (Happening.told c effects).flushed = [body])
    (hbody : body = w.upload.session.pending ++
      joinBytes (Happening.told c effects).chunk?.toList) (awaiting : Option Await) :
    Opened size id
      ⟨⟨({ w.upload.session with pending := body }.submit id).1, awaiting⟩,
        Function.update w.flying (.part (w.upload.session.parts.length + 1))
          (some ⟨.part w.upload.session.key id (w.upload.session.parts.length + 1) body, none⟩)⟩
      (trace ++ [.told c effects]) := by
  have hentries := h.entries.snoc (o := .told c effects) (by simp)
  refine ⟨h.size_eq, h.books.flush hflushed hbody, hentries.submit body id,
    h.carried.submit h.books body, ?_⟩
  rw [abortsMade_snoc_of_none rfl, h.unaborted]

/-- A command to an open upload. -/
theorem Opened.told (h : Opened size id w trace) (gathered : Gathered size w.upload.session trace)
    (hsize : 0 < size) {c : Command} {result : Upload × List Effect}
    (htold : Upload.Told w.upload.session id c result) :
    Stage size ⟨result.1, launch w.flying result.2⟩ (trace ++ [.told c result.2]) := by
  have hunaborted : abortsMade (trace ++ [.told c result.2]) = [] := by
    rw [abortsMade_snoc_of_none rfl, h.unaborted]
  cases htold with
  | reopened =>
      refine .live (h.congr rfl h.carried rfl rfl (by simp) hunaborted) ?_
      exact .resting rfl (gathered.told_snoc (by simp) rfl rfl)
  | refused gate lost => exact .of_fail h.books.phase _ _ hunaborted
  | @gathered chunk healthy few =>
      rw [h.size_eq] at few
      have hbooks := h.books.note (o := .told (.accept chunk) [.finished (.ok .done)]) rfl
      rw [show Happening.chunk? (.told (.accept chunk) _) = some chunk from rfl,
        Option.toList_some, joinBytes_cons, joinBytes_nil, ByteArray.append_empty] at hbooks
      have hentries := h.entries.snoc (o := .told (.accept chunk) [.finished (.ok .done)])
        (by simp)
      exact .live ⟨h.size_eq, hbooks, ⟨hentries.acknowledged, hentries.onWay⟩, h.carried,
        hunaborted⟩ (.resting rfl (gathered.gather hsize few))
  | @flushed chunk healthy enough =>
      obtain ⟨-, enough⟩ := enough
      rw [h.size_eq] at enough
      have hbody : w.upload.session.pending ++ chunk =
          w.upload.session.pending ++ joinBytes [chunk] := by
        rw [joinBytes_cons, joinBytes_nil, ByteArray.append_empty]
      exact .live (h.flush rfl hbody none) (.resting rfl (gathered.flush enough rfl rfl rfl))
  | @sent number body =>
      have hflying := Transfer.launch_ask w.flying w.upload.session (.sending number body.size)
        (.part w.upload.session.key id number body)
      refine .live (h.congr rfl (h.carried.owner _) rfl rfl (by simp) hunaborted) ?_
      exact .sending rfl hflying (gathered.told_snoc (by simp) rfl rfl)
  | joined healthy empty joined =>
      have hempty : w.upload.session.pending = .empty :=
        ByteArray.size_eq_zero_iff.1 (by simpa [ByteArray.isEmpty] using empty)
      have hflushed := Transfer.flushed_of_joined joined .complete
      have hopened : Opened size id w _ := h.congr rfl h.carried rfl hflushed (by simp) hunaborted
      exact hopened.join (gathered.seal (by rw [hflushed, if_pos empty]) hempty) joined
  | flushedLast healthy rest =>
      have hbody : w.upload.session.pending = w.upload.session.pending ++ joinBytes [] :=
        ByteArray.append_empty.symm
      refine .live (h.flush rfl hbody (some (.parts id))) (.joining rfl (gathered.seal ?_ rfl))
      rw [rest]
      rfl
  | aborted =>
      have hflying := Transfer.launch_ask w.flying
        { w.upload.session with tasks := [], pending := .empty, phase := .failed .sessionFailed }
        .aborting (.abort w.upload.session.key id)
      refine .dropping (.aborting rfl) rfl rfl hflying ?_
      rw [hunaborted]
      rfl

/-- The call that the owner of an open upload waits for is made. -/
theorem Opened.ownerReached (h : Opened size id w trace) (busy : Busy size id w trace)
    {purpose : Purpose} {asked call : StoreCall} {attempt : Nat} {answer : Except StoreError String}
    (hawaiting : w.upload.awaiting = some (.store purpose asked attempt))
    (hflying : w.flying .owner = some ⟨call, none⟩) :
    Stage size ⟨w.upload, Function.update w.flying .owner (some ⟨call, some answer⟩)⟩
      (trace ++ [.reached .owner call answer]) := by
  have hreached : call.isAbort = false → Opened size id
      ⟨w.upload, Function.update w.flying .owner (some ⟨call, some answer⟩)⟩
      (trace ++ [.reached .owner call answer]) := by
    intro hcall
    refine h.congr rfl (h.carried.owner _) rfl rfl (by simp) ?_
    rw [abortsMade_snoc_of_some rfl, h.unaborted, hcall]
    rfl
  cases busy with
  | resting awaiting gathered => rw [awaiting] at hawaiting; cases hawaiting
  | sending awaiting flying gathered =>
      rw [flying] at hflying
      obtain ⟨rfl, -⟩ := Flight.mk.inj (Option.some.inj hflying)
      exact .live (hreached rfl)
        (.sending awaiting (Transfer.update_owner w.flying _) (gathered.snoc rfl rfl))
  | joining awaiting sealed => rw [awaiting] at hawaiting; cases hawaiting
  | completing quiet acked nonempty awaiting flying sealed =>
      rw [flying] at hflying
      obtain ⟨rfl, -⟩ := Flight.mk.inj (Option.some.inj hflying)
      exact .live (hreached rfl) (.completing quiet acked nonempty awaiting
        (Transfer.update_owner w.flying _) (sealed.snoc rfl rfl))

/-- Where all parts are acknowledged, none is lost. -/
theorem lostPart?_of_acknowledged {listed : List CompletedPart} {total : Nat}
    (h : Session.acknowledged 1 s.parts = .ok (listed, total)) : s.lostPart? = none := by
  obtain ⟨hparts, -, -⟩ := Session.forall₂_of_acknowledged h
  refine List.findSome?_eq_none_iff.2 fun p hp => ?_
  obtain ⟨i, hi, rfl⟩ := List.getElem_of_mem hp
  have hlisted : i < listed.length := hparts.length_eq ▸ hi
  have hstate := ((List.forall₂_iff_get.1 hparts).2 i hi hlisted).2
  rw [List.get_eq_getElem] at hstate
  rw [hstate]

/-- The owner of an open upload is answered. -/
theorem Opened.ownerAnswered (h : Opened size id w trace) (busy : Busy size id w trace)
    {purpose : Purpose} {asked call : StoreCall} {attempt : Nat} {answer : Except StoreError String}
    {result : Upload × List Effect}
    (hawaiting : w.upload.awaiting = some (.store purpose asked attempt))
    (htold : Upload.OwnerTold w.upload purpose asked attempt answer result) :
    Stage size ⟨result.1, launch (Function.update w.flying .owner none) result.2⟩
      (trace ++ [.answered .owner call answer result.2]) := by
  have hunaborted : abortsMade (trace ++ [.answered .owner call answer result.2]) = [] := by
    rw [abortsMade_snoc_of_none rfl, h.unaborted]
  have hanswered : ∀ (u : Upload) (flying : Caller → Option Flight),
      u.session = w.upload.session → Carried w.upload.session flying →
      Opened size id ⟨u, flying⟩ (trace ++ [.answered .owner call answer result.2]) := by
    intro u flying hsession hcarried
    exact h.congr hsession hcarried rfl rfl (by simp) hunaborted
  cases busy with
  | resting awaiting gathered => rw [awaiting] at hawaiting; cases hawaiting
  | sending awaiting flying gathered =>
      rw [awaiting] at hawaiting
      obtain ⟨rfl, rfl, rfl⟩ := Await.store.inj (Option.some.inj hawaiting)
      cases htold with
      | @again error delay retried pause =>
          exact .live (hanswered _ _ rfl ((h.carried.owner _).owner _))
            (.sending rfl (Transfer.launch_again w.flying delay _) (gathered.snoc rfl rfl))
      | concluded last =>
          -- whatever the answer, the owner rests
          cases answer with
          | ok tag =>
              exact .live (hanswered _ _ rfl (h.carried.owner _))
                (.resting rfl (gathered.snoc rfl rfl))
          | error e =>
              exact .live (hanswered _ _ rfl (h.carried.owner _))
                (.resting rfl (gathered.snoc rfl rfl))
  | joining awaiting sealed => rw [awaiting] at hawaiting; cases hawaiting
  | completing quiet acked nonempty awaiting flying sealed =>
      rw [awaiting] at hawaiting
      obtain ⟨rfl, rfl, rfl⟩ := Await.store.inj (Option.some.inj hawaiting)
      cases htold with
      | @again error delay retried pause =>
          exact .live (hanswered _ _ rfl ((h.carried.owner _).owner _))
            (.completing quiet acked nonempty rfl (Transfer.launch_again w.flying delay _)
              (sealed.snoc rfl rfl))
      | concluded last =>
          cases answer with
          | ok tag =>
              have hhealthy := lostPart?_of_acknowledged acked
              exact .completed rfl hhealthy quiet rfl hunaborted
          | error e => exact .of_fail h.books.phase _ _ hunaborted

/-- Whatever happens to an open upload. -/
theorem Opened.step (h : Opened size id w trace) (busy : Busy size id w trace) (hsize : 0 < size)
    (hmoved : Moved w o w') : Stage size w' (trace ++ [o]) := by
  cases hmoved with
  | @told c u effects idle begun =>
      have htold := Upload.told_begin h.books.phase c
      rw [begun] at htold
      cases busy with
      | resting awaiting gathered => exact h.told gathered hsize htold
      | sending awaiting flying gathered => rw [idle] at awaiting; cases awaiting
      | joining awaiting sealed => rw [idle] at awaiting; cases awaiting
      | completing quiet acked nonempty awaiting flying sealed =>
          rw [idle] at awaiting
          cases awaiting
  | ownerReached awaiting flying => exact h.ownerReached busy awaiting flying
  | ownerAnswered awaiting flying told => exact h.ownerAnswered busy awaiting told
  | partReached onWay flying => exact h.partReached busy onWay flying
  | partAnswered onWay told => exact h.partAnswered busy onWay told
  | partDied onWay dropped => exact h.partDied busy onWay dropped

/-! ## Before an upload is open -/

/-- What takes in no chunk, flushes and opens nothing, and is no acknowledgment or drop leaves an
upload as it was before. -/
theorem Unopened.snoc (h : Unopened size s trace) (hopens : o.opens = false)
    (hflushed : o.flushed = []) (haccepted : o.accepted? = none)
    (hacked : ∀ number call tag effects, o ≠ .answered (.part number) call (.ok tag) effects)
    (hunaborted : abortsMade (trace ++ [o]) = []) : Unopened size s (trace ++ [o]) := by
  refine ⟨h.size_eq, h.untouched.snoc hopens hflushed, ?_, ?_, hunaborted⟩
  · rw [chunksAccepted_snoc, haccepted, h.unaccepted]
    rfl
  · intro number tag hnew
    rcases acknowledged_snoc_iff.1 hnew with hsofar | ⟨call, effects, ho⟩
    · exact h.unacknowledged number tag hsofar
    · exact hacked _ _ _ _ ho

/-- A command to an upload that is not created yet. -/
theorem Unopened.told (h : Unopened size w.upload.session trace) {c : Command} {u : Upload}
    {effects : List Effect} (hbegin : Upload.begin w.upload.session c = (u, effects)) :
    Stage size ⟨u, launch w.flying effects⟩ (trace ++ [.told c effects]) := by
  have hunaborted : abortsMade (trace ++ [.told c effects]) = [] := by
    rw [abortsMade_snoc_of_none rfl, h.unaborted]
  -- either the store is asked to create the upload, or the command is refused at once
  rcases Transfer.begin_of_idle h.untouched.phase h.untouched.parts c with
    ⟨rfl, hask⟩ | ⟨result, hfinish, hresult⟩
  · obtain ⟨rfl, rfl⟩ := Prod.mk.inj (hask.symm.trans hbegin)
    have hflying := Transfer.launch_ask w.flying w.upload.session .creating
      (.create w.upload.session.key videoContentType)
    exact .creating (h.snoc rfl rfl rfl (by simp) hunaborted) (lastCommand?_snoc_of_some rfl) rfl
      hflying
  · obtain ⟨rfl, rfl⟩ := Prod.mk.inj (hfinish.symm.trans hbegin)
    have hidle : (Happening.told c [.finished result]).opens = false ∧
        (Happening.told c [.finished result]).accepted? = none := by
      rcases hresult with ⟨rfl, rfl⟩ | ⟨error, rfl⟩
      · exact ⟨rfl, rfl⟩
      · exact ⟨rfl, by cases c <;> rfl⟩
    exact .fresh (h.snoc hidle.1 rfl hidle.2 (by simp) hunaborted) rfl

/-- The store's id opens the upload. -/
theorem Unopened.opened (h : Unopened size s trace) (hopens : o.opens = true)
    (hnone : o.command? = none) (hmade : o.made? = none)
    (hacked : ∀ number call tag effects, o ≠ .answered (.part number) call (.ok tag) effects)
    (id : String) (flying : Caller → Option Flight) :
    Opened size id ⟨⟨{ s with phase := .opened id }, none⟩, flying⟩ (trace ++ [o]) := by
  have hbooks := h.untouched.books hopens (Happening.flushed_of_command? hnone) id
  have htasks : s.tasks = [] := h.untouched.tasks
  refine ⟨h.size_eq, hbooks, ⟨?_, ?_⟩, ?_, ?_⟩
  · intro i tag hnew
    rcases acknowledged_snoc_iff.1 hnew with hsofar | ⟨call, effects, ho⟩
    · exact absurd hsofar (h.unacknowledged _ _)
    · exact absurd ho (hacked _ _ _ _)
  · simp [htasks]
  · simp [Carried, htasks]
  · rw [abortsMade_snoc_of_none hmade, h.unaborted]

theorem Unopened.gathered (h : Unopened size s trace) (htold : lastCommand? trace = some .create)
    (hnone : o.command? = none) (id : String) :
    Gathered size { s with phase := .opened id } (trace ++ [o]) := by
  have hchunks : chunksAccepted (trace ++ [o]) = [] := by
    rw [chunksAccepted_snoc, Happening.accepted?_of_command? hnone, h.unaccepted]
    rfl
  refine ⟨?_, ?_, ?_⟩
  · rw [lastCommand?_snoc_of_none hnone, htold]
    simp
  · rw [bodiesFlushed_snoc_of_none (Happening.flushed_of_command? hnone), h.untouched.unflushed,
      hchunks]
    rfl
  · rw [hchunks]
    exact h.untouched.pending

/-! ## Steps -/

theorem Stage.step_creating {attempt : Nat} {answer : Option (Except StoreError String)}
    (unopened : Unopened size w.upload.session trace) (told : lastCommand? trace = some .create)
    (hawaiting : w.upload.awaiting =
      some (.store .creating (.create w.upload.session.key videoContentType) attempt))
    (hflying : w.flying .owner =
      some ⟨.create w.upload.session.key videoContentType, answer⟩)
    (hmoved : Moved w o w') : Stage size w' (trace ++ [o]) := by
  have hquiet := unopened.untouched.tasks
  cases hmoved with
  | told idle begun => rw [hawaiting] at idle; cases idle
  | @ownerReached purpose asked call attempt answer awaiting flying =>
      rw [hflying] at flying
      obtain ⟨rfl, rfl⟩ := Flight.mk.inj (Option.some.inj flying)
      refine .creating (unopened.snoc rfl rfl rfl (by simp) ?_) ?_ hawaiting
        (Transfer.update_owner w.flying _)
      · rw [abortsMade_snoc_of_some rfl, unopened.unaborted]
        rfl
      · rw [lastCommand?_snoc_of_none rfl, told]
  | @ownerAnswered purpose asked call attempt answer result awaiting flying htold =>
      rw [hawaiting] at awaiting
      obtain ⟨rfl, rfl, rfl⟩ := Await.store.inj (Option.some.inj awaiting)
      have hunaborted : abortsMade (trace ++ [.answered .owner call answer result.2]) = [] := by
        rw [abortsMade_snoc_of_none rfl, unopened.unaborted]
      cases htold with
      | @again error delay retried pause =>
          refine .creating (unopened.snoc rfl rfl rfl (by simp) hunaborted) ?_ rfl
            (Transfer.launch_again w.flying delay _)
          rw [lastCommand?_snoc_of_none rfl, told]
      | concluded last =>
          cases answer with
          | error e => exact .fresh (unopened.snoc rfl rfl rfl (by simp) hunaborted) rfl
          | ok id =>
              exact .live (unopened.opened rfl rfl rfl (by simp) id _)
                (.resting rfl (unopened.gathered told rfl id))
  | partReached onWay flying => exact absurd onWay (not_onWay_of_quiet hquiet)
  | partAnswered onWay told => exact absurd onWay (not_onWay_of_quiet hquiet)
  | partDied onWay dropped => exact absurd onWay (not_onWay_of_quiet hquiet)

theorem Stage.step_dropping {error : UploadError} {purpose : Purpose} {key id : String}
    {attempt : Nat} {answer : Option (Except StoreError String)}
    (drops : Drops w.upload.session error purpose) (hquiet : w.upload.session.tasks = [])
    (hawaiting : w.upload.awaiting = some (.store purpose (.abort key id) attempt))
    (hflying : w.flying .owner = some ⟨.abort key id, answer⟩)
    (haborted : (abortsMade trace).length = if answer.isSome then 1 else 0)
    (hmoved : Moved w o w') : Stage size w' (trace ++ [o]) := by
  cases hmoved with
  | told idle begun => rw [hawaiting] at idle; cases idle
  | @ownerReached purpose asked call attempt answer awaiting flying =>
      rw [hflying] at flying
      obtain ⟨rfl, rfl⟩ := Flight.mk.inj (Option.some.inj flying)
      refine .dropping drops hquiet hawaiting (Transfer.update_owner w.flying _) ?_
      rw [abortsMade_snoc_of_some rfl, List.length_append, haborted]
      rfl
  | @ownerAnswered purpose asked call attempt answer result awaiting flying htold =>
      rw [hflying] at flying
      obtain ⟨rfl, rfl⟩ := Flight.mk.inj (Option.some.inj flying)
      rw [hawaiting] at awaiting
      obtain ⟨rfl, rfl, rfl⟩ := Await.store.inj (Option.some.inj awaiting)
      have honce : (abortsMade
          (trace ++ [.answered .owner (.abort key id) answer result.2])).length = 1 := by
        rw [abortsMade_snoc_of_none rfl, haborted]
        rfl
      -- the call is made once, and the upload has failed whatever is answered
      cases htold with
      | again retried pause => cases drops <;> cases retried
      | concluded last =>
          cases drops with
          | failing phase => exact .failed rfl hquiet rfl honce
          | aborting phase =>
              cases answer with
              | ok tag => exact .failed phase hquiet rfl honce
              | error e => exact .failed phase hquiet rfl honce
  | partReached onWay flying => exact absurd onWay (not_onWay_of_quiet hquiet)
  | partAnswered onWay told => exact absurd onWay (not_onWay_of_quiet hquiet)
  | partDied onWay dropped => exact absurd onWay (not_onWay_of_quiet hquiet)

/-- What a closed upload answers at once leaves it as it is. -/
theorem Stage.step_failed {error : UploadError} (hphase : w.upload.session.phase = .failed error)
    (hquiet : w.upload.session.tasks = []) (hidle : w.upload.awaiting = none)
    (haborted : (abortsMade trace).length = 1) (hmoved : Moved w o w') :
    Stage size w' (trace ++ [o]) := by
  obtain ⟨c, u, effects, rfl, rfl, begun⟩ := hmoved.told_of_idle hquiet hidle
  rw [Upload.begin_of_failed hphase] at begun
  obtain ⟨rfl, rfl⟩ := Prod.mk.inj begun
  refine .failed hphase hquiet rfl ?_
  rw [abortsMade_snoc_of_none rfl, haborted]

theorem Stage.step_completed (hphase : w.upload.session.phase = .completed)
    (hhealthy : w.upload.session.lostPart? = none) (hquiet : w.upload.session.tasks = [])
    (hidle : w.upload.awaiting = none) (hunaborted : abortsMade trace = [])
    (hmoved : Moved w o w') : Stage size w' (trace ++ [o]) := by
  obtain ⟨c, u, effects, rfl, rfl, begun⟩ := hmoved.told_of_idle hquiet hidle
  rw [Upload.begin_of_completed hphase hhealthy] at begun
  obtain ⟨rfl, rfl⟩ := Prod.mk.inj begun
  refine .completed hphase hhealthy hquiet rfl ?_
  rw [abortsMade_snoc_of_none rfl, hunaborted]

theorem Stage.step_fresh (unopened : Unopened size w.upload.session trace)
    (hidle : w.upload.awaiting = none) (hmoved : Moved w o w') : Stage size w' (trace ++ [o]) := by
  obtain ⟨c, u, effects, rfl, rfl, begun⟩ := hmoved.told_of_idle unopened.untouched.tasks hidle
  exact unopened.told begun

/-- Whatever happens leads from one stage to another. -/
theorem Stage.step (h : Stage size w trace) (hsize : 0 < size) (hstep : Step w o w') :
    Stage size w' (trace ++ [o]) := by
  have hmoved := hstep.moved
  cases h with
  | fresh unopened awaiting => exact step_fresh unopened awaiting hmoved
  | creating unopened told awaiting flying =>
      exact step_creating unopened told awaiting flying hmoved
  | live opened busy => exact opened.step busy hsize hmoved
  | dropping drops quiet awaiting flying aborted =>
      exact step_dropping drops quiet awaiting flying aborted hmoved
  | failed phase quiet awaiting aborted => exact step_failed phase quiet awaiting aborted hmoved
  | completed phase healthy quiet awaiting unaborted =>
      exact step_completed phase healthy quiet awaiting unaborted hmoved

/-- Only an open upload has parts on their way. -/
theorem Stage.opened_of_onWay (h : Stage size w trace) {task : PartTask}
    (htask : task ∈ w.upload.session.tasks) : ∃ id, Opened size id w trace := by
  cases h with
  | fresh unopened idle => exact absurd htask (not_onWay_of_quiet unopened.untouched.tasks)
  | creating unopened told asked created =>
      exact absurd htask (not_onWay_of_quiet unopened.untouched.tasks)
  | live opened busy => exact ⟨_, opened⟩
  | dropping drops quiet asked sent aborted => exact absurd htask (not_onWay_of_quiet quiet)
  | failed phase quiet idle aborted => exact absurd htask (not_onWay_of_quiet quiet)
  | completed phase healthy quiet idle unaborted => exact absurd htask (not_onWay_of_quiet quiet)

theorem stage_start (config : UploadConfig) (name : String) :
    Stage (max config.partSizeBytes 1) (start config name) [] :=
  .fresh ⟨rfl, ⟨rfl, rfl, rfl, rfl, rfl, rfl⟩, rfl, by simp [Acknowledged], rfl⟩ rfl

theorem stage_of_run {config : UploadConfig} {name : String}
    (hrun : Run (start config name) trace w) : Stage (max config.partSizeBytes 1) w trace := by
  have hsize : 0 < max config.partSizeBytes 1 := by omega
  induction hrun with
  | start => exact stage_start config name
  | step sofar step ih => exact ih.step hsize step

end Traffic

end StudySession

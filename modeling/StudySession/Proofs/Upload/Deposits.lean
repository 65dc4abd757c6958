import StudySession.Proofs.Upload.Buffering
import StudySession.Proofs.Upload.Exchanges
import StudySession.Proofs.Upload.Integrity
import StudySession.Proofs.Upload.Losses

/-!
# What the store was sent

The in-memory store holds, under each number of an upload, a body it was sent under that number
(`Transfer.Deposits`). A body is sent by the part that was flushed under the number, or by the owner
itself, so the object of a completed upload consists of such bodies, one for each part that is
listed. Every acknowledged part that was flushed is listed. A part that the owner sends itself is
kept by the store but never listed: it comes into the object only in place of a flushed part of the
same number and tag.
-/

namespace StudySession

/-! ## The store -/

namespace MemoryStore

variable {s s' : MemoryStore} {key id answer : String} {parts : List CompletedPart}

/-- A completion that succeeds makes an object of bodies that are there. -/
theorem exists_bodies_of_complete (h : s.complete key id parts = (.ok (), s')) :
    ∃ upload bodies, s.pending.get? id = some upload ∧
      List.Forall₂ (fun part body =>
        upload.parts.lookup part.number = some body ∧ Tag.ofBody body = part.eTag) parts bodies ∧
      (s'.objects.get? key).map (·.body) = some (joinBytes bodies) := by
  rcases complete_cases s key id parts with
    ⟨upload, body, hfound, -, -, hbody, hdone⟩ | ⟨e, hrefused⟩
  · obtain ⟨bodies, hbodies, rfl⟩ := exists_bodies_of_assemble hbody
    rw [hdone] at h
    obtain rfl := (Prod.mk.inj h).2
    exact ⟨upload, bodies, hfound, hbodies, by simp⟩
  · rw [hrefused] at h
    cases h

/-- Where an upload that is pending after a call comes from. -/
inductive Held (s : MemoryStore) (call : StoreCall) (answer : Except StoreError String) (id : String)
    (upload : PendingUpload) : Prop where
  | before (found : s.pending.get? id = some upload)
  | created {key contentType : String} (call_eq : call = .create key contentType)
      (empty : upload.parts = [])
  | put {key tag : String} {number : Nat} {body : ByteArray} {held : PendingUpload}
      (call_eq : call = .part key id number body) (answer_eq : answer = .ok tag)
      (found : s.pending.get? id = some held) (parts : upload.parts = putPart number body held.parts)

theorem held_of_perform {call : StoreCall} {answer : Except StoreError String}
    {upload : PendingUpload} (hperform : s.perform call = (answer, s'))
    (hfound : s'.pending.get? id = some upload) : Held s call answer id upload := by
  have heq := get?_pending_perform_eq s call id
  rw [hperform, hfound] at heq
  dsimp only at heq
  cases htouch : (Exchange.mk call answer).touch id with
  | created key contentType =>
      rw [htouch] at heq
      obtain rfl := Option.some.inj heq
      exact .created (Exchange.mk.inj (Exchange.eq_of_touch_created htouch)).1 rfl
  | put number body =>
      rw [htouch] at heq
      obtain ⟨held, hheld, rfl⟩ := Option.map_eq_some_iff.1 heq.symm
      obtain ⟨key, tag, hmk⟩ := Exchange.eq_of_touch_put htouch
      obtain ⟨hcall, hanswer⟩ := Exchange.mk.inj hmk
      exact .put hcall hanswer hheld rfl
  | ended => rw [htouch] at heq; cases heq
  | untouched => rw [htouch] at heq; exact .before heq.symm

end MemoryStore

/-! ## What is read from a run -/

/-- The store took in a body of an upload under a number. -/
def Sent (trace : List Happening) (id : String) (number : Nat) (body : ByteArray) : Prop :=
  ∃ who key tag, Happening.reached who (.part key id number body) (.ok tag) ∈ trace

/-- A body was flushed as the part of a number, or sent under it by the owner itself. -/
def Delivered (trace : List Happening) (number : Nat) (body : ByteArray) : Prop :=
  (∃ i, number = i + 1 ∧ (bodiesFlushed trace)[i]? = some body) ∨
    ∃ key id tag, Happening.reached .owner (.part key id number body) (.ok tag) ∈ trace

section Histories

variable {trace : List Happening} {o : Happening} {id : String} {number : Nat} {body : ByteArray}

theorem Sent.snoc (h : Sent trace id number body) : Sent (trace ++ [o]) id number body := by
  obtain ⟨who, key, tag, hmem⟩ := h
  exact ⟨who, key, tag, List.mem_append_left _ hmem⟩

theorem Delivered.snoc (h : Delivered trace number body) : Delivered (trace ++ [o]) number body := by
  rcases h with ⟨i, hnumber, hbody⟩ | ⟨key, id, tag, hmem⟩
  · refine .inl ⟨i, hnumber, ?_⟩
    rw [bodiesFlushed_snoc]
    exact getElem?_append_of_eq_some hbody
  · exact .inr ⟨key, id, tag, List.mem_append_left _ hmem⟩

/-- A failed call is a refused one to the upload, and flushes as little. -/
@[simp] theorem bodiesFlushed_map_seen (trace : List Happening) :
    bodiesFlushed (trace.map Happening.seen) = bodiesFlushed trace := by
  induction trace with
  | nil => rfl
  | cons o trace ih =>
      have hsame : o.seen.flushed = o.flushed := by cases o <;> rfl
      simp only [bodiesFlushed] at ih
      simp [bodiesFlushed, hsame, ih]

@[simp] theorem acknowledged_map_seen (trace : List Happening) (number : Nat) (tag : String) :
    Acknowledged (trace.map Happening.seen) number tag ↔ Acknowledged trace number tag := by
  constructor
  · rintro ⟨call, effects, hmem⟩
    obtain ⟨o, ho, hseen⟩ := List.mem_map.1 hmem
    cases o with
    | answered who call answer effects =>
        cases hseen
        exact ⟨_, _, ho⟩
    | _ => cases hseen
  · rintro ⟨call, effects, hmem⟩
    exact ⟨call, effects, List.mem_map.2 ⟨_, hmem, rfl⟩⟩

end Histories

namespace Transfer

open Traffic (Stage Opened)

variable {w w' : Transfer} {trace : List Happening} {o : Happening} {store store' : MemoryStore}
  {id key : String} {size : Nat} {listed : List CompletedPart}

/-! ## Deposits -/

/-- Each body that the store holds of an upload was sent under its number. -/
def Deposits (id : String) (store : MemoryStore) (trace : List Happening) : Prop :=
  ∀ upload number body, store.pending.get? id = some upload →
    upload.parts.lookup number = some body → Sent trace id number body

/-- An object consists of bodies that were sent, one for each part listed. -/
def Assembled (key id : String) (listed : List CompletedPart) (store : MemoryStore)
    (trace : List Happening) : Prop :=
  ∃ bodies, List.Forall₂ (fun part body =>
      Sent trace id part.number body ∧ Tag.ofBody body = part.eTag) listed bodies ∧
    (store.objects.get? key).map (·.body) = some (joinBytes bodies)

theorem Deposits.snoc (h : Deposits id store trace) : Deposits id store (trace ++ [o]) :=
  fun upload number body hfound hbody => (h upload number body hfound hbody).snoc

theorem Assembled.snoc (h : Assembled key id listed store trace) :
    Assembled key id listed store (trace ++ [o]) := by
  obtain ⟨bodies, hbodies, hobject⟩ := h
  exact ⟨bodies, hbodies.imp fun _ _ hpart => ⟨hpart.1.snoc, hpart.2⟩, hobject⟩

/-- An upload that was just created holds nothing. -/
theorem deposits_create (store : MemoryStore) (key contentType : String)
    (trace : List Happening) :
    Deposits (store.create key contentType).1 (store.create key contentType).2 trace := by
  intro upload number body hfound hbody
  rw [MemoryStore.get?_create] at hfound
  obtain rfl := Option.some.inj hfound
  cases hbody

/-- A call that reaches the store leaves there what was sent, and what it brings. -/
theorem Deposits.perform (h : Deposits id store trace) {who : Caller} {call : StoreCall}
    {answer : Except StoreError String} (hperform : store.perform call = (answer, store')) :
    Deposits id store' (trace ++ [.reached who call answer]) := by
  intro upload number body hfound hbody
  cases MemoryStore.held_of_perform hperform hfound with
  | before found => exact (h upload number body found hbody).snoc
  | created call_eq empty =>
      rw [empty] at hbody
      cases hbody
  | @put key tag n b held call_eq answer_eq found parts =>
      rw [parts, MemoryStore.lookup_putPart] at hbody
      split at hbody
      · next hn =>
          obtain rfl := Option.some.inj hbody
          rw [call_eq, answer_eq, hn]
          exact ⟨who, key, tag, List.mem_append_right _ (List.mem_singleton_self _)⟩
      · exact (h held number body found hbody).snoc

/-- A completion that succeeds makes an object of what was sent. -/
theorem Deposits.assembled (h : Deposits id store trace) {tag : String}
    (hperform : store.perform (.complete key id listed) = (.ok tag, store')) :
    Assembled key id listed store' trace := by
  have hdone : store.complete key id listed = (.ok (), store') := by
    rw [MemoryStore.perform] at hperform
    generalize store.complete key id listed = result at hperform
    obtain ⟨answer, s⟩ := result
    obtain ⟨hanswer, rfl⟩ := Prod.mk.inj hperform
    cases answer with
    | error e => cases hanswer
    | ok done => rfl
  obtain ⟨upload, bodies, hfound, hbodies, hobject⟩ := MemoryStore.exists_bodies_of_complete hdone
  exact ⟨bodies, hbodies.imp fun part body hpart => ⟨h upload _ _ hfound hpart.1, hpart.2⟩, hobject⟩

/-- A part that is sent leaves the objects. -/
theorem Assembled.part (h : Assembled key id listed store trace) {key' id' : String} {number : Nat}
    {body : ByteArray} {answer : Except StoreError String}
    (hperform : store.perform (.part key' id' number body) = (answer, store')) :
    Assembled key id listed store' trace := by
  have hobjects : store'.objects = store.objects := by
    rw [MemoryStore.perform, MemoryStore.uploadPart] at hperform
    split at hperform
    · obtain ⟨-, rfl⟩ := Prod.mk.inj hperform
      rfl
    · split at hperform
      · obtain ⟨-, rfl⟩ := Prod.mk.inj hperform
        rfl
      · obtain ⟨-, rfl⟩ := Prod.mk.inj hperform
        rfl
  rwa [Assembled, hobjects]

end Transfer

/-! ## The store of a run -/

namespace Traffic

variable {size : Nat} {id : String} {w w' : Traffic} {trace : List Happening} {o : Happening}

/-- An upload is opened by the answer to its creation, and by nothing else. -/
theorem Stage.opened_of_step (h : Stage size w trace) (hstep : Step w o w')
    (hopened : w'.upload.session.phase = .opened id) : w.upload.session.phase = .opened id ∨
      ∃ key contentType, w.flying .owner = some ⟨.create key contentType, some (.ok id)⟩ := by
  have hkept : (w'.upload.session.phase = w.upload.session.phase ∨
      ∃ error, w'.upload.session.phase = .failed error) → w.upload.session.phase = .opened id := by
    rintro (hsame | ⟨error, hfailed⟩)
    · rw [← hsame, hopened]
    · rw [hfailed] at hopened
      cases hopened
  cases hstep.moved with
  | @told c u effects idle begun =>
      have hfollows := Upload.follows_begin w.upload.session c
      rw [begun] at hfollows
      exact .inl (hkept hfollows.phase)
  | ownerReached awaiting flying => exact .inl hopened
  | @ownerAnswered purpose asked call attempt answer result awaiting flying told =>
      cases told with
      | again retried pause => exact .inl hopened
      | concluded last =>
          cases purpose with
          | creating =>
              cases answer with
              | error e => exact .inl hopened
              | ok created =>
                  obtain rfl := Phase.opened.inj hopened
                  -- the owner's answered call is the creation
                  obtain ⟨hasks, landed, hsent⟩ := h.asks awaiting
                  rw [flying] at hsent
                  obtain ⟨rfl, -⟩ := Flight.mk.inj (Option.some.inj hsent)
                  cases hasks with
                  | creating => exact .inr ⟨_, _, flying⟩
                  | dropping drops quiet => cases drops
          | sending number bytes => cases answer <;> exact .inl hopened
          | completing created listed total =>
              cases answer with
              | ok tag => cases hopened
              | error e => exact .inl (hkept (Upload.follows_fail _ _).phase)
          | failing error => cases hopened
          | aborting => cases answer <;> exact .inl hopened
  | partReached onWay flying => exact .inl hopened
  | partAnswered onWay told => exact .inl (hkept told.phase)
  | partDied onWay dropped =>
      have hafter := Upload.follows_partDied w.upload onWay
      rw [dropped] at hafter
      exact .inl (hkept hafter.phase)

/-- The call of a part on its way brings the body that was flushed under its number. -/
theorem Stage.flushed_of_onWay (h : Stage size w trace) {task : PartTask}
    (htask : task ∈ w.upload.session.tasks) {call : StoreCall}
    {answer : Option (Except StoreError String)}
    (hflying : w.flying (.part task.number) = some ⟨call, answer⟩) :
    ∃ key id i body, call = .part key id (i + 1) body ∧ (bodiesFlushed trace)[i]? = some body := by
  obtain ⟨id, hopened⟩ := h.opened_of_onWay htask
  obtain ⟨hcall, i, hnumber, hbody⟩ := hopened.books.task task htask
  have hsame : call = task.call := hopened.carried task htask _ hflying
  exact ⟨_, _, i, task.body, by rw [hsame, hcall, hnumber], hbody⟩

end Traffic

namespace Transfer

open Traffic (Stage)

variable {w w' : Transfer} {trace : List Happening} {o : Happening} {size : Nat}

/-- The store of a run and its history agree. -/
structure Vault (w : Transfer) (trace : List Happening) : Prop where
  created : ∀ key contentType id,
    w.flying .owner = some ⟨.create key contentType, some (.ok id)⟩ → Deposits id w.store trace
  opened : ∀ id, w.upload.session.phase = .opened id → Deposits id w.store trace
  completed : ∀ key id listed tag,
    w.flying .owner = some ⟨.complete key id listed, some (.ok tag)⟩ →
    Assembled key id listed w.store trace
  sent : ∀ id number body, Sent trace id number body → Delivered trace number body

/-- What leaves the store alone leaves its agreement with the history. -/
theorem Vault.snoc (h : Vault w trace) (hstage : Stage size w.traffic (trace.map Happening.seen))
    (hstep : Traffic.Step w.traffic o.seen w'.traffic) (hstore : w'.store = w.store)
    (hflying : ∀ call tag, w'.flying .owner = some ⟨call, some (.ok tag)⟩ →
      w.flying .owner = some ⟨call, some (.ok tag)⟩)
    (hsilent : ∀ who call answer, o ≠ .reached who call answer) : Vault w' (trace ++ [o]) := by
  refine ⟨fun key contentType id hcreated => ?_, fun id hopened => ?_,
    fun key id listed tag hcompleted => ?_, fun id number body hsent => ?_⟩
  · rw [hstore]
    exact (h.created _ _ _ (hflying _ _ hcreated)).snoc
  · rw [hstore]
    rcases hstage.opened_of_step hstep hopened with hopened | ⟨key, contentType, hcreated⟩
    · exact (h.opened _ hopened).snoc
    · exact (h.created _ _ _ hcreated).snoc
  · rw [hstore]
    exact (h.completed _ _ _ _ (hflying _ _ hcompleted)).snoc
  · obtain ⟨who, key, tag, hmem⟩ := hsent
    rcases List.mem_append.1 hmem with hmem | hmem
    · exact (h.sent _ _ _ ⟨who, key, tag, hmem⟩).snoc
    · exact absurd (List.mem_singleton.1 hmem).symm (hsilent _ _ _)

/-- The owner's call reaches the store. -/
theorem Vault.ownerReached (h : Vault w trace)
    (hstage : Stage size w.traffic (trace.map Happening.seen)) {call : StoreCall}
    {answer : Except StoreError String} {store : MemoryStore}
    (hstep : Traffic.Step w.traffic (.reached .owner call answer)
      ⟨w.upload, Function.update w.flying .owner (some ⟨call, some answer⟩)⟩)
    (hperform : w.store.perform call = (answer, store))
    (hopened : ∀ id, w.upload.session.phase = .opened id →
      Deposits id store (trace ++ [.reached .owner call answer])) :
    Vault ⟨w.upload, store, Function.update w.flying .owner (some ⟨call, some answer⟩)⟩
      (trace ++ [.reached .owner call answer]) := by
  refine ⟨fun key contentType id hcreated => ?_, hopened, fun key id listed tag hcompleted => ?_,
    fun id number body hsent => ?_⟩
  · dsimp only at hcreated ⊢
    rw [Function.update_self] at hcreated
    obtain ⟨rfl, hanswer⟩ := Flight.mk.inj (Option.some.inj hcreated)
    obtain rfl := Option.some.inj hanswer
    obtain ⟨hid, rfl⟩ := Prod.mk.inj hperform
    rw [← Except.ok.inj hid]
    exact deposits_create w.store key contentType _
  · dsimp only at hcompleted ⊢
    rw [Function.update_self] at hcompleted
    obtain ⟨rfl, hanswer⟩ := Flight.mk.inj (Option.some.inj hcompleted)
    obtain rfl := Option.some.inj hanswer
    -- an upload is completed while it is open
    generalize hcall : StoreCall.complete key id listed = call at hstep
    cases hstage.makes hstep rfl with
    | completing completes =>
        obtain ⟨-, rfl, -⟩ := StoreCall.complete.inj hcall
        exact ((h.opened _ completes.phase).assembled hperform).snoc
    | creating => cases hcall
    | sending => cases hcall
    | dropping drops awaiting => cases hcall
  · obtain ⟨who, key, tag, hmem⟩ := hsent
    rcases List.mem_append.1 hmem with hmem | hmem
    · exact (h.sent _ _ _ ⟨who, key, tag, hmem⟩).snoc
    · obtain ⟨rfl, rfl, rfl⟩ := Happening.reached.inj (List.mem_singleton.1 hmem)
      exact .inr ⟨key, id, tag, List.mem_append_right _ (List.mem_singleton_self _)⟩

/-- A part's call reaches the store. -/
theorem Vault.partReached (h : Vault w trace)
    (hstage : Stage size w.traffic (trace.map Happening.seen)) {number : Nat} {call : StoreCall}
    {answer : Except StoreError String} {store : MemoryStore}
    (hexpected : w.upload.expects (.part number) = true)
    (hflying : w.flying (.part number) = some ⟨call, none⟩)
    (hperform : w.store.perform call = (answer, store))
    (hopened : ∀ id, w.upload.session.phase = .opened id →
      Deposits id store (trace ++ [.reached (.part number) call answer])) :
    Vault ⟨w.upload, store, Function.update w.flying (.part number) (some ⟨call, some answer⟩)⟩
      (trace ++ [.reached (.part number) call answer]) := by
  obtain ⟨task, htask, rfl⟩ := Traffic.exists_task_of_expects hexpected
  obtain ⟨key', id', i, flushed, rfl, hflushed⟩ := hstage.flushed_of_onWay htask hflying
  rw [bodiesFlushed_map_seen] at hflushed
  have howner : ∀ f, Function.update w.flying (.part task.number) f .owner = w.flying .owner :=
    fun f => Function.update_of_ne (by simp) _ _
  refine ⟨fun key contentType id hcreated => ?_, hopened, fun key id listed tag hcompleted => ?_,
    fun id number body hsent => ?_⟩
  · dsimp only at hcreated ⊢
    rw [howner] at hcreated
    exact (h.created _ _ _ hcreated).perform hperform
  · dsimp only at hcompleted ⊢
    rw [howner] at hcompleted
    exact ((h.completed _ _ _ _ hcompleted).part hperform).snoc
  · obtain ⟨who, key, tag, hmem⟩ := hsent
    rcases List.mem_append.1 hmem with hmem | hmem
    · exact (h.sent _ _ _ ⟨who, key, tag, hmem⟩).snoc
    · obtain ⟨rfl, hcall, rfl⟩ := Happening.reached.inj (List.mem_singleton.1 hmem)
      obtain ⟨rfl, rfl, rfl, rfl⟩ := StoreCall.part.inj hcall
      exact Delivered.snoc (.inl ⟨i, rfl, hflushed⟩)

theorem Vault.step (h : Vault w trace) (hstage : Stage size w.traffic (trace.map Happening.seen))
    (hstep : Step w o w') : Vault w' (trace ++ [o]) := by
  have hseen := hstep.traffic
  cases hstep with
  | tell idle react =>
      exact h.snoc hstage hseen rfl (fun call tag hlaunched => launch_answered hlaunched) (by simp)
  | @fail who call error expected flying =>
      refine h.snoc hstage hseen rfl (fun other tag hanswered => ?_) (by simp)
      dsimp only at hanswered
      by_cases hwho : who = .owner
      · rw [hwho, Function.update_self] at hanswered
        cases hanswered
      · rwa [Function.update_of_ne (Ne.symm hwho)] at hanswered
  | answer expected flying react =>
      exact h.snoc hstage hseen rfl
        (fun call tag hlaunched => answered_of_update (launch_answered hlaunched)) (by simp)
  | die expected react =>
      exact h.snoc hstage hseen rfl
        (fun call tag hlaunched => answered_of_update (launch_answered hlaunched)) (by simp)
  | @reach who call answer store expected flying perform =>
      have hopened : ∀ id, w.upload.session.phase = .opened id →
          Deposits id store (trace ++ [.reached who call answer]) :=
        fun id hphase => (h.opened id hphase).perform perform
      cases who with
      | owner => exact h.ownerReached hstage hseen perform hopened
      | part number => exact h.partReached hstage expected flying perform hopened

theorem vault_of_run {config : UploadConfig} {name : String} {first : MemoryStore}
    (hrun : Run (start config name first) trace w) : Vault w trace := by
  induction hrun with
  | start =>
      refine ⟨fun key contentType id hcreated => ?_, fun id hopened => ?_,
        fun key id listed tag hcompleted => ?_, fun id number body hsent => ?_⟩
      · cases hcreated
      · cases hopened
      · cases hcompleted
      · obtain ⟨who, key, tag, hmem⟩ := hsent
        cases hmem
  | step sofar step ih =>
      have htraffic : Traffic.Run (Traffic.start config name) _ _ := sofar.traffic
      have hstage := Traffic.stage_of_run htraffic
      exact ih.step hstage step

/-! ## What is listed -/

/-- Which of the acknowledged parts an upload lists. -/
structure ListsFlushed (w : Transfer) (trace : List Happening) : Prop where
  /-- An open upload lists the parts that were flushed, with the tag of each that was acknowledged. -/
  opened : ∀ id, Traffic.IsOpen id w.upload →
    w.upload.session.snapshot = .ok ⟨w.upload.session.key, id, w.upload.session.parts,
      w.upload.session.pending.size⟩ ∧
    w.upload.session.parts.map (·.number) = List.range' 1 (bodiesFlushed trace).length ∧
    ∀ i tag, w.upload.session.parts[i]?.bind (·.eTag?) = some tag ↔ Acknowledged trace (i + 1) tag
  /-- The answer to a part that the owner sent itself changes nothing. -/
  unlisted : ∀ number bytes call attempt answer,
    w.upload.awaiting = some (.store (.sending number bytes) call attempt) →
    (w.upload.react (.answered .owner answer)).1.session = w.upload.session
  /-- A completed upload lists each flushed part with the tag that was acknowledged for it, and its
  object consists of bodies with these tags, each flushed or sent by the owner itself. -/
  completed : ∀ o w' c, Step w o w' → .finished (.ok (.completed c)) ∈ o.effects →
    c.parts.length = (bodiesFlushed trace).length ∧
    (∀ i tag, c.parts[i]? = some ⟨i + 1, tag⟩ ↔ Acknowledged trace (i + 1) tag) ∧
    ∃ bodies, List.Forall₂ (fun part body =>
        Delivered trace part.number body ∧ Tag.ofBody body = part.eTag) c.parts bodies ∧
      (w'.store.objects.get? c.key).map (·.body) = some (joinBytes bodies)

end Transfer

namespace Traffic

variable {size total attempt : Nat} {id : String} {w : Traffic} {trace : List Happening}
  {listed : List CompletedPart}

/-- The parts that an upload is completed from are those that were acknowledged. -/
theorem Completes.getElem?_listed_iff (h : Completes w trace id listed)
    (opened : Opened size id w trace) (i : Nat) (tag : String) :
    listed[i]? = some ⟨i + 1, tag⟩ ↔ Acknowledged trace (i + 1) tag := by
  constructor
  · intro hlisted
    have hi : i < (bodiesFlushed trace).length := by
      rw [← h.listed_length]
      exact (List.getElem?_eq_some_iff.1 hlisted).1
    obtain ⟨other, -, hother, hacked⟩ := h.acknowledged i hi
    rw [hother] at hlisted
    cases hlisted
    exact hacked
  · intro hacked
    obtain ⟨p, hp, hstate⟩ := opened.entries.acknowledged i tag hacked
    have hi : i < (bodiesFlushed trace).length := by
      rw [← h.count]
      exact (List.getElem?_eq_some_iff.1 hp).1
    obtain ⟨other, ⟨bytes, hpart⟩, hother, -⟩ := h.acknowledged i hi
    rw [hp] at hpart
    obtain rfl := Option.some.inj hpart
    cases hstate
    exact hother

theorem Stage.completes_of_awaiting (h : Stage size w trace) {asked : StoreCall}
    (hawaiting : w.upload.awaiting = some (.store (.completing id listed total) asked attempt)) :
    Opened size id w trace ∧ Completes w trace id listed ∧
      ∃ answer, w.flying .owner = some ⟨.complete w.upload.session.key id listed, answer⟩ := by
  obtain ⟨hasks, hflying⟩ := h.asks hawaiting
  cases hasks with
  | completing opened completes => exact ⟨opened, completes, hflying⟩
  | dropping drops quiet => cases drops

end Traffic

namespace Transfer

variable {w : Transfer} {trace : List Happening}

/-- Each flushed part that was acknowledged is listed, and makes up the object on completion. A part
that the owner sends itself is not listed. -/
theorem lists_flushed_of_run (config : UploadConfig) (name : String) (first : MemoryStore)
    (hrun : Run (start config name first) trace w) : ListsFlushed w trace := by
  have htraffic : Traffic.Run (Traffic.start config name) _ _ := hrun.traffic
  have hstage := Traffic.stage_of_run htraffic
  have hvault := vault_of_run hrun
  refine ⟨fun id hopen => ?_, fun number bytes call attempt answer hawaiting =>
    Upload.session_of_sending hawaiting answer, fun o w' c hstep hdone => ?_⟩
  · obtain ⟨hopened, hbusy⟩ := hstage.opened_of_isOpen hopen
    obtain ⟨hphase, -⟩ := hopen
    refine ⟨?_, ?_, fun i tag => ?_⟩
    · rw [Session.snapshot, Session.openId, hphase]
      rfl
    · have hnumbers := hopened.books.numbers
      rwa [bodiesFlushed_map_seen] at hnumbers
    · rw [← acknowledged_map_seen]
      exact hopened.tags i tag
  · obtain ⟨id, listed, total, asked, attempt, call, tag, hawaiting, hflying, rfl, -, hstore⟩ :=
      hstep.completed hdone
    obtain ⟨hopened, hcompletes, answer, hsent⟩ := hstage.completes_of_awaiting hawaiting
    obtain ⟨rfl, -⟩ := Flight.mk.inj (Option.some.inj (hflying.symm.trans hsent))
    obtain ⟨bodies, hbodies, hobject⟩ := hvault.completed _ _ _ _ hflying
    refine ⟨?_, fun i tag => ?_, bodies, hbodies.imp fun part body hpart => ?_, ?_⟩
    · simpa using hcompletes.listed_length
    · rw [← acknowledged_map_seen]
      exact hcompletes.getElem?_listed_iff hopened i tag
    · exact ⟨hvault.sent _ _ _ hpart.1, hpart.2⟩
    · rw [hstore]
      exact hobject

/-- A part is flushed, and the owner sends two itself, the first under the number of the one that
was flushed and with the same bytes. -/
def mixed : List Move :=
  [.tell .create, .reach .owner, .answer .owner, .tell (.accept ⟨#[1]⟩), .reach (.part 1),
    .answer (.part 1), .tell (.sendPart 1 ⟨#[1]⟩), .reach .owner, .answer .owner,
    .tell (.sendPart 7 ⟨#[9]⟩), .reach .owner, .answer .owner, .tell .complete, .reach .owner]

theorem lists_flushed_of_run_mixed :
    ∃ trace w w',
      (start { partSizeBytes := 1 } "v" .empty).play mixed = some (trace, w) ∧
      ListsFlushed w trace ∧
      (∃ o, Step w o w' ∧ o.effects = [.finished (.ok (.completed ⟨"v.webm", "memory-upload-1",
        [⟨1, Tag.ofBody ⟨#[1]⟩⟩], 1⟩))]) ∧
      (w'.store.objects.get? "v.webm").map (·.body) = some ⟨#[1]⟩ := by
  obtain ⟨⟨trace, w⟩, hplay⟩ : ∃ r,
      (start { partSizeBytes := 1 } "v" .empty).play mixed = some r :=
    Option.isSome_iff_exists.1 rfl
  have hlast : ((start { partSizeBytes := 1 } "v" .empty).play mixed).bind (fun r =>
      (r.2.move? (.answer .owner)).map fun s =>
        (s.1.effects, (s.2.store.objects.get? "v.webm").map (·.body))) =
      some ([.finished (.ok (.completed ⟨"v.webm", "memory-upload-1",
        [⟨1, Tag.ofBody ⟨#[1]⟩⟩], 1⟩))], some ⟨#[1]⟩) := rfl
  rw [hplay] at hlast
  obtain ⟨⟨o, w'⟩, hmove, hread⟩ := Option.map_eq_some_iff.1 hlast
  obtain ⟨heffects, hobject⟩ := Prod.mk.inj hread
  exact ⟨trace, w, w', hplay,
    lists_flushed_of_run { partSizeBytes := 1 } "v" .empty (run_iff_exists_play.2 ⟨_, hplay⟩),
    ⟨o, step_iff_exists_move.2 ⟨_, hmove⟩, heffects⟩, hobject⟩

/-- The owner sends the only part itself, and completes the upload. -/
def sentAlone : List Move :=
  [.tell .create, .reach .owner, .answer .owner, .tell (.sendPart 1 ⟨#[1]⟩), .reach .owner,
    .answer .owner, .tell .complete, .reach .owner, .answer .owner]

/-- A part that is acknowledged to the owner itself is not listed, and the upload fails as one of
which no data was recorded. -/
theorem sent_part_is_dropped :
    ∃ trace w, Run (start {} "v" .empty) trace w ∧
      results trace =
        [.ok (.opened ⟨"v.webm", "memory-upload-1", [], 0⟩),
          .ok (.sent 1 1 (Tag.ofBody ⟨#[1]⟩)), .error (.completionRejected .noData)] ∧
      w.upload.session.parts = [] ∧ w.store.objects = [] := by
  obtain ⟨⟨trace, w⟩, hplay⟩ : ∃ r, (start {} "v" .empty).play sentAlone = some r :=
    Option.isSome_iff_exists.1 rfl
  have hread : ((start {} "v" .empty).play sentAlone).map (fun r =>
      (results r.1, r.2.upload.session.parts, r.2.store.objects.length)) =
      some ([.ok (.opened ⟨"v.webm", "memory-upload-1", [], 0⟩),
        .ok (.sent 1 1 (Tag.ofBody ⟨#[1]⟩)), .error (.completionRejected .noData)], [], 0) := rfl
  rw [hplay] at hread
  obtain ⟨hresults, hparts, hobjects⟩ : _ ∧ _ ∧ _ := by
    simpa only [Option.map_some, Option.some.injEq, Prod.mk.injEq] using hread
  exact ⟨trace, w, run_iff_exists_play.2 ⟨_, hplay⟩, hresults, hparts,
    List.length_eq_zero_iff.1 hobjects⟩

end Transfer

end StudySession

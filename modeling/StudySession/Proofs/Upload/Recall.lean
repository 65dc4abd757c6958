import StudySession.Proofs.Upload.Exchanges

/-!
# What the in-memory store remembers

What a store answers and holds is told from the log of all that was said with it, whatever the
order of the calls and however many uploads and keys there are (`MemoryStore.Recalls`). An upload is
under way from its creation until a completion or an abort names it; a part of it is the latest body
that was accepted under the number; an object is what the latest successful completion for its key
assembled from the parts that it listed. None of this mentions the store.
-/

namespace StudySession

/-! ## Reading a log -/

/-- An upload was created and has not been ended; `since` is what was said after its creation. -/
structure Underway (log : List Exchange) (key id contentType : String) (since : List Exchange) :
    Prop where
  created : ∃ before e, log = before ++ e :: since ∧ e.touch id = .created key contentType
  unended : ∀ e ∈ since, e.touch id ≠ .ended

/-- The body that an exchange put for a part of an upload. -/
def Exchange.body? (id : String) (number : Nat) (e : Exchange) : Option ByteArray :=
  match e.touch id with
  | .put n body => if n = number then some body else none
  | _ => none

/-- The body that was put last for a part of an upload. -/
def latestBody (since : List Exchange) (id : String) (number : Nat) : Option ByteArray :=
  since.reverse.findSome? (Exchange.body? id number)

/-- What listed parts of an upload come to: it is under way under the key, the numbers increase
strictly, and each part was uploaded, the latest body having the tag that is listed. The object
consists of these bodies and has the content type of the upload's creation. -/
def Assembles (log : List Exchange) (key id : String) (parts : List CompletedPart)
    (object : StoredObject) : Prop :=
  ∃ since bodies, Underway log key id object.contentType since ∧
    parts.Pairwise (fun a b => a.number < b.number) ∧
    List.Forall₂ (fun part body =>
      latestBody since id part.number = some body ∧ Tag.ofBody body = part.eTag) parts bodies ∧
    object.body = joinBytes bodies

/-- What the latest completion that succeeded for a key had assembled. -/
def LatestObject (log : List Exchange) (key : String) (object : StoredObject) : Prop :=
  ∃ before id parts later, log = before ++ ⟨.complete key id parts, .ok ""⟩ :: later ∧
    (∀ e ∈ later, ∀ id parts, e ≠ ⟨.complete key id parts, .ok ""⟩) ∧
    Assembles before key id parts object

/-- An upload was created, and a completion or an abort named it after that. -/
def Over (log : List Exchange) (id : String) : Prop :=
  ∃ before e since, log = before ++ e :: since ∧ e.given? = some id ∧
    ∃ later ∈ since, later.touch id = .ended

/-- A store answers the next call, and holds, what the log of all that was said tells. -/
structure MemoryStore.Recalls (log : List Exchange) (s : MemoryStore) : Prop where
  pending : ∀ key id contentType,
    (∃ upload, s.pending.get? id = some upload ∧ upload.key = key ∧
      upload.contentType = contentType) ↔ ∃ since, Underway log key id contentType since
  accepts : ∀ key id number body tag, (s.uploadPart key id number body).1 = .ok tag ↔
    tag = Tag.ofBody body ∧ ∃ contentType since, Underway log key id contentType since
  completes : ∀ key id parts, (s.complete key id parts).1 = .ok () ↔
    ∃ object, Assembles log key id parts object
  makes : ∀ key id parts object, Assembles log key id parts object →
    (s.complete key id parts).2.objects.get? key = some object
  holds : ∀ key object, s.objects.get? key = some object ↔ LatestObject log key object
  distinct : (idsGiven log).Nodup
  refuses : ∀ id, Over log id → ∀ key,
    (∀ number body, (s.uploadPart key id number body).1 = .error (noSuchUpload id)) ∧
      ∀ parts, (s.complete key id parts).1 = .error (noSuchUpload id)

/-! ## One exchange more -/

variable {log since : List Exchange} {e : Exchange} {key id contentType : String} {number : Nat}
  {parts : List CompletedPart} {object : StoredObject}

/-- A list with one more item is split at this item or before it. -/
theorem snoc_eq_split_iff {α : Type} {xs before after : List α} {last x : α} :
    xs ++ [last] = before ++ x :: after ↔
      xs = before ∧ last = x ∧ after = [] ∨
        ∃ earlier, after = earlier ++ [last] ∧ xs = before ++ x :: earlier := by
  constructor
  · intro h
    rcases List.eq_nil_or_concat after with rfl | ⟨earlier, final, rfl⟩
    · obtain ⟨hxs, hlast⟩ := List.append_inj' h rfl
      exact .inl ⟨hxs, List.singleton_inj.1 hlast, rfl⟩
    · rw [List.concat_eq_append, ← List.cons_append, ← List.append_assoc] at h
      obtain ⟨hxs, hlast⟩ := List.append_inj' h rfl
      obtain rfl := List.singleton_inj.1 hlast
      exact .inr ⟨earlier, List.concat_eq_append, hxs⟩
  · rintro (⟨rfl, rfl, rfl⟩ | ⟨earlier, rfl, rfl⟩)
    · rfl
    · rw [List.append_assoc, List.cons_append]

theorem underway_snoc_iff : Underway (log ++ [e]) key id contentType since ↔
    e.touch id = .created key contentType ∧ since = [] ∨
      ∃ earlier, since = earlier ++ [e] ∧ Underway log key id contentType earlier ∧
        e.touch id ≠ .ended := by
  constructor
  · rintro ⟨⟨before, first, hsplit, hcreated⟩, hunended⟩
    rcases snoc_eq_split_iff.1 hsplit with ⟨-, rfl, rfl⟩ | ⟨earlier, rfl, hlog⟩
    · exact .inl ⟨hcreated, rfl⟩
    · exact .inr ⟨earlier, rfl,
        ⟨⟨before, first, hlog, hcreated⟩, fun e he => hunended e (List.mem_append_left _ he)⟩,
        hunended e (by simp)⟩
  · rintro (⟨hcreated, rfl⟩ | ⟨earlier, rfl, ⟨⟨before, first, rfl, hcreated⟩, hunended⟩, hlast⟩)
    · exact ⟨⟨log, e, rfl, hcreated⟩, by simp⟩
    · refine ⟨⟨before, first, by simp, hcreated⟩, fun e' he' => ?_⟩
      rcases List.mem_append.1 he' with he' | he'
      · exact hunended e' he'
      · rwa [List.mem_singleton.1 he']

theorem Underway.mem_idsGiven (h : Underway log key id contentType since) : id ∈ idsGiven log := by
  obtain ⟨⟨before, first, rfl, hcreated⟩, -⟩ := h
  refine List.mem_filterMap.2 ⟨first, by simp, ?_⟩
  rw [Exchange.eq_of_touch_created hcreated]
  rfl

theorem latestBody_snoc (since : List Exchange) (e : Exchange) (id : String) (number : Nat) :
    latestBody (since ++ [e]) id number = (e.body? id number).or (latestBody since id number) := by
  rw [latestBody, List.reverse_append, List.reverse_singleton, List.singleton_append,
    List.findSome?_cons]
  cases e.body? id number <;> rfl

theorem Over.mem_idsGiven (h : Over log id) : id ∈ idsGiven log := by
  obtain ⟨before, first, since, rfl, hgiven, -⟩ := h
  exact List.mem_filterMap.2 ⟨first, by simp, hgiven⟩

/-- What is over by now was over before, or has just been ended. -/
theorem over_snoc (h : Over (log ++ [e]) id) :
    Over log id ∨ id ∈ idsGiven log ∧ e.touch id = .ended := by
  obtain ⟨before, first, since, hsplit, hgiven, later, hlater, hended⟩ := h
  rcases snoc_eq_split_iff.1 hsplit with ⟨-, -, rfl⟩ | ⟨earlier, rfl, rfl⟩
  · cases hlater
  · rcases List.mem_append.1 hlater with hlater | hlater
    · exact .inl ⟨before, first, earlier, rfl, hgiven, later, hlater, hended⟩
    · obtain rfl := List.mem_singleton.1 hlater
      exact .inr ⟨List.mem_filterMap.2 ⟨first, by simp, hgiven⟩, hended⟩

theorem latestObject_snoc_made :
    LatestObject (log ++ [⟨.complete key id parts, .ok ""⟩]) key object ↔
      Assembles log key id parts object := by
  constructor
  · rintro ⟨before, id', parts', later, hsplit, hlatest, hassembles⟩
    rcases snoc_eq_split_iff.1 hsplit with ⟨rfl, heq, -⟩ | ⟨earlier, rfl, -⟩
    · obtain ⟨-, rfl, rfl⟩ := StoreCall.complete.inj (Exchange.mk.inj heq).1
      exact hassembles
    · exact absurd rfl (hlatest _ (by simp) id parts)
  · intro h
    exact ⟨log, id, parts, [], rfl, by simp, h⟩

theorem latestObject_snoc_of_ne (hother : ∀ id parts, e ≠ ⟨.complete key id parts, .ok ""⟩) :
    LatestObject (log ++ [e]) key object ↔ LatestObject log key object := by
  constructor
  · rintro ⟨before, id, parts, later, hsplit, hlatest, hassembles⟩
    rcases snoc_eq_split_iff.1 hsplit with ⟨-, rfl, -⟩ | ⟨earlier, rfl, rfl⟩
    · exact absurd rfl (hother id parts)
    · exact ⟨before, id, parts, earlier, rfl, fun e he => hlatest e (List.mem_append_left _ he),
        hassembles⟩
  · rintro ⟨before, id, parts, later, rfl, hlatest, hassembles⟩
    refine ⟨before, id, parts, later ++ [e], by simp, fun e' he' => ?_, hassembles⟩
    rcases List.mem_append.1 he' with he' | he'
    · exact hlatest e' he'
    · rwa [List.mem_singleton.1 he']

namespace MemoryStore

variable {s : MemoryStore}

/-! ## What a store mirrors -/

theorem assemble_eq_ok_iff {stored : List (Nat × ByteArray)} {body : ByteArray} :
    assemble stored parts = .ok body ↔ ∃ bodies, List.Forall₂ (fun part body =>
      stored.lookup part.number = some body ∧ Tag.ofBody body = part.eTag) parts bodies ∧
      body = joinBytes bodies :=
  ⟨exists_bodies_of_assemble, fun ⟨_, hbodies, heq⟩ => heq ▸ assemble_eq_ok hbodies⟩

/-- What is pending, and what it holds, is what the log tells. -/
structure Mirrors (log : List Exchange) (s : MemoryStore) : Prop where
  given : idsGiven log = (List.range s.created).map fun n => uploadId (n + 1)
  created : ∀ id upload, s.pending.get? id = some upload →
    ∃ since, Underway log upload.key id upload.contentType since
  pending : ∀ key id contentType since, Underway log key id contentType since →
    ∃ upload, s.pending.get? id = some upload ∧ upload.key = key ∧
      upload.contentType = contentType ∧
      ∀ number, upload.parts.lookup number = latestBody since id number
  ended : ∀ id, Over log id → s.pending.get? id = none
  objects : ∀ key object, s.objects.get? key = some object ↔ LatestObject log key object

namespace Mirrors

theorem start : Mirrors [] empty where
  given := rfl
  created := nofun
  pending := by
    rintro key id contentType since ⟨⟨before, e, hsplit, -⟩, -⟩
    simp at hsplit
  ended := by
    rintro id ⟨before, e, since, hsplit, -⟩
    simp at hsplit
  objects := by
    intro key object
    refine ⟨nofun, ?_⟩
    rintro ⟨before, id, parts, later, hsplit, -⟩
    simp at hsplit

/-- What parts come to by the log is what a completion finds. -/
theorem assembles_iff (h : Mirrors log s) : Assembles log key id parts object ↔
    ∃ upload, s.pending.get? id = some upload ∧ upload.key = key ∧
      upload.contentType = object.contentType ∧ ascending parts = true ∧
      assemble upload.parts parts = .ok object.body := by
  constructor
  · rintro ⟨since, bodies, hunderway, hascending, hbodies, heq⟩
    obtain ⟨upload, hfound, hkey, hcontent, hlookup⟩ := h.pending _ _ _ _ hunderway
    refine ⟨upload, hfound, hkey, hcontent, ascending_iff.2 hascending,
      assemble_eq_ok_iff.2 ⟨bodies, ?_, heq⟩⟩
    exact hbodies.imp fun part body hbody => ⟨(hlookup _).trans hbody.1, hbody.2⟩
  · rintro ⟨upload, hfound, rfl, hcontent, hascending, hassemble⟩
    obtain ⟨since, hunderway⟩ := h.created _ _ hfound
    obtain ⟨upload', hfound', -, -, hlookup⟩ := h.pending _ _ _ _ hunderway
    obtain rfl := Option.some.inj (hfound.symm.trans hfound')
    obtain ⟨bodies, hbodies, heq⟩ := assemble_eq_ok_iff.1 hassemble
    refine ⟨since, bodies, hcontent ▸ hunderway, ascending_iff.1 hascending, ?_, heq⟩
    exact hbodies.imp fun part body hbody => ⟨(hlookup _).symm.trans hbody.1, hbody.2⟩

/-! ### One call more -/

variable {call : StoreCall}

/-- The id that is given next is new. -/
theorem ne_next (h : Mirrors log s) (hid : id ∈ idsGiven log) : id ≠ uploadId (s.created + 1) := by
  rw [h.given] at hid
  obtain ⟨n, hn, rfl⟩ := List.mem_map.1 hid
  intro heq
  have := uploadId_injective heq
  have := List.mem_range.1 hn
  omega

/-- An upload is not created again. -/
theorem not_created (h : Mirrors log s) (hid : id ∈ idsGiven log) :
    (Exchange.mk call (s.perform call).1).touch id ≠ .created key contentType := by
  intro hcreated
  have hgiven : (Exchange.mk call (s.perform call).1).given? = some id := by
    rw [Exchange.eq_of_touch_created hcreated]
    rfl
  exact h.ne_next hid (eq_of_given?_perform hgiven)

theorem created_perform (h : Mirrors log s) {upload : PendingUpload}
    (hfound : (s.perform call).2.pending.get? id = some upload) :
    ∃ since, Underway (log ++ [⟨call, (s.perform call).1⟩]) upload.key id upload.contentType
      since := by
  rw [get?_pending_perform_eq] at hfound
  cases htouch : (Exchange.mk call (s.perform call).1).touch id with
  | created key contentType =>
      rw [htouch] at hfound
      obtain rfl := Option.some.inj hfound
      exact ⟨[], underway_snoc_iff.2 (.inl ⟨htouch, rfl⟩)⟩
  | put number body =>
      rw [htouch] at hfound
      obtain ⟨earlier, hearlier, rfl⟩ := Option.map_eq_some_iff.1 hfound
      obtain ⟨since, hunderway⟩ := h.created _ _ hearlier
      exact ⟨_, underway_snoc_iff.2 (.inr ⟨since, rfl, hunderway, by rw [htouch]; exact nofun⟩)⟩
  | ended => rw [htouch] at hfound; cases hfound
  | untouched =>
      rw [htouch] at hfound
      obtain ⟨since, hunderway⟩ := h.created _ _ hfound
      exact ⟨_, underway_snoc_iff.2 (.inr ⟨since, rfl, hunderway, by rw [htouch]; exact nofun⟩)⟩

theorem pending_perform (h : Mirrors log s)
    (hunderway : Underway (log ++ [⟨call, (s.perform call).1⟩]) key id contentType since) :
    ∃ upload, (s.perform call).2.pending.get? id = some upload ∧ upload.key = key ∧
      upload.contentType = contentType ∧
      ∀ number, upload.parts.lookup number = latestBody since id number := by
  rw [get?_pending_perform_eq]
  rcases underway_snoc_iff.1 hunderway with ⟨hcreated, rfl⟩ | ⟨earlier, rfl, hearlier, hunended⟩
  · rw [hcreated]
    exact ⟨_, rfl, rfl, rfl, fun _ => rfl⟩
  · obtain ⟨upload, hfound, hkey, hcontent, hlookup⟩ := h.pending _ _ _ _ hearlier
    rw [hfound]
    -- of what can be done to an upload that is under way, only a part changes what it holds
    cases htouch : (Exchange.mk call (s.perform call).1).touch id with
    | created key contentType => exact absurd htouch (h.not_created hearlier.mem_idsGiven)
    | put number body =>
        refine ⟨_, rfl, hkey, hcontent, fun n => ?_⟩
        rw [latestBody_snoc, Exchange.body?, htouch, lookup_putPart, hlookup]
        dsimp only
        by_cases hn : n = number
        · rw [if_pos hn, if_pos hn.symm, Option.some_or]
        · rw [if_neg hn, if_neg (Ne.symm hn), Option.none_or]
    | ended => exact absurd htouch hunended
    | untouched =>
        refine ⟨upload, rfl, hkey, hcontent, fun n => ?_⟩
        rw [latestBody_snoc, Exchange.body?, htouch, hlookup, Option.none_or]

theorem over_perform (h : Mirrors log s) (hover : Over (log ++ [⟨call, (s.perform call).1⟩]) id) :
    (s.perform call).2.pending.get? id = none := by
  rw [get?_pending_perform_eq]
  rcases over_snoc hover with hover | ⟨-, hended⟩
  · rw [h.ended id hover]
    cases htouch : (Exchange.mk call (s.perform call).1).touch id with
    | created key contentType => exact absurd htouch (h.not_created hover.mem_idsGiven)
    | put number body => rfl
    | ended => rfl
    | untouched => rfl
  · rw [hended]
    rfl

theorem objects_perform_iff (h : Mirrors log s) (key : String) (object : StoredObject) :
    (s.perform call).2.objects.get? key = some object ↔
      LatestObject (log ++ [⟨call, (s.perform call).1⟩]) key object := by
  by_cases hmade : ∃ other id parts, call = .complete other id parts ∧ (s.perform call).1 = .ok ""
  · obtain ⟨other, id, parts, rfl, hok⟩ := hmade
    rw [hok]
    rcases complete_cases s other id parts with
      ⟨upload, body, hfound, hupload, hascending, hassemble, hdone⟩ | ⟨e, hrefused⟩
    · rw [perform, hdone]
      dsimp only
      rw [Dict.get?_insert]
      by_cases hkey : key = other
      · subst hkey
        rw [if_pos rfl, latestObject_snoc_made, h.assembles_iff]
        constructor
        · rintro ⟨rfl⟩
          exact ⟨upload, hfound, hupload, rfl, hascending, hassemble⟩
        · rintro ⟨upload', hfound', -, hcontent, -, hassemble'⟩
          obtain rfl := Option.some.inj (hfound.symm.trans hfound')
          obtain rfl := Except.ok.inj (hassemble.symm.trans hassemble')
          rw [hcontent]
      · rw [if_neg hkey, h.objects, latestObject_snoc_of_ne]
        exact fun id parts heq =>
          hkey (StoreCall.complete.inj (Exchange.mk.inj heq).1).1.symm
    · rw [perform, hrefused] at hok
      cases hok
  · rw [objects_perform s call fun other id parts heq hok => hmade ⟨other, id, parts, heq, hok⟩,
      h.objects, latestObject_snoc_of_ne]
    intro id parts heq
    obtain ⟨hcall, hok⟩ := Exchange.mk.inj heq
    exact hmade ⟨key, id, parts, hcall, hok⟩

/-- What a store mirrors it goes on to mirror, whatever it is called with. -/
theorem perform (h : Mirrors log s) (call : StoreCall) :
    Mirrors (log ++ [⟨call, (s.perform call).1⟩]) (s.perform call).2 where
  given := idsGiven_perform h.given call
  created _ _ hfound := h.created_perform hfound
  pending _ _ _ _ hunderway := h.pending_perform hunderway
  ended _ hover := h.over_perform hover
  objects := h.objects_perform_iff

end Mirrors

/-- A store mirrors all that was said with it. -/
theorem mirrors_converse (calls : List StoreCall) :
    Mirrors (empty.converse calls).1 (empty.converse calls).2 :=
  converse_induction .start (fun _ _ call h => h.perform call) calls

/-! ## What a store recalls -/

theorem uploadPart_eq_ok_iff {body : ByteArray} {tag : String} :
    (s.uploadPart key id number body).1 = .ok tag ↔
      tag = Tag.ofBody body ∧ ∃ upload, s.pending.get? id = some upload ∧ upload.key = key := by
  rcases uploadPart_cases s key id number body with
    ⟨upload, hfound, hkey, hput⟩ | ⟨hnone, hrefused⟩
  · rw [hput]
    exact ⟨fun hok => ⟨(Except.ok.inj hok).symm, upload, hfound, hkey⟩, fun h => h.1 ▸ rfl⟩
  · rw [hrefused]
    exact ⟨nofun, fun h => absurd h.2 hnone⟩

theorem Mirrors.complete_of_assembles (h : Mirrors log s)
    (hassembles : Assembles log key id parts object) :
    (s.complete key id parts).1 = .ok () ∧
      (s.complete key id parts).2.objects.get? key = some object := by
  obtain ⟨upload, hfound, hkey, hcontent, hascending, hassemble⟩ := h.assembles_iff.1 hassembles
  rw [complete_eq_ok hfound hkey hascending hassemble]
  refine ⟨rfl, ?_⟩
  dsimp only
  rw [Dict.get?_insert_self, hcontent]

theorem Mirrors.exists_assembles (h : Mirrors log s) (hok : (s.complete key id parts).1 = .ok ()) :
    ∃ object, Assembles log key id parts object := by
  rcases complete_cases s key id parts with
    ⟨upload, body, hfound, hkey, hascending, hassemble, -⟩ | ⟨e, hrefused⟩
  · exact ⟨⟨upload.contentType, body⟩,
      h.assembles_iff.2 ⟨upload, hfound, hkey, rfl, hascending, hassemble⟩⟩
  · rw [hrefused] at hok
    cases hok

/-- A store answers and holds what the log tells, in every conversation. -/
theorem recalls (calls : List StoreCall) :
    Recalls (empty.converse calls).1 (empty.converse calls).2 := by
  have h := mirrors_converse calls
  have hpending : ∀ key id contentType,
      (∃ upload, (empty.converse calls).2.pending.get? id = some upload ∧ upload.key = key ∧
        upload.contentType = contentType) ↔
      ∃ since, Underway (empty.converse calls).1 key id contentType since := by
    intro key id contentType
    constructor
    · rintro ⟨upload, hfound, rfl, rfl⟩
      exact h.created id upload hfound
    · rintro ⟨since, hunderway⟩
      obtain ⟨upload, hfound, hkey, hcontent, -⟩ := h.pending _ _ _ _ hunderway
      exact ⟨upload, hfound, hkey, hcontent⟩
  refine
    { pending := hpending
      accepts := fun key id number body tag => ?_
      completes := fun key id parts => ?_
      makes := fun key id parts object hassembles => (h.complete_of_assembles hassembles).2
      holds := h.objects
      distinct := ?_
      refuses := fun id hover key => ?_ }
  · rw [uploadPart_eq_ok_iff]
    refine and_congr_right fun _ => ⟨?_, ?_⟩
    · rintro ⟨upload, hfound, hkey⟩
      exact ⟨upload.contentType, (hpending key id _).1 ⟨upload, hfound, hkey, rfl⟩⟩
    · rintro ⟨contentType, hunderway⟩
      obtain ⟨upload, hfound, hkey, -⟩ := (hpending key id contentType).2 hunderway
      exact ⟨upload, hfound, hkey⟩
  · exact ⟨h.exists_assembles, fun ⟨_, hassembles⟩ => (h.complete_of_assembles hassembles).1⟩
  · rw [h.given]
    exact nodup_uploadIds _
  · have hnone := h.ended id hover
    exact ⟨fun number body => by rw [uploadPart, hnone], fun parts => by rw [complete, hnone]⟩

end MemoryStore

end StudySession

import StudySession.Proofs.Upload.Exchanges

/-!
# What refused calls leave alone

A call that the in-memory store refuses makes no object and aborts nothing. A refused part leaves
the store as it was. A refused completion leaves all uploads but the one that it names, and nobody
who uses the others can tell that it was made (`MemoryStore.AlikeBut.converse`). An abort is never
refused, and goes by the id of an upload, whatever the key.
-/

namespace StudySession

namespace MemoryStore

/-- Stores that differ at most in what is pending of an id, where the one may have nothing, and in
the completions that they have noted. -/
structure AlikeBut (id : String) (s s' : MemoryStore) : Prop where
  created : s'.created = s.created
  others : ∀ other, other ≠ id → s'.pending.get? other = s.pending.get? other
  named : s'.pending.get? id = none ∨ s'.pending.get? id = s.pending.get? id
  objects : s'.objects = s.objects
  aborted : s'.aborted = s.aborted

/-- What refused calls leave alone, and what an abort does. -/
structure Spares (s : MemoryStore) : Prop where
  part : ∀ key id number body e, (s.uploadPart key id number body).1 = .error e →
    (s.uploadPart key id number body).2 = s
  completion : ∀ key id parts e, (s.complete key id parts).1 = .error e →
    AlikeBut id s (s.complete key id parts).2
  /-- Whatever is said of other uploads after a refused completion, it is answered as if that had
  not been made. -/
  unnoticed : ∀ key id parts e, (s.complete key id parts).1 = .error e →
    ∀ calls : List StoreCall, (∀ call ∈ calls, call.id? ≠ some id) →
      ((s.complete key id parts).2.converse calls).1 = (s.converse calls).1 ∧
        AlikeBut id (s.converse calls).2 ((s.complete key id parts).2.converse calls).2
  /-- Under another key than its own, an upload takes no part and is not completed. -/
  foreign : ∀ key id upload, s.pending.get? id = some upload → upload.key ≠ key →
    (∀ number body, (s.uploadPart key id number body).1 = .error (noSuchUpload id)) ∧
      ∀ parts, (s.complete key id parts).1 = .error (noSuchUpload id)
  abort : ∀ key id upload, s.pending.get? id = some upload →
    s.abort key id = { s with pending := s.pending.erase id, aborted := s.aborted + 1 }

variable {s s' : MemoryStore} {key id : String} {call : StoreCall}

/-! ## Stores that are alike -/

namespace AlikeBut

/-- What a call that does not name the id is answered, and does to all but what is pending. -/
theorem perform_eq (h : AlikeBut id s s') (hcall : call.id? ≠ some id) :
    (s'.perform call).1 = (s.perform call).1 ∧
      (s'.perform call).2.created = (s.perform call).2.created ∧
      (s'.perform call).2.objects = (s.perform call).2.objects ∧
      (s'.perform call).2.aborted = (s.perform call).2.aborted := by
  cases call with
  | create key contentType =>
      simp only [perform, create, h.created, h.objects, h.aborted, and_self]
  | part key other number body =>
      have hother := h.others other fun heq => hcall (congrArg some heq)
      simp only [perform, uploadPart, hother]
      split
      · exact ⟨rfl, h.created, h.objects, h.aborted⟩
      · split <;> exact ⟨rfl, h.created, h.objects, h.aborted⟩
  | complete key other parts =>
      have hother := h.others other fun heq => hcall (congrArg some heq)
      simp only [perform, complete, hother, h.objects]
      split
      · exact ⟨rfl, h.created, rfl, h.aborted⟩
      · split
        · split
          · split <;> exact ⟨rfl, h.created, rfl, h.aborted⟩
          · exact ⟨rfl, h.created, rfl, h.aborted⟩
        · exact ⟨rfl, h.created, rfl, h.aborted⟩
  | abort key other =>
      have hother := h.others other fun heq => hcall (congrArg some heq)
      refine ⟨rfl, ?_⟩
      dsimp only [MemoryStore.perform]
      rcases abort_cases s key other with ⟨upload, hfound, habort⟩ | ⟨hnone, habort⟩
      · rcases abort_cases s' key other with ⟨-, -, habort'⟩ | ⟨hnone', -⟩
        · rw [habort, habort']
          exact ⟨h.created, h.objects, congrArg (· + 1) h.aborted⟩
        · cases hfound.symm.trans (hother.symm.trans hnone')
      · rcases abort_cases s' key other with ⟨upload, hfound', -⟩ | ⟨-, habort'⟩
        · cases hnone.symm.trans (hother.symm.trans hfound')
        · rw [habort, habort']
          exact ⟨h.created, h.objects, h.aborted⟩

/-- Calls that do not name the id keep stores alike. -/
theorem perform (h : AlikeBut id s s') (hcall : call.id? ≠ some id) :
    AlikeBut id (s.perform call).2 (s'.perform call).2 := by
  obtain ⟨hanswer, hcreated, hobjects, haborted⟩ := h.perform_eq hcall
  refine ⟨hcreated, fun other hother => ?_, ?_, hobjects, haborted⟩
  · rw [get?_pending_perform_eq, get?_pending_perform_eq, hanswer, h.others other hother]
  · rw [get?_pending_perform_eq, get?_pending_perform_eq, hanswer]
    -- no part is put under an id that is not named, but it can be given anew
    cases htouch : (Exchange.mk call (s.perform call).1).touch id with
    | created key contentType => exact .inr rfl
    | put number body =>
        obtain ⟨key, tag, heq⟩ := Exchange.eq_of_touch_put htouch
        exact absurd (congrArg StoreCall.id? (Exchange.mk.inj heq).1) hcall
    | ended => exact .inl rfl
    | untouched => exact h.named

/-- Whoever does not name the id cannot tell stores apart that are alike. -/
theorem converse (h : AlikeBut id s s') {calls : List StoreCall}
    (hcalls : ∀ call ∈ calls, call.id? ≠ some id) :
    (s'.converse calls).1 = (s.converse calls).1 ∧
      AlikeBut id (s.converse calls).2 (s'.converse calls).2 := by
  induction calls using List.reverseRecOn with
  | nil => exact ⟨rfl, h⟩
  | append_singleton calls call ih =>
      obtain ⟨hlog, halike⟩ := ih fun call hmem => hcalls call (List.mem_append_left _ hmem)
      have hcall := hcalls call (by simp)
      rw [converse_snoc, converse_snoc]
      dsimp only
      rw [hlog, (halike.perform_eq hcall).1]
      exact ⟨rfl, halike.perform hcall⟩

end AlikeBut

/-! ## What is left alone -/

theorem eq_of_uploadPart_error {number : Nat} {body : ByteArray} {e : StoreError}
    (h : (s.uploadPart key id number body).1 = .error e) :
    (s.uploadPart key id number body).2 = s := by
  rcases uploadPart_cases s key id number body with ⟨upload, -, -, hput⟩ | ⟨-, hrefused⟩
  · rw [hput] at h
    cases h
  · rw [hrefused]

theorem alikeBut_of_complete_error {parts : List CompletedPart} {e : StoreError}
    (h : (s.complete key id parts).1 = .error e) : AlikeBut id s (s.complete key id parts).2 := by
  rcases complete_cases s key id parts with ⟨upload, body, -, -, -, -, hdone⟩ | ⟨e', hrefused⟩
  · rw [hdone] at h
    cases h
  · rw [hrefused]
    exact ⟨rfl, fun other hother => Dict.get?_erase_of_ne hother _, .inl (Dict.get?_erase_self _ _),
      rfl, rfl⟩

/-- In every state, refused calls spare what they do not name. -/
theorem refusals_spare (s : MemoryStore) : Spares s where
  part _ _ _ _ _ h := eq_of_uploadPart_error h
  completion _ _ _ _ h := alikeBut_of_complete_error h
  unnoticed _ _ _ _ h _ hcalls := (alikeBut_of_complete_error h).converse hcalls
  foreign key id upload hfound hkey := by
    refine ⟨fun number body => ?_, fun parts => ?_⟩
    · rw [uploadPart, hfound]
      dsimp only
      rw [if_neg hkey]
    · rw [complete, hfound]
      dsimp only
      rw [if_neg hkey]
  abort key id upload hfound := by
    rcases abort_cases s key id with ⟨-, -, habort⟩ | ⟨hnone, -⟩
    · exact habort
    · rw [hfound] at hnone
      cases hnone

/-! ## What is not left alone -/

/-- An upload that holds two parts. -/
def twoParts : MemoryStore :=
  (empty.converse
    [.create "a.webm" "video/webm",
      .part "a.webm" "memory-upload-1" 1 ⟨#[120]⟩, .part "a.webm" "memory-upload-1" 2 ⟨#[121]⟩]).2

/-- Its parts as a completion has to list them. -/
def twoListed : List CompletedPart :=
  [⟨1, Tag.ofBody ⟨#[120]⟩⟩, ⟨2, Tag.ofBody ⟨#[121]⟩⟩]

/-- What could be completed cannot be any more once it was aborted under another key, nor once a
completion of it was refused. -/
theorem lost_to_foreign_abort :
    (twoParts.complete "a.webm" "memory-upload-1" twoListed).1 = .ok () ∧
      ((twoParts.abort "b.webm" "memory-upload-1").complete "a.webm" "memory-upload-1"
        twoListed).1 = .error (noSuchUpload "memory-upload-1") ∧
      (twoParts.complete "a.webm" "memory-upload-1" twoListed.reverse).1 =
        .error (.rejected "parts must be in ascending order") ∧
      ((twoParts.complete "a.webm" "memory-upload-1" twoListed.reverse).2.complete "a.webm"
        "memory-upload-1" twoListed).1 = .error (noSuchUpload "memory-upload-1") :=
  ⟨rfl, rfl, rfl, rfl⟩

end MemoryStore

end StudySession

import Mathlib.Data.List.Forall2
import StudySession.Proofs.Dict
import StudySession.Proofs.Upload.Transfer

/-!
# Putting an object together

What the in-memory store answers to the calls of an upload that is pending under its key: it keeps
the latest body of each part, and completing the upload from parts it holds, each with its tag,
makes an object of their bodies in order.
-/

namespace StudySession

namespace MemoryStore

variable {s : MemoryStore} {key id : String} {upload : PendingUpload}

theorem get?_create (key contentType : String) :
    (s.create key contentType).2.pending.get? (s.create key contentType).1 =
      some ⟨key, contentType, []⟩ :=
  Dict.get?_insert_self _ _ _

/-- Whatever a completion answers, the upload is pending no longer. -/
theorem pending_complete (s : MemoryStore) (key id : String) (parts : List CompletedPart) :
    (s.complete key id parts).2.pending = s.pending.erase id := by
  rw [complete]
  dsimp only
  split
  · rfl
  · split
    · split
      · split <;> rfl
      · rfl
    · rfl

/-- The bodies of an upload with one more, in place of an earlier one of the same number. -/
def putPart (number : Nat) (body : ByteArray) (parts : List (Nat × ByteArray)) :
    List (Nat × ByteArray) :=
  (number, body) :: parts.filter (·.1 != number)

theorem lookup_putPart (number : Nat) (body : ByteArray) (parts : List (Nat × ByteArray))
    (n : Nat) :
    (putPart number body parts).lookup n = if n = number then some body else parts.lookup n := by
  rw [putPart, List.lookup_cons]
  by_cases hn : n = number
  · rw [if_pos hn, beq_iff_eq.2 hn]
  · rw [if_neg hn, beq_false_of_ne hn]
    dsimp only
    -- what is filtered out was stored under the other number
    induction parts with
    | nil => rfl
    | cons entry rest ih =>
        obtain ⟨m, b⟩ := entry
        by_cases hm : m = number
        · have hne : (n == m) = false := by simpa [hm] using hn
          rw [List.filter_cons_of_neg (by simpa using hm), ih, List.lookup_cons, hne]
        · rw [List.filter_cons_of_pos (by simpa using hm), List.lookup_cons, List.lookup_cons, ih]

theorem uploadPart_of_pending (hfound : s.pending.get? id = some upload) (hkey : upload.key = key)
    (number : Nat) (body : ByteArray) :
    s.uploadPart key id number body =
      (.ok (Tag.ofBody body),
        { s with
          pending := s.pending.insert id
            { upload with parts := putPart number body upload.parts } }) := by
  rw [uploadPart, hfound]
  dsimp only
  rw [if_pos hkey]
  rfl

theorem ascending_iff {parts : List CompletedPart} :
    ascending parts = true ↔ parts.Pairwise fun a b => a.number < b.number := by
  induction parts with
  | nil => simp [ascending]
  | cons a rest ih =>
      cases rest with
      | nil => simp [ascending]
      | cons b rest =>
          rw [ascending, Bool.and_eq_true, decide_eq_true_eq, ih, List.pairwise_cons (a := a)]
          constructor
          · rintro ⟨hab, hrest⟩
            refine ⟨fun c hc => ?_, hrest⟩
            rcases List.mem_cons.1 hc with rfl | hc
            · exact hab
            · exact hab.trans ((List.pairwise_cons.1 hrest).1 c hc)
          · rintro ⟨ha, hrest⟩
            exact ⟨ha b List.mem_cons_self, hrest⟩

theorem ascending_of_numbers {parts : List CompletedPart} {n count : Nat}
    (h : parts.map (·.number) = List.range' n count) : ascending parts = true := by
  have hnumbers : (parts.map (·.number)).Pairwise (· < ·) := h ▸ List.pairwise_lt_range'
  exact ascending_iff.2 (List.pairwise_map.1 hnumbers)

/-- Parts that are there, each with its tag, come to their bodies in order. -/
theorem assemble_eq_ok {stored : List (Nat × ByteArray)} {parts : List CompletedPart}
    {bodies : List ByteArray}
    (h : List.Forall₂ (fun part body =>
      stored.lookup part.number = some body ∧ Tag.ofBody body = part.eTag) parts bodies) :
    assemble stored parts = .ok (joinBytes bodies) := by
  induction h with
  | nil => rfl
  | cons hfirst _ ih =>
      rw [assemble, hfirst.1]
      dsimp only
      rw [if_pos hfirst.2, ih]
      rfl

/-- An object is assembled from bodies that are there, each with the tag listed. -/
theorem exists_bodies_of_assemble {stored : List (Nat × ByteArray)} {parts : List CompletedPart}
    {body : ByteArray} (h : assemble stored parts = .ok body) :
    ∃ bodies, List.Forall₂ (fun part body =>
      stored.lookup part.number = some body ∧ Tag.ofBody body = part.eTag) parts bodies ∧
      body = joinBytes bodies := by
  induction parts generalizing body with
  | nil => exact ⟨[], .nil, (Except.ok.inj h).symm⟩
  | cons part rest ih =>
      rw [assemble] at h
      split at h
      · cases h
      · next first hfirst =>
          split at h
          · next htag =>
              cases hrest : assemble stored rest with
              | error e => simp [hrest, Except.map] at h
              | ok following =>
                  obtain ⟨bodies, hbodies, rfl⟩ := ih hrest
                  rw [hrest] at h
                  exact ⟨first :: bodies, .cons ⟨hfirst, htag⟩ hbodies, (Except.ok.inj h).symm⟩
          · cases h

/-- Completing an upload from what can be assembled makes the object. -/
theorem complete_eq_ok {parts : List CompletedPart} {body : ByteArray}
    (hfound : s.pending.get? id = some upload) (hkey : upload.key = key)
    (hascending : ascending parts = true) (hassemble : assemble upload.parts parts = .ok body) :
    s.complete key id parts =
      (.ok (),
        { s with
          completions := s.completions ++ [parts]
          pending := s.pending.erase id
          objects := s.objects.insert key ⟨upload.contentType, body⟩ }) := by
  rw [complete, hfound]
  dsimp only
  rw [if_pos hkey, if_pos hascending, hassemble]

/-- Completing an upload from parts it holds makes the object. -/
theorem complete_of_pending {parts : List CompletedPart} {bodies : List ByteArray} {n count : Nat}
    (hfound : s.pending.get? id = some upload) (hkey : upload.key = key)
    (hnumbers : parts.map (·.number) = List.range' n count)
    (hparts : List.Forall₂ (fun part body =>
      upload.parts.lookup part.number = some body ∧ Tag.ofBody body = part.eTag) parts bodies) :
    s.complete key id parts =
      (.ok (),
        { s with
          completions := s.completions ++ [parts]
          pending := s.pending.erase id
          objects := s.objects.insert key ⟨upload.contentType, joinBytes bodies⟩ }) :=
  complete_eq_ok hfound hkey (ascending_of_numbers hnumbers) (assemble_eq_ok hparts)

/-! ### What a call comes to -/

/-- A part is accepted where its upload is pending under the key, and changes nothing elsewhere. -/
theorem uploadPart_cases (s : MemoryStore) (key id : String) (number : Nat) (body : ByteArray) :
    (∃ upload, s.pending.get? id = some upload ∧ upload.key = key ∧
      s.uploadPart key id number body = (.ok (Tag.ofBody body),
        { s with
          pending := s.pending.insert id
            { upload with parts := putPart number body upload.parts } })) ∨
      (¬ ∃ upload, s.pending.get? id = some upload ∧ upload.key = key) ∧
        s.uploadPart key id number body = (.error (noSuchUpload id), s) := by
  cases hfound : s.pending.get? id with
  | none => exact .inr ⟨by simp, by rw [uploadPart, hfound]⟩
  | some upload =>
      by_cases hkey : upload.key = key
      · exact .inl ⟨upload, rfl, hkey, uploadPart_of_pending hfound hkey number body⟩
      · refine .inr ⟨by simpa using hkey, ?_⟩
        rw [uploadPart, hfound]
        dsimp only
        rw [if_neg hkey]

/-- A completion makes an object where its upload is pending under the key and holds the parts in
the order of their numbers, each with its tag. Elsewhere it is refused, and makes none. -/
theorem complete_cases (s : MemoryStore) (key id : String) (parts : List CompletedPart) :
    (∃ upload body, s.pending.get? id = some upload ∧ upload.key = key ∧ ascending parts = true ∧
      assemble upload.parts parts = .ok body ∧
      s.complete key id parts = (.ok (),
        { s with
          completions := s.completions ++ [parts]
          pending := s.pending.erase id
          objects := s.objects.insert key ⟨upload.contentType, body⟩ })) ∨
      ∃ e, s.complete key id parts = (.error e,
        { s with completions := s.completions ++ [parts], pending := s.pending.erase id }) := by
  cases hfound : s.pending.get? id with
  | none => exact .inr ⟨_, by rw [complete, hfound]⟩
  | some upload =>
      by_cases hkey : upload.key = key
      · by_cases hascending : ascending parts = true
        · cases hbody : assemble upload.parts parts with
          | error e =>
              refine .inr ⟨e, ?_⟩
              rw [complete, hfound]
              dsimp only
              rw [if_pos hkey, if_pos hascending, hbody]
          | ok body =>
              exact .inl ⟨upload, body, rfl, hkey, hascending, hbody,
                complete_eq_ok hfound hkey hascending hbody⟩
        · refine .inr ⟨.rejected "parts must be in ascending order", ?_⟩
          rw [complete, hfound]
          dsimp only
          rw [if_pos hkey, if_neg hascending]
      · refine .inr ⟨noSuchUpload id, ?_⟩
        rw [complete, hfound]
        dsimp only
        rw [if_neg hkey]

/-- An abort drops what is pending of its id, whatever the key. -/
theorem abort_cases (s : MemoryStore) (key id : String) :
    (∃ upload, s.pending.get? id = some upload ∧
      s.abort key id = { s with pending := s.pending.erase id, aborted := s.aborted + 1 }) ∨
      s.pending.get? id = none ∧ s.abort key id = s := by
  cases hfound : s.pending.get? id with
  | none => exact .inr ⟨rfl, by rw [abort, Dict.has, hfound]; rfl⟩
  | some upload => exact .inl ⟨upload, rfl, by rw [abort, Dict.has, hfound]; rfl⟩

end MemoryStore

/-- Acknowledged parts are listed in order, each with its number and tag. -/
theorem Session.forall₂_of_acknowledged {expected total : Nat} {parts : List Part}
    {listed : List CompletedPart}
    (h : Session.acknowledged expected parts = .ok (listed, total)) :
    List.Forall₂ (fun p c => c.number = p.number ∧ p.state = .acknowledged c.eTag) parts listed ∧
      listed.map (·.number) = List.range' expected parts.length ∧
      total = (parts.map (·.size)).sum := by
  induction parts generalizing expected listed total with
  | nil =>
      obtain ⟨rfl, rfl⟩ := Prod.mk.inj (Except.ok.inj h)
      exact ⟨.nil, rfl, rfl⟩
  | cons p rest ih =>
      rw [acknowledged] at h
      split at h
      · next hnumber =>
          split at h
          · next eTag hstate =>
              cases hrest : acknowledged (expected + 1) rest with
              | error e => simp [hrest, Except.map] at h
              | ok result =>
                  obtain ⟨following, bytes⟩ := result
                  rw [hrest] at h
                  obtain ⟨rfl, rfl⟩ := Prod.mk.inj (Except.ok.inj h)
                  obtain ⟨hparts, hnumbers, htotal⟩ := ih hrest
                  refine ⟨.cons ⟨rfl, hstate⟩ hparts, ?_, ?_⟩
                  · rw [List.map_cons, hnumbers, hnumber, List.length_cons, List.range'_succ]
                  · rw [htotal, List.map_cons, List.sum_cons]
          · simp at h
          · simp at h
      · simp at h

end StudySession

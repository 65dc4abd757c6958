import StudySession.Proofs.Upload.Stages

/-!
# How chunks become parts

At every moment of an open upload, the chunks taken in are the bodies of its parts, in the order of
the parts, and what is pending. Where one body ends and the next begins is settled by the chunks and
the part size alone (`Gathering.ofChunks`), whatever the store answers and whenever.
-/

namespace StudySession

namespace Traffic

/-- The store has given the upload an id, and it is not being given up. -/
structure IsOpen (id : String) (u : Upload) : Prop where
  phase : u.session.phase = .opened id
  kept : ∀ error call attempt, u.awaiting ≠ some (.store (.failing error) call attempt)

/-- Between two commands, an upload with an id is not being given up. -/
theorem isOpen_of_idle {id : String} {u : Upload} (hphase : u.session.phase = .opened id)
    (hidle : u.awaiting = none) : IsOpen id u :=
  ⟨hphase, by simp [hidle]⟩

/-- What an open upload with a part size holds of the chunks taken in. -/
structure Buffered (size : Nat) (id : String) (s : Session) (trace : List Happening) : Prop where
  chunks : joinBytes (chunksAccepted trace) = joinBytes (bodiesFlushed trace) ++ s.pending
  /-- A group of chunks is full with the chunk that reaches the size. -/
  cuts : (Gathering.ofChunks size (chunksAccepted trace)).Cuts size (chunksAccepted trace)
  /-- Until the upload is told to complete, the full groups are flushed and the others pending. -/
  before : lastCommand? trace ≠ some .complete → s.pending.size < size ∧
    bodiesFlushed trace = (Gathering.ofChunks size (chunksAccepted trace)).bodies ∧
    s.pending = (Gathering.ofChunks size (chunksAccepted trace)).rest
  /-- From then on, everything is flushed. -/
  after : lastCommand? trace = some .complete → s.pending = .empty ∧
    bodiesFlushed trace = (Gathering.ofChunks size (chunksAccepted trace)).allBodies
  nonempty : ∀ body ∈ bodiesFlushed trace, 0 < body.size
  numbers : s.parts.map (·.number) = List.range' 1 (bodiesFlushed trace).length
  sizes : s.parts.map (·.size) = (bodiesFlushed trace).map (·.size)
  snapshot : s.snapshot = .ok ⟨s.key, id, s.parts, s.pending.size⟩
  total : (s.parts.map (·.size)).sum + s.pending.size = (joinBytes (chunksAccepted trace)).size
  /-- A part shows a tag where the store acknowledged it with that tag. -/
  tags : ∀ i tag, s.parts[i]?.bind (·.eTag?) = some tag ↔ Acknowledged trace (i + 1) tag

variable {size : Nat} {id : String} {w : Traffic} {trace : List Happening} {s : Session}

theorem Part.eTag?_eq_some_iff {p : Part} {tag : String} :
    p.eTag? = some tag ↔ p.state = .acknowledged tag := by
  rw [Part.eTag?]
  cases hstate : p.state with
  | inFlight => simp
  | acknowledged eTag => simp
  | lost error => simp

theorem Opened.tags (h : Opened size id w trace) (i : Nat) (tag : String) :
    w.upload.session.parts[i]?.bind (·.eTag?) = some tag ↔ Acknowledged trace (i + 1) tag := by
  constructor
  · intro htag
    obtain ⟨p, hp, htag⟩ := Option.bind_eq_some_iff.1 htag
    obtain ⟨-, -, hacked⟩ := h.books.part i p hp
    exact hacked tag (Part.eTag?_eq_some_iff.1 htag)
  · intro hacked
    obtain ⟨p, hp, hstate⟩ := h.entries.acknowledged i tag hacked
    exact Option.bind_eq_some_iff.2 ⟨p, hp, Part.eTag?_eq_some_iff.2 hstate⟩

theorem Stage.opened_of_isOpen (h : Stage size w trace) (hopen : IsOpen id w.upload) :
    Opened size id w trace ∧ Busy size id w trace := by
  obtain ⟨hphase, hkept⟩ := hopen
  cases h with
  | fresh unopened idle => rw [unopened.untouched.phase] at hphase; cases hphase
  | creating unopened told asked created => rw [unopened.untouched.phase] at hphase; cases hphase
  | live opened busy =>
      obtain rfl := Phase.opened.inj (opened.books.phase.symm.trans hphase)
      exact ⟨opened, busy⟩
  | dropping drops quiet asked sent aborted =>
      cases drops with
      | failing phase => exact absurd asked (hkept _ _ _)
      | aborting phase => rw [phase] at hphase; cases hphase
  | failed phase quiet idle aborted => rw [phase] at hphase; cases hphase
  | completed phase healthy quiet idle unaborted => rw [phase] at hphase; cases hphase

theorem Busy.gathered_or_sealed (h : Busy size id w trace) :
    Gathered size w.upload.session trace ∨ Sealed size w.upload.session trace := by
  cases h with
  | resting awaiting gathered => exact .inl gathered
  | sending awaiting flying gathered => exact .inl gathered
  | joining awaiting sealed => exact .inr sealed
  | completing quiet acked nonempty awaiting flying sealed => exact .inr sealed

/-- The bodies flushed are among those of the chunks and what is left of them. -/
theorem Busy.mem_allBodies (h : Busy size id w trace) {body : ByteArray}
    (hbody : body ∈ bodiesFlushed trace) :
    body ∈ (Gathering.ofChunks size (chunksAccepted trace)).allBodies := by
  rcases h.gathered_or_sealed with hgathered | hsealed
  · rw [hgathered.bodies] at hbody
    exact List.mem_append_left _ hbody
  · rwa [hsealed.bodies] at hbody

theorem Opened.buffered (h : Opened size id w trace) (busy : Busy size id w trace)
    (hsize : 0 < size) : Buffered size id w.upload.session trace := by
  have hcuts := Gathering.cuts_ofChunks hsize (chunksAccepted trace)
  have hchunks : joinBytes (chunksAccepted trace) =
      joinBytes (bodiesFlushed trace) ++ w.upload.session.pending := by
    rcases busy.gathered_or_sealed with hgathered | hsealed
    · exact hgathered.chunks hsize
    · exact hsealed.chunks hsize
  refine
    { chunks := hchunks
      cuts := hcuts
      before := fun htold => ?_
      after := fun htold => ?_
      nonempty := fun body hbody => hcuts.size_pos hsize (busy.mem_allBodies hbody)
      numbers := h.books.numbers
      sizes := h.books.sizes
      snapshot := ?_
      total := ?_
      tags := h.tags }
  · rcases busy.gathered_or_sealed with hgathered | hsealed
    · refine ⟨?_, hgathered.bodies, hgathered.pending⟩
      rw [hgathered.pending]
      exact hcuts.few
    · exact absurd hsealed.told htold
  · rcases busy.gathered_or_sealed with hgathered | hsealed
    · exact absurd htold hgathered.told
    · exact ⟨hsealed.pending, hsealed.bodies⟩
  · rw [Session.snapshot, Session.openId, h.books.phase]
    rfl
  · rw [hchunks, ByteArray.size_append, size_joinBytes, h.books.sizes]

/-- An open upload holds the chunks taken in, cut into parts by the part size. -/
theorem buffered_of_run (config : UploadConfig) (name : String)
    (hrun : Run (start config name) trace w) (hopen : IsOpen id w.upload) :
    Buffered (max config.partSizeBytes 1) id w.upload.session trace := by
  obtain ⟨opened, busy⟩ := (stage_of_run hrun).opened_of_isOpen hopen
  exact opened.buffered busy (by omega)

/-- Three chunks and an empty one. The first part is acknowledged, and one byte is pending. -/
def halfway : List Transfer.Move :=
  [.tell .create, .reach .owner, .answer .owner, .tell (.accept ⟨#[1]⟩), .tell (.accept ⟨#[]⟩),
    .tell (.accept ⟨#[2, 3]⟩), .reach (.part 1), .tell (.accept ⟨#[4]⟩), .answer (.part 1)]

theorem buffered_of_run_halfway :
    ∃ trace w,
      (Transfer.start { partSizeBytes := 2 } "v" .empty).play halfway = some (trace, w) ∧
      chunksAccepted (trace.map Happening.seen) = [⟨#[1]⟩, ⟨#[]⟩, ⟨#[2, 3]⟩, ⟨#[4]⟩] ∧
      bodiesFlushed (trace.map Happening.seen) = [⟨#[1, 2, 3]⟩] ∧
      IsOpen "memory-upload-1" w.upload ∧
      Buffered 2 "memory-upload-1" w.upload.session (trace.map Happening.seen) := by
  obtain ⟨⟨trace, w⟩, hplay⟩ : ∃ r,
      (Transfer.start { partSizeBytes := 2 } "v" .empty).play halfway = some r :=
    Option.isSome_iff_exists.1 rfl
  have hread : ((Transfer.start { partSizeBytes := 2 } "v" .empty).play halfway).map
      (fun r => (r.2.upload.session.phase, r.2.upload.awaiting.isNone,
        chunksAccepted (r.1.map Happening.seen), bodiesFlushed (r.1.map Happening.seen))) =
      some (.opened "memory-upload-1", true, [⟨#[1]⟩, ⟨#[]⟩, ⟨#[2, 3]⟩, ⟨#[4]⟩],
        [⟨#[1, 2, 3]⟩]) := rfl
  rw [hplay] at hread
  obtain ⟨hphase, hidle, hchunks, hbodies⟩ : _ ∧ _ ∧ _ ∧ _ := by
    simpa only [Option.map_some, Option.some.injEq, Prod.mk.injEq] using hread
  have hopen := isOpen_of_idle hphase (Option.isNone_iff_eq_none.1 hidle)
  have hrun := (Transfer.run_iff_exists_play.2 ⟨_, hplay⟩).traffic
  exact ⟨trace, w, hplay, hchunks, hbodies, hopen,
    buffered_of_run { partSizeBytes := 2 } "v" hrun hopen⟩

end Traffic

end StudySession

import StudySession.Proofs.Upload.Standing

/-!
# Uploads arrive whole

Whatever the delays and the failures, and however the calls of the parts and of the owner
interleave: a completed upload has made an object of all chunks in the order they were given, from
the parts in the order they were flushed.
-/

namespace StudySession

namespace Transfer

variable {key : String} {first : MemoryStore} {w w' : Transfer} {trace : List Happening}
  {o : Happening} {c : CompletedUpload}

/-- A completed upload made an object of the chunks given in a run; `key` is the object's, and
`before` what the store had been told to complete earlier. -/
structure Arrived (key : String) (before : List (List CompletedPart)) (trace : List Happening)
    (w : Transfer) (c : CompletedUpload) : Prop where
  key_eq : c.key = key
  object : w.store.objects.get? key = some ⟨videoContentType, joinBytes (chunksGiven trace)⟩
  total : c.totalBytes = (joinBytes (chunksGiven trace)).size
  /-- The store was told to complete the upload once, from the parts that are reported. -/
  received : w.store.completions = before ++ [c.parts]
  /-- The parts are numbered from `1` on, without gap or repeat. -/
  numbers : c.parts.map (·.number) = List.range' 1 w.upload.session.parts.length
  submitted : w.upload.session.parts.length = (bodiesFlushed trace).length
  bodies : joinBytes (bodiesFlushed trace) = joinBytes (chunksGiven trace)
  /-- Each body's part is listed with the tag that was acknowledged under its number. -/
  tags : ∀ i body, (bodiesFlushed trace)[i]? = some body →
    c.parts[i]? = some ⟨i + 1, Tag.ofBody body⟩ ∧ Acknowledged trace (i + 1) (Tag.ofBody body)

/-- A step that completes an upload brings the answer to its completion. -/
theorem Step.completed (hstep : Step w o w') (hdone : .finished (.ok (.completed c)) ∈ o.effects) :
    ∃ id listed total asked attempt call tag,
      w.upload.awaiting = some (.store (.completing id listed total) asked attempt) ∧
      w.flying .owner = some ⟨call, some (.ok tag)⟩ ∧
      c = ⟨w.upload.session.key, id, listed, total⟩ ∧
      w'.upload.session.parts = w.upload.session.parts ∧ w'.store = w.store := by
  cases hstep with
  | tell idle react =>
      obtain ⟨id, listed, total, asked, attempt, tag, hevent, -⟩ :=
        Upload.react_completed react hdone
      cases hevent
  | reach expected flying perform => cases hdone
  | fail expected flying => cases hdone
  | answer expected flying react =>
      obtain ⟨id, listed, total, asked, attempt, tag, hevent, hawaiting, hc, rfl⟩ :=
        Upload.react_completed react hdone
      cases hevent
      exact ⟨id, listed, total, asked, attempt, _, tag, hawaiting, flying, hc, rfl, rfl⟩
  | die expected react =>
      obtain ⟨id, listed, total, asked, attempt, tag, hevent, -⟩ :=
        Upload.react_completed react hdone
      cases hevent

theorem Standing.arrived (h : Standing key first w trace) (hstep : Step w o w')
    (hdone : .finished (.ok (.completed c)) ∈ o.effects) :
    Arrived key first.completions trace w' c := by
  obtain ⟨id, listed, total, asked, attempt, call, tag, hawaiting, hflying, rfl, hparts, hstore⟩ :=
    hstep.completed hdone
  cases h with
  | fresh key_eq untouched completions awaiting => rw [awaiting] at hawaiting; cases hawaiting
  | creating key_eq untouched completions awaiting => rw [awaiting] at hawaiting; cases hawaiting
  | live opened rests =>
      rcases rests with hnone | ⟨hwaits, -⟩
      · rw [hnone] at hawaiting
        cases hawaiting
      · rw [hwaits] at hawaiting
        cases hawaiting
  | completing opened quiet empty acked awaiting flying unanswered =>
      rw [flying] at hflying
      exact absurd (Flight.mk.inj (Option.some.inj hflying)).2 (unanswered tag)
  | @assembled id listed total attempt tag key_eq books completions quiet empty acked tags awaiting
      flying object =>
      rw [awaiting] at hawaiting
      obtain ⟨hpurpose, -, -⟩ := Await.store.inj (Option.some.inj hawaiting)
      obtain ⟨rfl, rfl, rfl⟩ := Purpose.completing.inj hpurpose
      obtain ⟨hlisted, hnumbers, -⟩ := Session.forall₂_of_acknowledged acked
      -- nothing is pending, so the bodies flushed are all there is
      have hbodies : joinBytes (bodiesFlushed trace) = joinBytes (chunksGiven trace) := by
        rw [books.chunks, empty, ByteArray.append_empty]
      refine
        { key_eq := key_eq
          object := by rw [hstore, object, hbodies]
          total := by rw [books.total acked, hbodies]
          received := by rw [hstore, completions]
          numbers := by rw [hparts, hnumbers]
          submitted := by rw [hparts, books.count]
          bodies := hbodies
          tags := fun i body hbody => ?_ }
      obtain ⟨hi, hget⟩ := List.getElem?_eq_some_iff.1 hbody
      have hplace : i < listed.length := by rwa [tags.length_eq]
      have hpart := List.getElem?_eq_getElem hplace
      obtain ⟨hnumber, hack⟩ := books.listed acked hpart
      have htag : listed[i].eTag = Tag.ofBody body := by
        rw [← hget]
        exact (List.forall₂_iff_get.1 tags).2 i hplace hi
      rw [htag] at hack
      refine ⟨?_, hack⟩
      rw [hpart, ← hnumber, ← htag]
  | ended quiet ended =>
      cases ended with
      | failing awaiting => rw [awaiting] at hawaiting; cases hawaiting
      | aborting phase awaiting => rw [awaiting] at hawaiting; cases hawaiting
      | failed phase awaiting => rw [awaiting] at hawaiting; cases hawaiting
      | completed phase awaiting => rw [awaiting] at hawaiting; cases hawaiting

/-- A completed upload has arrived whole, whatever happened on the way. -/
theorem arrived_of_run (config : UploadConfig) (name : String) (store : MemoryStore)
    (hrun : Run (start config name store) trace w)
    (hbackground : ∀ o ∈ trace, o.sendsPart = false)
    (hstep : Step w o w') (hdone : .finished (.ok (.completed c)) ∈ o.effects) :
    Arrived (videoObjectKey name) store.completions trace w' c :=
  (standing_of_run hrun hbackground).arrived hstep hdone

/-- Three chunks in two parts. The second part is acknowledged while the first fails and has to be
sent again. -/
def outOfOrder : List Move :=
  [.tell .create, .reach .owner, .answer .owner,
    .tell (.accept ⟨#[1]⟩), .tell (.accept ⟨#[2]⟩), .tell (.accept ⟨#[3]⟩), .tell .complete,
    .reach (.part 2), .answer (.part 2),
    .fail (.part 1) (.transient "busy"), .answer (.part 1),
    .reach (.part 1), .answer (.part 1), .reach .owner]

theorem arrived_of_run_out_of_order :
    ∃ trace w w',
      (start { partSizeBytes := 2 } "v" .empty).play outOfOrder = some (trace, w) ∧
      chunksGiven trace = [⟨#[1]⟩, ⟨#[2]⟩, ⟨#[3]⟩] ∧
      Arrived (videoObjectKey "v") [] trace w'
        ⟨"v.webm", "memory-upload-1",
          [⟨1, Tag.ofBody ⟨#[1, 2]⟩⟩, ⟨2, Tag.ofBody ⟨#[3]⟩⟩], 3⟩ := by
  obtain ⟨⟨trace, w⟩, hplay⟩ : ∃ r,
      (start { partSizeBytes := 2 } "v" .empty).play outOfOrder = some r :=
    Option.isSome_iff_exists.1 rfl
  have hchunks : ((start { partSizeBytes := 2 } "v" .empty).play outOfOrder).map
      (fun r => chunksGiven r.1) = some [⟨#[1]⟩, ⟨#[2]⟩, ⟨#[3]⟩] := rfl
  have hbackground : ((start { partSizeBytes := 2 } "v" .empty).play outOfOrder).map
      (fun r => r.1.any Happening.sendsPart) = some false := rfl
  have hlast : ((start { partSizeBytes := 2 } "v" .empty).play outOfOrder).bind
      (fun r => (r.2.move? (.answer .owner)).map fun s => s.1.effects) =
      some [.finished (.ok (.completed ⟨"v.webm", "memory-upload-1",
        [⟨1, Tag.ofBody ⟨#[1, 2]⟩⟩, ⟨2, Tag.ofBody ⟨#[3]⟩⟩], 3⟩))] := rfl
  rw [hplay] at hchunks hbackground hlast
  obtain ⟨⟨o, w'⟩, hmove, heffects⟩ := Option.map_eq_some_iff.1 hlast
  refine ⟨trace, w, w', hplay, Option.some.inj hchunks, ?_⟩
  exact arrived_of_run { partSizeBytes := 2 } "v" .empty (run_iff_exists_play.2 ⟨_, hplay⟩)
    (by simpa using hbackground) (step_iff_exists_move.2 ⟨_, hmove⟩) (by rw [heffects]; simp)

end Transfer

end StudySession

import StudySession.Proofs.Upload.Gathering
import StudySession.Proofs.Upload.Traffic

/-!
# The progress of an open upload

Beside its books, an open upload keeps three things with the history of its run: how far each part
has come is entered (`Entries`), each task has its own call in the air (`Carried`), and the chunks
taken in are the bodies flushed and what is pending (`Gathered`), or only bodies once the rest was
flushed too (`Sealed`). One lemma each says what a kind of step does to them.
-/

namespace StudySession

namespace Traffic

open Transfer (Books TasksAmong)

/-- What the history of a run says of the parts is entered, and a part on its way is in flight. -/
structure Entries (s : Session) (trace : List Happening) : Prop where
  acknowledged : ∀ i tag, Acknowledged trace (i + 1) tag →
    ∃ p, s.parts[i]? = some p ∧ p.state = .acknowledged tag
  onWay : ∀ task ∈ s.tasks, ∀ i p, task.number = i + 1 → s.parts[i]? = some p →
    p.state = .inFlight

/-- A task has its own call in the air. -/
def Carried (s : Session) (flying : Caller → Option Flight) : Prop :=
  ∀ task ∈ s.tasks, ∀ f, flying (.part task.number) = some f → f.call = task.call

/-- The chunks taken in are the bodies flushed and what is pending, cut at the part size; the rest
was not flushed yet. -/
structure Gathered (size : Nat) (s : Session) (trace : List Happening) : Prop where
  told : lastCommand? trace ≠ some .complete
  bodies : bodiesFlushed trace = (Gathering.ofChunks size (chunksAccepted trace)).bodies
  pending : s.pending = (Gathering.ofChunks size (chunksAccepted trace)).rest

/-- The rest was flushed too, on the way to completing the upload. -/
structure Sealed (size : Nat) (s : Session) (trace : List Happening) : Prop where
  told : lastCommand? trace = some .complete
  bodies : bodiesFlushed trace = (Gathering.ofChunks size (chunksAccepted trace)).allBodies
  pending : s.pending = .empty

variable {size : Nat} {id : String} {trace : List Happening} {o : Happening} {s : Session}
  {flying : Caller → Option Flight} {task : PartTask}

/-! ## The entries -/

theorem acknowledged_snoc_iff {number : Nat} {tag : String} :
    Acknowledged (trace ++ [o]) number tag ↔ Acknowledged trace number tag ∨
      ∃ call effects, o = .answered (.part number) call (.ok tag) effects := by
  constructor
  · rintro ⟨call, effects, hmem⟩
    rcases List.mem_append.1 hmem with hmem | hmem
    · exact .inl ⟨call, effects, hmem⟩
    · exact .inr ⟨call, effects, (List.mem_singleton.1 hmem).symm⟩
  · rintro (hsofar | ⟨call, effects, rfl⟩)
    · exact hsofar.snoc
    · exact ⟨call, effects, List.mem_append_right _ (List.mem_singleton_self _)⟩

/-- What acknowledges no part changes no entry. -/
theorem Entries.snoc (h : Entries s trace)
    (hnone : ∀ number call tag effects, o ≠ .answered (.part number) call (.ok tag) effects) :
    Entries s (trace ++ [o]) := by
  refine ⟨fun i tag hacked => ?_, h.onWay⟩
  rcases acknowledged_snoc_iff.1 hacked with hacked | ⟨call, effects, ho⟩
  · exact h.acknowledged i tag hacked
  · exact absurd ho (hnone _ _ _ _)

theorem Entries.submit (h : Entries s trace) (body : ByteArray) (id : String) :
    Entries ({ s with pending := body }.submit id).1 trace := by
  constructor
  · intro i tag hacked
    obtain ⟨p, hp, hstate⟩ := h.acknowledged i tag hacked
    exact ⟨p, getElem?_append_of_eq_some hp, hstate⟩
  · intro task htask i p hnumber hp
    rcases getElem?_snoc_eq_some hp with hp | ⟨rfl, rfl⟩
    · rcases List.mem_append.1 htask with htask | htask
      · exact h.onWay task htask i p hnumber hp
      · -- the new task's part is behind all others
        obtain rfl := List.mem_singleton.1 htask
        have hlt : i < s.parts.length := (List.getElem?_eq_some_iff.1 hp).1
        have heq : s.parts.length + 1 = i + 1 := hnumber
        omega
    · rfl

theorem Entries.tasks (h : Entries s trace) {tasks : List PartTask}
    (htasks : TasksAmong tasks s.tasks) : Entries { s with tasks } trace := by
  refine ⟨h.acknowledged, fun task htask i p hnumber hp => ?_⟩
  obtain ⟨t, ht, hsame, -, -⟩ := htasks task htask
  exact h.onWay t ht i p (hsame ▸ hnumber) hp

/-- How far a part on its way has come is entered, where the history says the same. -/
theorem Entries.settle (h : Entries s trace) (books : Books id s trace) (htask : task ∈ s.tasks)
    {state : PartState} (hnew : ∀ number tag, Acknowledged (trace ++ [o]) number tag →
      Acknowledged trace number tag ∨ number = task.number ∧ state = .acknowledged tag) :
    Entries (s.settle task.number state) (trace ++ [o]) := by
  have hget : ∀ (i : Nat) (p : Part), s.parts[i]? = some p → (s.settle task.number state).parts[i]? =
      some (if p.number = task.number then { p with state } else p) := by
    intro i p hp
    simp only [Session.settle, List.getElem?_map, hp, Option.map_some]
  constructor
  · intro i tag hacked
    rcases hnew (i + 1) tag hacked with hacked | ⟨hnumber, rfl⟩
    · -- a part acknowledged before is not the one on its way
      obtain ⟨p, hp, hstate⟩ := h.acknowledged i tag hacked
      have hne : p.number ≠ task.number := by
        intro heq
        have hplace : task.number = i + 1 := heq ▸ (books.part i p hp).1
        rw [h.onWay task htask i p hplace hp] at hstate
        cases hstate
      refine ⟨p, ?_, hstate⟩
      rw [hget i p hp, if_neg hne]
    · obtain ⟨-, j, hj, hbody⟩ := books.task task htask
      obtain rfl : i = j := by omega
      have hlt : i < s.parts.length := by
        rw [books.count]
        exact (List.getElem?_eq_some_iff.1 hbody).1
      have hp := List.getElem?_eq_getElem hlt
      have hsame : s.parts[i].number = task.number := by rw [(books.part i _ hp).1, hj]
      refine ⟨{ s.parts[i] with state := .acknowledged tag }, ?_, rfl⟩
      rw [hget i _ hp, if_pos hsame]
  · intro other hother i p hnumber hp
    obtain ⟨hother, hne⟩ := List.mem_filter.1 hother
    have hne : other.number ≠ task.number := by simpa using hne
    simp only [Session.settle, List.getElem?_map] at hp
    obtain ⟨q, hq, rfl⟩ := Option.map_eq_some_iff.1 hp
    have hother' : q.number ≠ task.number := by rw [(books.part i q hq).1, ← hnumber]; exact hne
    rw [if_neg hother']
    exact h.onWay other hother i q hnumber hq

/-! ## The calls of the parts -/

/-- Tasks of one number make one call. -/
theorem call_eq_of_number_eq (books : Books id s trace) {other : PartTask} (htask : task ∈ s.tasks)
    (hother : other ∈ s.tasks) (hnumber : other.number = task.number) : other.call = task.call := by
  obtain ⟨hcall, i, hi, hbody⟩ := books.task other hother
  obtain ⟨hcall', -⟩ := books.task task htask
  have hsame : other.body = task.body := books.body_unique htask (by omega) hbody
  rw [hcall, hcall', hnumber, hsame]

/-- A task's call is made, answered or made again. -/
theorem Carried.update (h : Carried s flying) (books : Books id s trace) (htask : task ∈ s.tasks)
    {f : Option Flight} (hf : ∀ flight, f = some flight → flight.call = task.call) :
    Carried s (Function.update flying (.part task.number) f) := by
  intro other hother flight hflight
  by_cases hsame : other.number = task.number
  · rw [hsame, Function.update_self] at hflight
    rw [hf flight hflight, call_eq_of_number_eq books htask hother hsame]
  · have hne : Caller.part other.number ≠ .part task.number := fun heq =>
      hsame (Caller.part.inj heq)
    rw [Function.update_of_ne hne] at hflight
    exact h other hother flight hflight

theorem Carried.owner (h : Carried s flying) (f : Option Flight) :
    Carried s (Function.update flying .owner f) := by
  intro task htask flight hflight
  rw [Transfer.update_owner_part] at hflight
  exact h task htask flight hflight

theorem Carried.tasks (h : Carried s flying) {s' : Session} (htasks : TasksAmong s'.tasks s.tasks) :
    Carried s' flying := by
  intro task htask flight hflight
  obtain ⟨t, ht, hnumber, -, hcall⟩ := htasks task htask
  rw [hcall]
  exact h t ht flight (hnumber ▸ hflight)

theorem Carried.submit (h : Carried s flying) (books : Books id s trace) (body : ByteArray) :
    Carried ({ s with pending := body }.submit id).1
      (Function.update flying (.part (s.parts.length + 1))
        (some ⟨.part s.key id (s.parts.length + 1) body, none⟩)) := by
  intro task htask flight hflight
  rcases List.mem_append.1 htask with htask | htask
  · -- earlier tasks carry earlier numbers
    have hne : Caller.part task.number ≠ .part (s.parts.length + 1) := by
      obtain ⟨-, i, hnumber, hi⟩ := books.task task htask
      have hlt := (List.getElem?_eq_some_iff.1 hi).1
      rw [← books.count] at hlt
      intro heq
      have := Caller.part.inj heq
      omega
    rw [Function.update_of_ne hne] at hflight
    exact h task htask flight hflight
  · obtain rfl := List.mem_singleton.1 htask
    rw [show (Caller.part _) = .part (s.parts.length + 1) from rfl, Function.update_self] at hflight
    obtain rfl := Option.some.inj hflight
    rfl

/-! ## The chunks -/

/-- What is no command leaves the gathered chunks as they are. -/
theorem Gathered.snoc (h : Gathered size s trace) {s' : Session} (hpending : s'.pending = s.pending)
    (hnone : o.command? = none) : Gathered size s' (trace ++ [o]) := by
  have hchunks : chunksAccepted (trace ++ [o]) = chunksAccepted trace := by
    simp [chunksAccepted_snoc, Happening.accepted?_of_command? hnone]
  refine ⟨?_, ?_, ?_⟩
  · rw [lastCommand?_snoc_of_none hnone]
    exact h.told
  · rw [bodiesFlushed_snoc_of_none (Happening.flushed_of_command? hnone), hchunks, h.bodies]
  · rw [hpending, hchunks, h.pending]

theorem Sealed.snoc (h : Sealed size s trace) {s' : Session} (hpending : s'.pending = s.pending)
    (hnone : o.command? = none) : Sealed size s' (trace ++ [o]) := by
  have hchunks : chunksAccepted (trace ++ [o]) = chunksAccepted trace := by
    simp [chunksAccepted_snoc, Happening.accepted?_of_command? hnone]
  refine ⟨?_, ?_, hpending.trans h.pending⟩
  · rw [lastCommand?_snoc_of_none hnone]
    exact h.told
  · rw [bodiesFlushed_snoc_of_none (Happening.flushed_of_command? hnone), hchunks, h.bodies]

/-- A command that brings no chunk and flushes nothing leaves the gathered chunks as they are. -/
theorem Gathered.told_snoc (h : Gathered size s trace) {c : Command} {effects : List Effect}
    (hc : c ≠ .complete) (haccepted : (Happening.told c effects).accepted? = none)
    (hflushed : (Happening.told c effects).flushed = []) :
    Gathered size s (trace ++ [.told c effects]) := by
  refine ⟨?_, ?_, ?_⟩
  · rw [lastCommand?_snoc_of_some rfl]
    exact fun heq => hc (Option.some.inj heq)
  · rw [bodiesFlushed_snoc_of_none hflushed, chunksAccepted_snoc, haccepted, h.bodies]
    simp
  · rw [chunksAccepted_snoc, haccepted, h.pending]
    simp

/-- A chunk that does not fill the part is gathered. -/
theorem Gathered.gather (h : Gathered size s trace) (hsize : 0 < size) {chunk : ByteArray}
    (hfew : chunk.isEmpty = true ∨ (s.pending ++ chunk).size < size) :
    Gathered size { s with pending := s.pending ++ chunk }
      (trace ++ [.told (.accept chunk) [.finished (.ok .done)]]) := by
  have hchunks : chunksAccepted (trace ++ [.told (.accept chunk) [.finished (.ok .done)]]) =
      chunksAccepted trace ++ [chunk] := chunksAccepted_snoc
  have hlt : ((Gathering.ofChunks size (chunksAccepted trace)).rest ++ chunk).size < size := by
    rw [← h.pending]
    rcases hfew with hempty | hfew
    · -- an empty chunk leaves what was too little before
      have hnone : chunk.size = 0 := by simpa [ByteArray.isEmpty] using hempty
      have hcut := (Gathering.cuts_ofChunks hsize (chunksAccepted trace)).few
      have hpending : s.pending.size < size := by rw [h.pending]; exact hcut
      rw [ByteArray.size_append]
      omega
    · exact hfew
  obtain ⟨hbodies, hrest⟩ := Gathering.bodies_take_of_lt hlt
  refine ⟨?_, ?_, ?_⟩
  · rw [lastCommand?_snoc_of_some rfl]
    simp
  · rw [bodiesFlushed_snoc_of_none rfl, hchunks, Gathering.ofChunks_snoc, hbodies, h.bodies]
  · rw [hchunks, Gathering.ofChunks_snoc, hrest, ← h.pending]

/-- A chunk that fills the part is flushed with what was pending. -/
theorem Gathered.flush (h : Gathered size s trace) {chunk : ByteArray} {effects : List Effect}
    (henough : size ≤ (s.pending ++ chunk).size)
    (haccepted : (Happening.told (.accept chunk) effects).accepted? = some chunk)
    (hflushed : (Happening.told (.accept chunk) effects).flushed = [s.pending ++ chunk])
    {s' : Session} (hpending : s'.pending = .empty) :
    Gathered size s' (trace ++ [.told (.accept chunk) effects]) := by
  rw [h.pending] at henough hflushed
  obtain ⟨hbodies, hrest⟩ := Gathering.bodies_take_of_le henough
  refine ⟨?_, ?_, ?_⟩
  · rw [lastCommand?_snoc_of_some rfl]
    simp
  · rw [bodiesFlushed_snoc, hflushed, chunksAccepted_snoc, haccepted, Option.toList_some,
      Gathering.ofChunks_snoc, hbodies, h.bodies]
  · rw [chunksAccepted_snoc, haccepted, Option.toList_some, Gathering.ofChunks_snoc, hrest,
      hpending]

/-- Completing an upload flushes the rest, if there is any. -/
theorem Gathered.seal (h : Gathered size s trace) {effects : List Effect}
    (hflushed : (Happening.told .complete effects).flushed =
      if s.pending.isEmpty then [] else [s.pending])
    {s' : Session} (hpending : s'.pending = .empty) :
    Sealed size s' (trace ++ [.told .complete effects]) := by
  refine ⟨lastCommand?_snoc_of_some rfl, ?_, hpending⟩
  have hchunks : chunksAccepted (trace ++ [.told .complete effects]) = chunksAccepted trace := by
    rw [chunksAccepted_snoc]
    exact List.append_nil _
  rw [bodiesFlushed_snoc, hflushed, hchunks, h.bodies, h.pending]
  rfl

theorem Gathered.chunks (h : Gathered size s trace) (hsize : 0 < size) :
    joinBytes (chunksAccepted trace) = joinBytes (bodiesFlushed trace) ++ s.pending := by
  have hcuts := Gathering.cuts_ofChunks hsize (chunksAccepted trace)
  rw [h.bodies, h.pending, hcuts.joinBytes_bodies]

theorem Sealed.chunks (h : Sealed size s trace) (hsize : 0 < size) :
    joinBytes (chunksAccepted trace) = joinBytes (bodiesFlushed trace) ++ s.pending := by
  have hcuts := Gathering.cuts_ofChunks hsize (chunksAccepted trace)
  rw [h.bodies, h.pending, Gathering.joinBytes_allBodies, hcuts.joinBytes_bodies,
    ByteArray.append_empty]

end Traffic

end StudySession

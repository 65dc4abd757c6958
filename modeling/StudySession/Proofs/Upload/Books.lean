import StudySession.Proofs.Upload.Transfer
import StudySession.Proofs.Upload.Assembly

/-!
# The books of an upload

While an upload is open, the chunks given are the bodies flushed and what is pending (`Books`), and
the store holds, under its number and tag, the body of each acknowledged part and of each part whose
answer is on its way (`Holds`). Each task carries the body that was flushed under its number, so it
does not matter when its call reaches the store, or how often.
-/

namespace StudySession

/-- What a longer list holds at a place: what it held there, or its last item. -/
theorem getElem?_snoc_eq_some {α : Type} {xs : List α} {x y : α} {i : Nat}
    (h : (xs ++ [x])[i]? = some y) : xs[i]? = some y ∨ i = xs.length ∧ y = x := by
  rcases Nat.lt_trichotomy i xs.length with hlt | rfl | hgt
  · rw [List.getElem?_append_left hlt] at h
    exact .inl h
  · rw [List.getElem?_concat_length] at h
    exact .inr ⟨rfl, (Option.some.inj h).symm⟩
  · rw [List.getElem?_eq_none (by simp only [List.length_append, List.length_singleton]; omega)] at h
    cases h

theorem getElem?_append_of_eq_some {α : Type} {xs ys : List α} {x : α} {i : Nat}
    (h : xs[i]? = some x) : (xs ++ ys)[i]? = some x := by
  rw [List.getElem?_append_left (List.getElem?_eq_some_iff.1 h).1, h]

namespace Transfer

/-- An open session and the history of the run agree. -/
structure Books (id : String) (s : Session) (trace : List Happening) : Prop where
  phase : s.phase = .opened id
  opened : trace.any Happening.opens = true
  /-- The chunks given are the bodies flushed and what is pending. -/
  chunks : joinBytes (chunksGiven trace) = joinBytes (bodiesFlushed trace) ++ s.pending
  count : s.parts.length = (bodiesFlushed trace).length
  /-- The parts are numbered in the order of the bodies. -/
  part : ∀ i p, s.parts[i]? = some p → p.number = i + 1 ∧
    (bodiesFlushed trace)[i]?.map (·.size) = some p.size ∧
    ∀ tag, p.state = .acknowledged tag → Acknowledged trace (i + 1) tag
  /-- A task carries the body of its part. -/
  task : ∀ task ∈ s.tasks, task.call = .part s.key id task.number task.body ∧
    ∃ i, task.number = i + 1 ∧ (bodiesFlushed trace)[i]? = some task.body

/-- The store holds what it has acknowledged to the parts of an open session. -/
structure Holds (id : String) (bodies : List ByteArray) (s : Session) (store : MemoryStore)
    (flying : Caller → Option Flight) (upload : PendingUpload) : Prop where
  found : store.pending.get? id = some upload
  key_eq : upload.key = s.key
  type_eq : upload.contentType = videoContentType
  /-- The body of an acknowledged part is there under its number and tag. -/
  part : ∀ i p tag, s.parts[i]? = some p → p.state = .acknowledged tag →
    ∃ body, bodies[i]? = some body ∧ tag = Tag.ofBody body ∧
      upload.parts.lookup (i + 1) = some body
  /-- So is the body of a part whose answer is on its way. -/
  flight : ∀ task ∈ s.tasks, ∀ f, flying (.part task.number) = some f → f.call = task.call ∧
    ∀ tag, f.answer = some (.ok tag) → tag = Tag.ofBody task.body ∧
      upload.parts.lookup task.number = some task.body

/-- Tasks that are among others, but for how often their calls were made. -/
def TasksAmong (tasks others : List PartTask) : Prop :=
  ∀ task ∈ tasks, ∃ t ∈ others, task.number = t.number ∧ task.body = t.body ∧ task.call = t.call

theorem TasksAmong.refl (tasks : List PartTask) : TasksAmong tasks tasks :=
  fun task htask => ⟨task, htask, rfl, rfl, rfl⟩

theorem TasksAmong.nil (others : List PartTask) : TasksAmong [] others := nofun

theorem tasksAmong_filter (p : PartTask → Bool) (tasks : List PartTask) :
    TasksAmong (tasks.filter p) tasks :=
  fun task htask => ⟨task, (List.mem_filter.1 htask).1, rfl, rfl, rfl⟩

theorem tasksAmong_again (number : Nat) (tasks : List PartTask) :
    TasksAmong
      (tasks.map fun t => if t.number = number then { t with attempt := t.attempt + 1 } else t)
      tasks := by
  intro task htask
  obtain ⟨t, ht, rfl⟩ := List.mem_map.1 htask
  refine ⟨t, ht, ?_⟩
  split <;> exact ⟨rfl, rfl, rfl⟩

variable {id : String} {s : Session} {trace : List Happening} {o : Happening} {store : MemoryStore}
  {flying : Caller → Option Flight} {upload : PendingUpload} {bodies : List ByteArray}

/-! ## The books -/

/-- What happens adds its chunk to what is pending, as long as nothing is flushed. -/
theorem Books.note (h : Books id s trace) (hflushed : o.flushed = []) :
    Books id { s with pending := s.pending ++ joinBytes o.chunk?.toList } (trace ++ [o]) := by
  have hbodies : bodiesFlushed (trace ++ [o]) = bodiesFlushed trace :=
    bodiesFlushed_snoc_of_none hflushed
  refine { phase := h.phase, opened := ?_, chunks := ?_, count := ?_, part := ?_, task := ?_ }
  · rw [List.any_append, h.opened, Bool.true_or]
  · rw [chunksGiven_snoc h.opened, hbodies, joinBytes_append, h.chunks, ByteArray.append_assoc]
  · rw [hbodies, h.count]
  · intro i p hp
    obtain ⟨hnumber, hsize, hacked⟩ := h.part i p hp
    rw [hbodies]
    exact ⟨hnumber, hsize, fun tag htag => (hacked tag htag).snoc⟩
  · rw [hbodies]
    exact h.task

/-- What brings no chunk and flushes nothing leaves the books as they are. -/
theorem Books.snoc (h : Books id s trace) (hchunk : o.chunk? = none) (hflushed : o.flushed = []) :
    Books id s (trace ++ [o]) := by
  have hnoted := h.note hflushed
  rwa [hchunk, Option.toList_none, joinBytes_nil, ByteArray.append_empty] at hnoted

/-- What is flushed is the body of the next part. -/
theorem Books.flush (h : Books id s trace) {body : ByteArray} (hflushed : o.flushed = [body])
    (hbody : body = s.pending ++ joinBytes o.chunk?.toList) :
    Books id ({ s with pending := body }.submit id).1 (trace ++ [o]) := by
  have hbodies : bodiesFlushed (trace ++ [o]) = bodiesFlushed trace ++ [body] := by
    rw [bodiesFlushed_snoc, hflushed]
  refine { phase := h.phase, opened := ?_, chunks := ?_, count := ?_, part := ?_, task := ?_ }
  · rw [List.any_append, h.opened, Bool.true_or]
  · rw [chunksGiven_snoc h.opened, hbodies, joinBytes_append, h.chunks, joinBytes_append,
      joinBytes_cons, joinBytes_nil, ByteArray.append_empty, ByteArray.append_assoc, ← hbody]
    exact ByteArray.append_empty.symm
  · rw [hbodies, List.length_append, ← h.count]
    exact List.length_append
  · intro i p hp
    rw [hbodies]
    -- an earlier part, or the one that is flushed now
    rcases getElem?_snoc_eq_some hp with hp | ⟨rfl, rfl⟩
    · obtain ⟨hnumber, hsize, hacked⟩ := h.part i p hp
      refine ⟨hnumber, ?_, fun tag htag => (hacked tag htag).snoc⟩
      obtain ⟨b, hb, hbsize⟩ := Option.map_eq_some_iff.1 hsize
      rw [getElem?_append_of_eq_some hb, Option.map_some, hbsize]
    · refine ⟨rfl, ?_, by simp⟩
      rw [h.count, List.getElem?_concat_length]
      rfl
  · intro task htask
    rw [hbodies]
    rcases List.mem_append.1 htask with htask | htask
    · obtain ⟨hcall, i, hnumber, hi⟩ := h.task task htask
      exact ⟨hcall, i, hnumber, getElem?_append_of_eq_some hi⟩
    · obtain rfl := List.mem_singleton.1 htask
      refine ⟨rfl, s.parts.length, rfl, ?_⟩
      rw [h.count, List.getElem?_concat_length]

/-- The parts of a session in which one was settled. -/
theorem getElem?_settle {number : Nat} {state : PartState} {i : Nat} {p : Part}
    (h : (s.settle number state).parts[i]? = some p) :
    ∃ q, s.parts[i]? = some q ∧ p.number = q.number ∧ p.size = q.size ∧
      (p.state = q.state ∨ p.state = state ∧ q.number = number) := by
  simp only [Session.settle, List.getElem?_map] at h
  obtain ⟨q, hq, rfl⟩ := Option.map_eq_some_iff.1 h
  refine ⟨q, hq, ?_⟩
  by_cases hnumber : q.number = number
  · rw [if_pos hnumber]
    exact ⟨rfl, rfl, .inr ⟨rfl, hnumber⟩⟩
  · rw [if_neg hnumber]
    exact ⟨rfl, rfl, .inl rfl⟩

/-- How far a part has come is entered, and its task taken off. -/
theorem Books.settle (h : Books id s trace) {number : Nat} {state : PartState}
    (hacked : ∀ tag, state = .acknowledged tag → Acknowledged trace number tag) :
    Books id (s.settle number state) trace := by
  refine { h with part := ?_, task := ?_, count := ?_ }
  · rw [← h.count]
    exact List.length_map _
  · intro i p hp
    obtain ⟨q, hq, hnumber, hsize, hstate⟩ := getElem?_settle hp
    obtain ⟨hqnumber, hqsize, hqacked⟩ := h.part i q hq
    refine ⟨hnumber.trans hqnumber, hsize ▸ hqsize, fun tag htag => ?_⟩
    rcases hstate with hstate | ⟨hstate, hthis⟩
    · exact hqacked tag (hstate ▸ htag)
    · rw [← hqnumber, hthis]
      exact hacked tag (hstate ▸ htag)
  · intro task htask
    exact h.task task (List.mem_filter.1 htask).1

/-- Tasks may go, or try again. -/
theorem Books.tasks (h : Books id s trace) {tasks : List PartTask}
    (htasks : TasksAmong tasks s.tasks) : Books id { s with tasks } trace := by
  refine { h with task := ?_ }
  intro task htask
  obtain ⟨t, ht, hnumber, hbody, hcall⟩ := htasks task htask
  rw [hnumber, hbody, hcall]
  exact h.task t ht

/-! ## What the store holds -/

/-- Only the parts, the tasks and the calls of the tasks matter. -/
theorem Holds.congr (h : Holds id bodies s store flying upload) {s' : Session}
    {flying' : Caller → Option Flight} (hkey : s'.key = s.key) (hparts : s'.parts = s.parts)
    (htasks : s'.tasks = s.tasks) (hflying : ∀ n, flying' (.part n) = flying (.part n)) :
    Holds id bodies s' store flying' upload := by
  refine { found := h.found, key_eq := ?_, type_eq := h.type_eq, part := ?_, flight := ?_ }
  · rw [hkey, h.key_eq]
  · rw [hparts]
    exact h.part
  · intro task htask f hf
    rw [htasks] at htask
    rw [hflying] at hf
    exact h.flight task htask f hf

/-- What flushes nothing adds no body. -/
theorem Holds.snoc (h : Holds id (bodiesFlushed trace) s store flying upload)
    (hflushed : o.flushed = []) :
    Holds id (bodiesFlushed (trace ++ [o])) s store flying upload := by
  rwa [bodiesFlushed_snoc_of_none hflushed]

/-- A part that was just flushed has yet to reach the store. -/
theorem Holds.flush (h : Holds id bodies s store flying upload) (books : Books id s trace)
    (body : ByteArray) :
    Holds id (bodies ++ [body]) ({ s with pending := body }.submit id).1 store
      (Function.update flying (.part (s.parts.length + 1))
        (some ⟨.part s.key id (s.parts.length + 1) body, none⟩)) upload := by
  refine { found := h.found, key_eq := h.key_eq, type_eq := h.type_eq, part := ?_, flight := ?_ }
  · intro i p tag hp htag
    rcases getElem?_snoc_eq_some hp with hp | ⟨rfl, rfl⟩
    · obtain ⟨b, hb, htag, hstored⟩ := h.part i p tag hp htag
      exact ⟨b, getElem?_append_of_eq_some hb, htag, hstored⟩
    · cases htag
  · intro task htask f hf
    rcases List.mem_append.1 htask with htask | htask
    · -- earlier tasks carry earlier numbers
      have hne : Caller.part task.number ≠ .part (s.parts.length + 1) := by
        obtain ⟨-, i, hnumber, hi⟩ := books.task task htask
        have hlt := (List.getElem?_eq_some_iff.1 hi).1
        rw [← books.count] at hlt
        intro heq
        have := Caller.part.inj heq
        omega
      rw [Function.update_of_ne hne] at hf
      exact h.flight task htask f hf
    · obtain rfl := List.mem_singleton.1 htask
      rw [show (Caller.part _) = .part (s.parts.length + 1) from rfl, Function.update_self] at hf
      obtain rfl := Option.some.inj hf
      exact ⟨rfl, by simp⟩

/-- Tasks of one number carry one body. -/
theorem Books.body_unique (h : Books id s trace) {task : PartTask} (htask : task ∈ s.tasks) {i : Nat}
    (hi : i + 1 = task.number) {body : ByteArray}
    (hbody : (bodiesFlushed trace)[i]? = some body) : body = task.body := by
  obtain ⟨-, j, hnumber, hj⟩ := h.task task htask
  obtain rfl : i = j := by omega
  exact Option.some.inj (hbody.symm.trans hj)

theorem Holds.perform (h : Holds id bodies s store flying upload) (books : Books id s trace)
    {task : PartTask} (htask : task ∈ s.tasks) :
    store.perform task.call = (.ok (Tag.ofBody task.body),
      { store with
        pending := store.pending.insert id
          { upload with
            parts := MemoryStore.putPart task.number task.body upload.parts } }) := by
  obtain ⟨hcall, -⟩ := books.task task htask
  rw [hcall]
  exact MemoryStore.uploadPart_of_pending h.found h.key_eq task.number task.body

/-- Putting the body of a task leaves what is held of the bodies flushed: one that is put in place
of another is the same. -/
theorem Books.lookup_putPart (h : Books id s trace) {task : PartTask} (htask : task ∈ s.tasks)
    {i : Nat} {body : ByteArray} (hbody : (bodiesFlushed trace)[i]? = some body)
    {parts : List (Nat × ByteArray)} (hstored : parts.lookup (i + 1) = some body) :
    (MemoryStore.putPart task.number task.body parts).lookup (i + 1) = some body := by
  rw [MemoryStore.lookup_putPart]
  by_cases hnumber : i + 1 = task.number
  · rw [if_pos hnumber, h.body_unique htask hnumber hbody]
  · rw [if_neg hnumber, hstored]

/-- The body of a task that reaches the store is kept, in place of the same body. -/
theorem Holds.reach (h : Holds id (bodiesFlushed trace) s store flying upload)
    (books : Books id s trace) {task : PartTask} (htask : task ∈ s.tasks) :
    ∃ store' upload',
      store.perform task.call = (.ok (Tag.ofBody task.body), store') ∧
        store'.completions = store.completions ∧
        Holds id (bodiesFlushed trace) s store'
          (Function.update flying (.part task.number)
            (some ⟨task.call, some (.ok (Tag.ofBody task.body))⟩)) upload' := by
  obtain ⟨hcall, -⟩ := books.task task htask
  refine ⟨_, { upload with parts := MemoryStore.putPart task.number task.body upload.parts },
    h.perform books htask, rfl, ?_⟩
  refine { found := ?_, key_eq := h.key_eq, type_eq := h.type_eq, part := ?_, flight := ?_ }
  · exact Dict.get?_insert_self _ _ _
  · intro i p tag hp htag
    obtain ⟨body, hbody, htag, hstored⟩ := h.part i p tag hp htag
    exact ⟨body, hbody, htag, books.lookup_putPart htask hbody hstored⟩
  · intro other hother f hf
    obtain ⟨hothercall, i, hnumber, hi⟩ := books.task other hother
    by_cases hsame : other.number = task.number
    · -- this is the call that has just reached the store
      have hbody := books.body_unique htask (by omega : i + 1 = task.number) hi
      rw [hsame, Function.update_self] at hf
      obtain rfl := Option.some.inj hf
      refine ⟨by rw [hothercall, hcall, hsame, hbody], fun tag htag => ?_⟩
      rw [hsame, MemoryStore.lookup_putPart, if_pos rfl, hbody]
      exact ⟨(Except.ok.inj (Option.some.inj htag)).symm, rfl⟩
    · have hne : Caller.part other.number ≠ .part task.number := fun heq =>
        hsame (Caller.part.inj heq)
      rw [Function.update_of_ne hne] at hf
      obtain ⟨hfcall, hfanswer⟩ := h.flight other hother f hf
      refine ⟨hfcall, fun tag htag => ?_⟩
      obtain ⟨htag, hstored⟩ := hfanswer tag htag
      rw [hnumber] at hstored ⊢
      exact ⟨htag, books.lookup_putPart htask hi hstored⟩

/-- A call of a task that fails, or is made again, leaves nothing behind. -/
theorem Holds.unanswered (h : Holds id bodies s store flying upload) (books : Books id s trace)
    {task : PartTask} (htask : task ∈ s.tasks) {f : Option Flight}
    (hf : ∀ flight, f = some flight → flight.call = task.call ∧ ∀ tag, flight.answer ≠ some (.ok tag)) :
    Holds id bodies s store (Function.update flying (.part task.number) f) upload := by
  refine { h with flight := ?_ }
  intro other hother flight hflight
  by_cases hsame : other.number = task.number
  · rw [hsame, Function.update_self] at hflight
    obtain ⟨hcall, hanswer⟩ := hf flight hflight
    obtain ⟨hothercall, i, hnumber, hi⟩ := books.task other hother
    have hbody := books.body_unique htask (by omega : i + 1 = task.number) hi
    obtain ⟨htaskcall, -⟩ := books.task task htask
    refine ⟨by rw [hcall, hothercall, htaskcall, hsame, hbody], fun tag htag => ?_⟩
    exact absurd htag (hanswer tag)
  · have hne : Caller.part other.number ≠ .part task.number := fun heq =>
      hsame (Caller.part.inj heq)
    rw [Function.update_of_ne hne] at hflight
    exact h.flight other hother flight hflight

/-- How far a part has come is entered; where it is acknowledged, the store holds it. -/
theorem Holds.settle (h : Holds id bodies s store flying upload) (books : Books id s trace)
    {number : Nat} {state : PartState}
    (hstate : ∀ tag, state = .acknowledged tag → ∃ i body, number = i + 1 ∧ bodies[i]? = some body ∧
      tag = Tag.ofBody body ∧ upload.parts.lookup number = some body) :
    Holds id bodies (s.settle number state) store flying upload := by
  refine { h with part := ?_, flight := ?_, key_eq := h.key_eq }
  · intro i p tag hp htag
    obtain ⟨q, hq, -, -, hpstate⟩ := getElem?_settle hp
    rcases hpstate with hpstate | ⟨hpstate, hnumber⟩
    · exact h.part i q tag hq (hpstate ▸ htag)
    · obtain ⟨j, body, hj, hbody, htag, hstored⟩ := hstate tag (hpstate ▸ htag)
      obtain ⟨hqnumber, -⟩ := books.part i q hq
      obtain rfl : i = j := by omega
      exact ⟨body, hbody, htag, hj ▸ hstored⟩
  · intro task htask
    exact h.flight task (List.mem_filter.1 htask).1

/-- Tasks may go, or try again. -/
theorem Holds.tasks (h : Holds id bodies s store flying upload) {tasks : List PartTask}
    (htasks : TasksAmong tasks s.tasks) :
    Holds id bodies { s with tasks } store flying upload := by
  refine { h with flight := ?_, key_eq := h.key_eq }
  intro task htask
  obtain ⟨t, ht, hnumber, hbody, hcall⟩ := htasks task htask
  rw [hnumber, hbody, hcall]
  exact h.flight t ht

/-! ## What an upload is completed from -/

/-- The parts that are listed are held with the bodies flushed, in order. -/
theorem Holds.listed (h : Holds id (bodiesFlushed trace) s store flying upload)
    (books : Books id s trace) {listed : List CompletedPart} {total : Nat}
    (hacked : Session.acknowledged 1 s.parts = .ok (listed, total)) :
    List.Forall₂ (fun part body =>
      upload.parts.lookup part.number = some body ∧ Tag.ofBody body = part.eTag) listed
      (bodiesFlushed trace) := by
  obtain ⟨hparts, -, -⟩ := Session.forall₂_of_acknowledged hacked
  have hlength : listed.length = (bodiesFlushed trace).length := by
    rw [← hparts.length_eq, books.count]
  refine List.forall₂_iff_get.2 ⟨hlength, fun i hi hb => ?_⟩
  have hp : i < s.parts.length := by rwa [hparts.length_eq]
  have hpart : s.parts[i]? = some (s.parts.get ⟨i, hp⟩) := List.getElem?_eq_getElem hp
  obtain ⟨hnumber, hstate⟩ := (List.forall₂_iff_get.1 hparts).2 i hp hi
  obtain ⟨body, hbody, htag, hstored⟩ := h.part i _ _ hpart hstate
  obtain rfl : (bodiesFlushed trace).get ⟨i, hb⟩ = body := by
    rw [List.getElem?_eq_getElem hb] at hbody
    exact Option.some.inj hbody
  rw [hnumber, (books.part i _ hpart).1]
  exact ⟨hstored, htag.symm⟩

/-- The parts are numbered from `1` on. -/
theorem Books.numbers (h : Books id s trace) :
    s.parts.map (·.number) = List.range' 1 (bodiesFlushed trace).length := by
  refine List.ext_getElem (by simp [h.count]) fun i hi _ => ?_
  have hp : i < s.parts.length := by simpa using hi
  obtain ⟨hnumber, -, -⟩ := h.part i _ (List.getElem?_eq_getElem hp)
  rw [List.getElem_map, hnumber, List.getElem_range']
  omega

/-- The parts have the sizes of the bodies flushed. -/
theorem Books.sizes (h : Books id s trace) :
    s.parts.map (·.size) = (bodiesFlushed trace).map (·.size) := by
  refine List.ext_getElem? fun i => ?_
  rw [List.getElem?_map, List.getElem?_map]
  cases hp : s.parts[i]? with
  | some p => rw [(h.part i p hp).2.1, Option.map_some]
  | none =>
      rw [List.getElem?_eq_none_iff, h.count, ← List.getElem?_eq_none_iff] at hp
      rw [hp, Option.map_none, Option.map_none]

/-- The parts that are listed have the bytes of the bodies flushed. -/
theorem Books.total (h : Books id s trace) {listed : List CompletedPart} {total : Nat}
    (hacked : Session.acknowledged 1 s.parts = .ok (listed, total)) :
    total = (joinBytes (bodiesFlushed trace)).size := by
  obtain ⟨-, -, htotal⟩ := Session.forall₂_of_acknowledged hacked
  rw [htotal, size_joinBytes, h.sizes]

/-- A listed part has the number of its place, and its tag was acknowledged under it. -/
theorem Books.listed (h : Books id s trace) {listed : List CompletedPart} {total : Nat}
    (hacked : Session.acknowledged 1 s.parts = .ok (listed, total)) {i : Nat}
    {part : CompletedPart} (hi : listed[i]? = some part) :
    part.number = i + 1 ∧ Acknowledged trace (i + 1) part.eTag := by
  obtain ⟨hparts, -, -⟩ := Session.forall₂_of_acknowledged hacked
  obtain ⟨hlisted, rfl⟩ := List.getElem?_eq_some_iff.1 hi
  have hp : i < s.parts.length := by rwa [hparts.length_eq]
  obtain ⟨hnumber, hstate⟩ := (List.forall₂_iff_get.1 hparts).2 i hp hlisted
  obtain ⟨hplace, -, hacks⟩ := h.part i _ (List.getElem?_eq_getElem hp)
  exact ⟨hnumber.trans hplace, hacks _ hstate⟩

end Transfer

end StudySession

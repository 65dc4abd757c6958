import Mathlib.Data.List.NodupEquivFin
import StudySession.Proofs.Recorder.Fronts
import StudySession.Proofs.Upload.Cargo

/-!
# What pumps have read

Of every chunk that the stream of a recording has brought it is known where it is: taken in by the
upload, or still in the queue of the pump (`Flow.reading`); once the pump has completed the upload,
all of them are in the object (`Flow.stored`), and where the upload was lost nothing is promised.
When one recording goes on, the others are where they were (`Flowing.advance`), although they share
the store.
-/

namespace StudySession

/-! ## One upload goes on -/

/-- One upload of a timeline goes on; what the others have on the store stays. -/
structure Timeline.Advances (t t' : Timeline) (i : Nat) (u v : Upload) : Prop where
  found : t.uploads[i]? = some u
  uploads : t'.uploads = t.uploads.set i v
  key : v.session.key = u.session.key
  spares : t.Spares i t'.store.memory
  fleet : ∃ given, Fleet t' given

namespace Timeline.Advances

variable {t t' t'' : Timeline} {i : Nat} {u v v' : Upload} {given : Nat → Option String}

theorem lt_length (h : t.Advances t' i u v) : i < t.uploads.length :=
  (List.getElem?_eq_some_iff.1 h.found).1

theorem length_eq (h : t.Advances t' i u v) : t'.uploads.length = t.uploads.length := by
  rw [h.uploads, List.length_set]

theorem found_after (h : t.Advances t' i u v) : t'.uploads[i]? = some v := by
  rw [h.uploads, List.getElem?_set_self h.lt_length]

theorem others (h : t.Advances t' i u v) {j : Nat} (hj : j ≠ i) :
    t'.uploads[j]? = t.uploads[j]? := by
  rw [h.uploads, List.getElem?_set_ne (Ne.symm hj)]

theorem keys (h : t.Advances t' i u v) : t'.keys = t.keys := by
  obtain ⟨hi, rfl⟩ := List.getElem?_eq_some_iff.1 h.found
  have hi' : i < t.keys.length := by rwa [Timeline.keys, List.length_map]
  have hkey : t.keys[i] = t.uploads[i].session.key := by simp only [Timeline.keys, List.getElem_map]
  rw [Timeline.keys, h.uploads, List.map_set, h.key, ← hkey]
  exact List.set_getElem_self hi'

theorem trans (h : t.Advances t' i u v) (h' : t'.Advances t'' i v v') :
    t.Advances t'' i u v' where
  found := h.found
  uploads := by rw [h'.uploads, h.uploads, List.set_set]
  key := h'.key.trans h.key
  spares := by
    constructor
    · intro j other id hj hother hphase
      exact (h'.spares.pending j other id hj ((h.others hj).trans hother) hphase).trans
        (h.spares.pending j other id hj hother hphase)
    · intro w key found hkey
      obtain rfl := Option.some.inj (h.found.symm.trans found)
      exact (h'.spares.objects v key h.found_after (by rwa [h.key])).trans
        (h.spares.objects _ key found hkey)
  fleet := h'.fleet

/-- The upload may hear of a call. -/
theorem of_hears {event : Event} (found : t.uploads[i]? = some u)
    (uploads : t'.uploads = t.uploads.set i (u.react event).1)
    (spares : t.Spares i t'.store.memory) (fleet : ∃ given, Fleet t' given) :
    t.Advances t' i u (u.react event).1 :=
  ⟨found, uploads, Upload.key_react u event, spares, fleet⟩

/-- It may be given a command, which by itself does not reach the store. -/
theorem of_command (hfleet : Fleet t given) (found : t.uploads[i]? = some u) (c : Command) :
    t.Advances (t.command i c).1 i u (u.react (.command c)).1 ∧
      (t.command i c).1.store = t.store ∧
      (t.command i c).2 = Effect.ending? (u.react (.command c)).2 := by
  obtain ⟨agenda, heq, -⟩ := Timeline.happen_eq found (.command c)
  have hfleet' := hfleet.command i c
  rw [Timeline.command] at hfleet' ⊢
  rw [heq] at hfleet' ⊢
  exact ⟨⟨found, rfl, Upload.key_react u _, Fleet.spares_self t i, given, hfleet'⟩, rfl, rfl⟩

/-- It may stay as it is. -/
theorem of_still (found : t.uploads[i]? = some u) (uploads : t'.uploads = t.uploads)
    (memory : t'.store.memory = t.store.memory) (fleet : ∃ given, Fleet t' given) :
    t.Advances t' i u u := by
  obtain ⟨hi, rfl⟩ := List.getElem?_eq_some_iff.1 found
  refine ⟨found, by rw [uploads, List.set_getElem_self hi], rfl, ?_, fleet⟩
  rw [memory]
  exact Fleet.spares_self t i

/-- Its owner may be woken. -/
theorem wake (hfleet : Fleet t given) (found : t.uploads[i]? = some u) :
    t.Advances (t.wake i) i u u :=
  of_still found rfl rfl ⟨given, hfleet.wake (List.getElem?_eq_some_iff.1 found).1⟩

end Timeline.Advances

theorem Upload.react_command {u : Upload} (h : u.awaiting = none) (c : Command) :
    u.react (.command c) = Upload.begin u.session c := by
  rw [react, h]

theorem Upload.Creating.not_completing {u : Upload} (h : u.Creating) : ¬u.Completing := by
  obtain ⟨call, attempt, hwaits⟩ := h
  rintro (⟨id, hparts⟩ | ⟨id, listed, total, asked, tries, hcompletes⟩)
  · cases hwaits.symm.trans hparts
  · cases hwaits.symm.trans hcompletes

theorem Upload.Hears.exists_call {u : Upload} {memory memory' : MemoryStore} {event : Event}
    (h : u.Hears memory event memory') : ∃ who call, u.call? who = some call := by
  cases h with
  | passed asked performed => exact ⟨_, _, asked⟩
  | failed error asked => exact ⟨_, _, asked⟩
  | died asked => exact ⟨_, _, asked⟩

/-! ## Recordings that were archived -/

/-- An upload was completed with an object that is all of some chunks, which only another upload of
the same key can replace. -/
structure Archived (keys : List String) (memory : MemoryStore) (i : Nat)
    (chunks : List ByteArray) (c : CompletedUpload) : Prop where
  key : keys[i]? = some c.key
  total : c.totalBytes = (joinBytes chunks).size
  object : keys.count c.key = 1 →
    memory.objects.get? c.key = some ⟨videoContentType, joinBytes chunks⟩

/-- What occurs once in a list has one place there. -/
theorem place_unique {xs : List String} {x : String} {i j : Nat} (hcount : xs.count x = 1)
    (hi : xs[i]? = some x) (hj : xs[j]? = some x) : i = j := by
  obtain ⟨hi, hx⟩ := List.getElem?_eq_some_iff.1 hi
  obtain ⟨hj, hy⟩ := List.getElem?_eq_some_iff.1 hj
  by_contra hne
  have htwice : List.Duplicate x xs := by
    rw [List.duplicate_iff_exists_distinct_get]
    rcases Nat.lt_or_gt_of_ne hne with hlt | hlt
    · exact ⟨⟨i, hi⟩, ⟨j, hj⟩, hlt, hx.symm, hy.symm⟩
    · exact ⟨⟨j, hj⟩, ⟨i, hi⟩, hlt, hy.symm, hx.symm⟩
  have := List.duplicate_iff_two_le_count.1 htwice
  omega

namespace Archived

variable {keys : List String} {memory : MemoryStore} {i : Nat} {chunks : List ByteArray}
  {c : CompletedUpload}

/-- Later uploads may be of other keys. -/
theorem append (h : Archived keys memory i chunks c) (later : List String) :
    Archived (keys ++ later) memory i chunks c := by
  refine ⟨?_, h.total, fun hcount => h.object ?_⟩
  · rw [List.getElem?_append_left (List.getElem?_eq_some_iff.1 h.key).1]
    exact h.key
  · have hmem : c.key ∈ keys := List.mem_of_getElem? h.key
    have hpos := List.count_pos_iff.2 hmem
    rw [List.count_append] at hcount
    omega

/-- Another upload that goes on leaves the object, unless it is for the same one. -/
theorem aside {t t' : Timeline} {j : Nat} {u v : Upload}
    (h : Archived t.keys t.store.memory i chunks c) (hadvances : t.Advances t' j u v)
    (hi : i ≠ j) : Archived t.keys t'.store.memory i chunks c := by
  refine ⟨h.key, h.total, fun hcount => ?_⟩
  rw [← h.object hcount]
  refine hadvances.spares.objects u c.key hadvances.found fun hkey => hi ?_
  refine place_unique hcount h.key ?_
  rw [Timeline.keys, List.getElem?_map, hadvances.found, Option.map_some, hkey]

end Archived

/-! ## Recordings on their way -/

/-- Where the chunks of a recording are that its stream has brought, by what the command under way
waits for, which stream is open, the recording's pump and its upload. What the pump came to before
is known. -/
inductive Flow (w : Option Waiting) (stream : Option Nat) (keys : List String)
    (memory : MemoryStore) (i : Nat) (emitted : List ByteArray)
    (known : Option (Except UploadError CompletedUpload)) : Pump → Upload → Prop where
  | creating {name : String} {u : Upload} (waits : w = some (.creating i name))
      (closed : stream ≠ some i) (took : u.Took u.session.key memory none) (asks : u.Creating)
      (nothing : emitted = []) (unknown : known = none) : Flow w stream keys memory i emitted known
      .idle u
  | undoing {reason : String} {u : Upload} (waits : w = some (.undoing i reason))
      (unknown : known = none) : Flow w stream keys memory i emitted known .idle u
  /-- What was emitted is taken in or in the queue; the upload is completed when the queue of an
  ended stream is empty. -/
  | reading {p : Pump} {u : Upload} {taken : List ByteArray}
      (free : w.bind (·.storePlace?) ≠ some i) (running : p.running = true)
      (pending : p.result = none) (unknown : known = none)
      (closed : p.ended = true → stream ≠ some i) (took : u.Took u.session.key memory (some taken))
      (all : taken ++ p.queue = emitted)
      (last : u.Completing → p.ended = true ∧ p.queue = []) :
      Flow w stream keys memory i emitted known p u
  /-- The recording was not started, or an error was seen. -/
  | lost {p : Pump} {u : Upload} (free : w.bind (·.storePlace?) ≠ some i)
      (still : p.running = false) (kept : ∀ result, known = some result → p.result = some result)
      (lost : ∀ c, p.result ≠ some (.ok c)) : Flow w stream keys memory i emitted known p u
  | stored {p : Pump} {u : Upload} {c : CompletedUpload}
      (free : w.bind (·.storePlace?) ≠ some i) (still : p.running = false)
      (kept : ∀ result, known = some result → p.result = some result)
      (result : p.result = some (.ok c)) (closed : stream ≠ some i)
      (grounded : ∀ who, u.call? who = none) (archived : Archived keys memory i emitted c) :
      Flow w stream keys memory i emitted known p u

/-- A recording that nothing happened to is where it was. -/
theorem Flow.aside {w w' : Option Waiting} {stream stream' : Option Nat} {keys keys' : List String}
    {memory memory' : MemoryStore} {i : Nat} {emitted : List ByteArray}
    {known : Option (Except UploadError CompletedUpload)} {p : Pump} {u : Upload}
    (h : Flow w stream keys memory i emitted known p u)
    (hwaits : w.bind (·.storePlace?) = some i ∨ w'.bind (·.storePlace?) = some i → w' = w)
    (hopens : stream' = some i → stream = some i)
    (hpending : ∀ id, u.session.phase = .opened id →
      memory'.pending.get? id = memory.pending.get? id)
    (harchived : ∀ c, Archived keys memory i emitted c → Archived keys' memory' i emitted c) :
    Flow w' stream' keys' memory' i emitted known p u := by
  have hfree : w.bind (·.storePlace?) ≠ some i → w'.bind (·.storePlace?) ≠ some i :=
    fun hfree heq => hfree (hwaits (.inr heq) ▸ heq)
  cases h with
  | creating waits closed took asks nothing unknown =>
      obtain rfl := hwaits (.inl (by rw [waits]; rfl))
      exact .creating waits (fun heq => closed (hopens heq)) (took.elsewhere hpending) asks nothing
        unknown
  | undoing waits unknown =>
      obtain rfl := hwaits (.inl (by rw [waits]; rfl))
      exact .undoing waits unknown
  | reading free running pending unknown closed took all last =>
      exact .reading (hfree free) running pending unknown
        (fun hended heq => closed hended (hopens heq)) (took.elsewhere hpending) all last
  | lost free still kept lost => exact .lost (hfree free) still kept lost
  | stored free still kept result closed grounded archived =>
      exact .stored (hfree free) still kept result (fun heq => closed (hopens heq)) grounded
        (harchived _ archived)

/-- Every recording is on its way or was archived. -/
structure Flowing (w : Option Waiting) (t : Timeline) (pumps : List Pump) (stream : Option Nat)
    (emitted : Nat → List ByteArray) (known : Nat → Option (Except UploadError CompletedUpload)) :
    Prop where
  fleet : ∃ given, Fleet t given
  paired : pumps.length = t.uploads.length
  flows : ∀ i p u, pumps[i]? = some p → t.uploads[i]? = some u →
    Flow w stream t.keys t.store.memory i (emitted i) (known i) p u
  stream : ∀ i, stream = some i → i < t.uploads.length
  unborn : ∀ i, t.uploads.length ≤ i → emitted i = [] ∧ known i = none

/-- What a scene has to be for no chunk to be forgotten. -/
abbrev Scene.Flowing (s : Scene) (emitted : Nat → List ByteArray)
    (known : Nat → Option (Except UploadError CompletedUpload)) : Prop :=
  StudySession.Flowing s.waiting s.recorder.timeline s.recorder.pumps s.recorder.capture.stream
    emitted known

namespace Flowing

variable {w w' : Option Waiting} {t t' : Timeline} {pumps pumps' : List Pump}
  {stream stream' : Option Nat} {emitted emitted' : Nat → List ByteArray}
  {known : Nat → Option (Except UploadError CompletedUpload)} {i : Nat} {p : Pump} {u v : Upload}

/-- Every upload has its pump. -/
theorem place (h : Flowing w t pumps stream emitted known) (hi : i < t.uploads.length) :
    ∃ p u, pumps[i]? = some p ∧ t.uploads[i]? = some u :=
  ⟨_, _, List.getElem?_eq_getElem (lt_of_lt_of_eq hi h.paired.symm), List.getElem?_eq_getElem hi⟩

/-- One recording goes on, and the others stay where they are. -/
theorem advance (h : Flowing w t pumps stream emitted known) (hadvances : t.Advances t' i u v)
    (hwaits : ∀ j, j ≠ i →
      w.bind (·.storePlace?) = some j ∨ w'.bind (·.storePlace?) = some j → w' = w)
    (hopens : ∀ j, j ≠ i → stream' = some j → stream = some j)
    (hcount : pumps'.length = pumps.length) (hpumps : ∀ j, j ≠ i → pumps'[j]? = pumps[j]?)
    (hemitted : ∀ j, j ≠ i → emitted' j = emitted j)
    (hflow : ∀ p, pumps'[i]? = some p →
      Flow w' stream' t.keys t'.store.memory i (emitted' i) (known i) p v) :
    Flowing w' t' pumps' stream' emitted' known := by
  refine ⟨hadvances.fleet, ?_, fun j q x hq hx => ?_, fun j hj => ?_, fun j hj => ?_⟩
  · rw [hcount, h.paired, hadvances.length_eq]
  · rw [hadvances.keys]
    by_cases hji : j = i
    · subst hji
      obtain rfl := Option.some.inj (hadvances.found_after.symm.trans hx)
      exact hflow q hq
    · rw [hpumps j hji] at hq
      rw [hadvances.others hji] at hx
      rw [hemitted j hji]
      exact (h.flows j q x hq hx).aside (hwaits j hji) (hopens j hji)
        (fun id => hadvances.spares.pending j x id hji hx)
        fun c archived => archived.aside hadvances hji
  · rw [hadvances.length_eq]
    by_cases hji : j = i
    · rw [hji]
      exact hadvances.lt_length
    · exact h.stream j (hopens j hji hj)
  · rw [hadvances.length_eq] at hj
    rw [hemitted j (Nat.ne_of_gt (lt_of_lt_of_le hadvances.lt_length hj))]
    exact h.unborn j hj

/-- The upload hears of something, and its pump does not. -/
theorem hear (h : Flowing w t pumps stream emitted known) (hadvances : t.Advances t' i u v)
    (hp : pumps[i]? = some p)
    (hflow : Flow w stream t.keys t'.store.memory i (emitted i) (known i) p v) :
    Flowing w t' pumps stream emitted known := by
  refine h.advance hadvances (fun j hj _ => rfl) (fun j hj heq => heq) rfl (fun j hj => rfl)
    (fun j hj => rfl) fun q hq => ?_
  obtain rfl := Option.some.inj (hp.symm.trans hq)
  exact hflow

/-- The command that waited for the upload goes on. -/
theorem resume (h : Flowing w t pumps stream emitted known) (hadvances : t.Advances t' i u v)
    (hwaits : w.bind (·.storePlace?) = some i)
    (hfree : ∀ j, j ≠ i → w'.bind (·.storePlace?) ≠ some j)
    (hopens : ∀ j, j ≠ i → stream' = some j → stream = some j)
    (hcount : pumps'.length = pumps.length) (hpumps : ∀ j, j ≠ i → pumps'[j]? = pumps[j]?)
    (hflow : ∀ p, pumps'[i]? = some p →
      Flow w' stream' t.keys t'.store.memory i (emitted i) (known i) p v) :
    Flowing w' t' pumps' stream' emitted known := by
  refine h.advance hadvances (fun j hj heq => ?_) hopens hcount hpumps (fun j hj => rfl) hflow
  rw [hwaits] at heq
  rcases heq with heq | heq
  · exact absurd (Option.some.inj heq).symm hj
  · exact absurd heq (hfree j hj)

/-- The command that waited for the upload ends, and the recording is not started. -/
theorem abandon (h : Flowing w t pumps stream emitted known) (hadvances : t.Advances t' i u v)
    (hwaits : w.bind (·.storePlace?) = some i) (hp : pumps[i]? = some .idle)
    (hunknown : known i = none) : Flowing none t' pumps stream emitted known := by
  refine h.resume hadvances hwaits nofun (fun j hj heq => heq) rfl (fun j hj => rfl) fun p hq => ?_
  obtain rfl := Option.some.inj (hp.symm.trans hq)
  exact .lost nofun rfl (by simp [hunknown]) (by simp [Pump.idle])

/-- The pump of the recording goes on with its upload. -/
theorem replace (h : Flowing w t pumps stream emitted known) (hadvances : t.Advances t' i u v)
    (hflow : Flow w stream t.keys t'.store.memory i (emitted i) (known i) p v) :
    Flowing w t' (pumps.set i p) stream emitted known := by
  refine h.advance hadvances (fun j hj _ => rfl) (fun j hj heq => heq) (List.length_set ..)
    (fun j hj => List.getElem?_set_ne (Ne.symm hj)) (fun j hj => rfl) fun q hq => ?_
  rw [List.getElem?_set_self (by rw [h.paired]; exact hadvances.lt_length)] at hq
  obtain rfl := Option.some.inj hq
  exact hflow

/-- Where no command waits for the store, one may begin or end to wait for a pump. -/
theorem change (h : Flowing w t pumps stream emitted known) (hold : w.bind (·.storePlace?) = none)
    (hnew : w'.bind (·.storePlace?) = none) : Flowing w' t pumps stream emitted known := by
  refine ⟨h.fleet, h.paired, fun j q x hq hx => ?_, h.stream, h.unborn⟩
  refine (h.flows j q x hq hx).aside (fun heq => ?_) id (fun _ _ => rfl) fun _ => id
  rw [hold, hnew] at heq
  rcases heq with heq | heq <;> cases heq

/-- The stream may be closed. -/
theorem with_stream (h : Flowing w t pumps stream emitted known)
    (hstream : stream' = stream ∨ stream' = none) :
    Flowing w t pumps stream' emitted known := by
  have hopens : ∀ j, stream' = some j → stream = some j := by
    intro j hj
    rcases hstream with rfl | rfl
    · exact hj
    · cases hj
  refine ⟨h.fleet, h.paired, fun j q x hq hx => ?_, fun j hj => h.stream j (hopens j hj), h.unborn⟩
  exact (h.flows j q x hq hx).aside (fun _ => rfl) (hopens j) (fun _ _ => rfl) fun _ => id

/-- The timeline may go on without that an upload is concerned. -/
theorem still (h : Flowing w t pumps stream emitted known) (hfleet : ∃ given, Fleet t' given)
    (huploads : t'.uploads = t.uploads) (hmemory : t'.store.memory = t.store.memory) :
    Flowing w t' pumps stream emitted known := by
  have hkeys : t'.keys = t.keys := congrArg (List.map _) huploads
  refine ⟨hfleet, by rw [huploads, h.paired], fun j q x hq hx => ?_, ?_, ?_⟩
  · rw [hkeys, hmemory]
    exact h.flows j q x hq (huploads ▸ hx)
  · rw [huploads]
    exact h.stream
  · rw [huploads]
    exact h.unborn

theorem at_instant (h : Flowing w t pumps stream emitted known) (now : Nat) :
    Flowing w { t with now } pumps stream emitted known := by
  obtain ⟨given, hfleet⟩ := h.fleet
  exact h.still ⟨given, hfleet.at_instant now⟩ rfl rfl

/-- What the pumps have come to is known from then on. -/
theorem learn (h : Flowing w t pumps stream emitted known) :
    Flowing w t pumps stream emitted fun i => (pumps[i]?).bind (·.result) := by
  refine ⟨h.fleet, h.paired, fun j p x hp hx => ?_, h.stream, fun j hj => ?_⟩
  · rw [hp]
    cases h.flows j p x hp hx with
    | creating waits closed took asks nothing unknown =>
        exact .creating waits closed took asks nothing rfl
    | undoing waits unknown => exact .undoing waits rfl
    | reading free running pending unknown closed took all last =>
        exact .reading free running pending pending closed took all last
    | lost free still kept lost => exact .lost free still (fun _ => id) lost
    | stored free still kept stored closed grounded archived =>
        exact .stored free still (fun _ => id) stored closed grounded archived
  · rw [List.getElem?_eq_none (h.paired.trans_le hj)]
    exact ⟨(h.unborn j hj).1, rfl⟩

/-- What is known of a pump is what it has come to. -/
theorem result_of_known (h : Flowing w t pumps stream emitted known)
    {result : Except UploadError CompletedUpload} (hknown : known i = some result) :
    ∃ p, pumps[i]? = some p ∧ p.result = some result := by
  have hi : i < t.uploads.length := by
    by_contra hi
    cases (h.unborn i (Nat.le_of_not_lt hi)).2.symm.trans hknown
  obtain ⟨p, u, hp, found⟩ := h.place hi
  refine ⟨p, hp, ?_⟩
  cases h.flows i p u hp found with
  | creating waits closed took asks nothing unknown => cases unknown.symm.trans hknown
  | undoing waits unknown => cases unknown.symm.trans hknown
  | reading free running pending unknown closed took all last => cases unknown.symm.trans hknown
  | lost free still kept lost => exact kept _ hknown
  | stored free still kept result closed grounded archived => exact kept _ hknown

/-- An upload that its pump has completed was archived, and its stream is closed. -/
theorem archived (h : Flowing w t pumps stream emitted known) (hp : pumps[i]? = some p)
    {c : CompletedUpload} (hresult : p.result = some (.ok c)) :
    stream ≠ some i ∧ Archived t.keys t.store.memory i (emitted i) c := by
  obtain ⟨_, u, -, found⟩ :=
    h.place (lt_of_lt_of_eq (List.getElem?_eq_some_iff.1 hp).1 h.paired)
  cases h.flows i p u hp found with
  | creating waits closed took asks nothing unknown => cases hresult
  | undoing waits unknown => cases hresult
  | reading free running pending unknown closed took all last => cases pending.symm.trans hresult
  | lost free still kept lost => exact absurd hresult (lost c)
  | stored free still kept result closed grounded archived =>
      obtain rfl := Except.ok.inj (Option.some.inj (result.symm.trans hresult))
      exact ⟨closed, archived⟩

/-- Nothing was emitted for a recording whose upload is being created. -/
theorem nothing_emitted (h : Flowing w t pumps stream emitted known) {name : String}
    (hwaits : w = some (.creating i name)) (hi : i < t.uploads.length) : emitted i = [] := by
  obtain ⟨p, u, hp, found⟩ := h.place hi
  have hplace : w.bind (·.storePlace?) = some i := by rw [hwaits]; rfl
  cases h.flows i p u hp found with
  | creating waits closed took asks nothing unknown => exact nothing
  | undoing waits unknown => cases waits.symm.trans hwaits
  | reading free running pending unknown closed took all last => exact absurd hplace free
  | lost free still kept lost => exact absurd hplace free
  | stored free still kept result closed grounded archived => exact absurd hplace free

end Flowing

/-! ## Reading -/

namespace Recorder

variable {w : Option Waiting} {stream : Option Nat} {keys : List String} {memory : MemoryStore}
  {i : Nat} {emitted taken : List ByteArray} {p : Pump} {u v : Upload} {t : Timeline}
  {given : Nat → Option String}

theorem flow_ended_error (hfree : w.bind (·.storePlace?) ≠ some i) (e : UploadError) :
    Flow w stream keys memory i emitted none (readChunks.ended p (.error e)) v :=
  .lost hfree rfl (by simp) (by simp [readChunks.ended])

/-- A pump takes chunks from its queue into the upload, and completes the upload when an ended
stream has no more of them. -/
theorem flow_readChunks (hfree : w.bind (·.storePlace?) ≠ some i) (hrunning : p.running = true)
    (hpending : p.result = none) (hclosed : p.ended = true → stream ≠ some i)
    (hfleet : Fleet t given) (found : t.uploads[i]? = some u)
    (took : u.Took u.session.key t.store.memory (some taken)) (hidle : u.awaiting = none)
    (chunks : List ByteArray) (hall : taken ++ chunks = emitted) :
    ∃ v, t.Advances (readChunks t i p chunks).1 i u v ∧
      Flow w stream keys (readChunks t i p chunks).1.store.memory i emitted none
        (readChunks t i p chunks).2 v := by
  induction chunks generalizing t u taken with
  | nil =>
      rw [readChunks]
      split
      · next hended =>
          obtain ⟨hadvances, hstore, hresult⟩ := Timeline.Advances.of_command hfleet found .complete
          have hcompleted := took.complete hidle
          rw [← hadvances.key, ← hstore] at hcompleted
          rw [Upload.react_command hidle] at hresult
          generalize t.command i .complete = out at hadvances hcompleted hresult
          obtain ⟨t', result⟩ := out
          cases result with
          | none =>
              exact ⟨_, hadvances, .reading hfree hrunning hpending rfl hclosed hcompleted
                hall fun _ => ⟨hended, rfl⟩⟩
          | some result =>
              obtain ⟨e, rfl⟩ := Upload.error_of_complete hresult.symm
              exact ⟨_, hadvances, flow_ended_error hfree e⟩
      · exact ⟨u, .of_still found rfl rfl ⟨given, hfleet⟩, .reading hfree hrunning hpending rfl
          hclosed took hall fun hcompleting => absurd hcompleting
            (Upload.not_completing_of_idle hidle)⟩
  | cons chunk rest ih =>
      obtain ⟨hadvances, hstore, hresult⟩ :=
        Timeline.Advances.of_command hfleet found (.accept chunk)
      have htaken := took.accept hidle chunk
      have hrest : taken ++ [chunk] ++ rest = emitted := by rw [List.append_assoc]; exact hall
      rw [← hadvances.key, ← hstore] at htaken
      rw [readChunks]
      rw [Upload.react_command hidle] at hresult
      have hfleet' := hfleet.command i (.accept chunk)
      generalize t.command i (.accept chunk) = out at hadvances htaken hresult hfleet'
      obtain ⟨t', result⟩ := out
      cases result with
      | none =>
          refine ⟨_, hadvances, .reading hfree hrunning hpending rfl hclosed htaken hrest ?_⟩
          intro hcompleting
          rw [Upload.react_command hidle] at hcompleting
          exact absurd hcompleting (Upload.not_completing_accept _ _)
      | some result =>
          cases result with
          | error e => exact ⟨_, hadvances, flow_ended_error hfree e⟩
          | ok outcome =>
              have hidle' := Upload.awaiting_of_begin hresult.symm
              rw [← Upload.react_command hidle] at hidle'
              obtain ⟨last, hlast, hflow⟩ := ih hfleet' hadvances.found_after htaken hidle' hrest
              exact ⟨last, hadvances.trans hlast, hflow⟩

/-- What the upload of a pump has done leaves no chunk behind; if it is completed, they are all in
the object. -/
theorem flow_heard {memory' : MemoryStore} {event : Event}
    (hfree : w.bind (·.storePlace?) ≠ some i) (hrunning : p.running = true)
    (hpending : p.result = none) (hclosed : p.ended = true → stream ≠ some i)
    (took : u.Took u.session.key memory (some taken)) (hall : taken ++ p.queue = emitted)
    (hlast : u.Completing → p.ended = true ∧ p.queue = [])
    (hears : u.Hears memory event memory') (hkey : keys[i]? = some u.session.key) :
    (Effect.ending? (u.react event).2 = none →
      Flow w stream keys memory' i emitted none p (u.react event).1) ∧
      ∀ result, Effect.ending? (u.react event).2 = some result →
        Flow w stream keys memory' i emitted none (readChunks.ended p result)
          (u.react event).1 := by
  by_cases hdied : event = .died .owner
  · subst hdied
    refine ⟨nofun, fun result hresult => ?_⟩
    obtain rfl := Option.some.inj hresult
    exact flow_ended_error hfree _
  · obtain ⟨first, trace, x, o, flying, hlanding⟩ := took.lands hears hdied
    have htook := hlanding.took rfl
    have hreading : Flow w stream keys memory' i emitted none p (u.react event).1 := by
      refine .reading hfree hrunning hpending rfl hclosed ?_ hall fun hcompleting =>
        hlast (Upload.completing_of_react hears hcompleting)
      rw [Upload.key_react]
      exact htook
    refine ⟨fun _ => hreading, fun result hresult => ?_⟩
    cases result with
    | error e => exact flow_ended_error hfree e
    | ok outcome =>
        cases outcome with
        | completed c =>
            have hdone := Effect.mem_of_ending? hresult
            obtain ⟨hcompleted, htotal, hobject⟩ := hlanding.delivered rfl hdone
            obtain ⟨id, listed, total, call, attempt, tag, -, hawaiting, -, hafter⟩ :=
              Upload.react_completed (Prod.mk.eta (p := u.react event)).symm hdone
            -- it was told to complete, so the stream had ended and the queue was empty
            obtain ⟨hended, hempty⟩ := hlast (.inr ⟨_, _, _, _, _, hawaiting⟩)
            rw [hempty, List.append_nil] at hall
            subst hall
            refine .stored hfree rfl (by simp) rfl (hclosed hended)
              (htook.call?_eq_none (by rw [hafter]) (by rw [hafter])) ⟨?_, htotal, fun _ => ?_⟩
            · rw [hcompleted, hkey]
            · rw [hcompleted, hobject]
        | _ => exact hreading

end Recorder

end StudySession

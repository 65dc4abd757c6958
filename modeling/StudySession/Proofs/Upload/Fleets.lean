import StudySession.Proofs.Upload.Identity
import StudySession.Proofs.Upload.Postings
import StudySession.Proofs.Upload.Timelines

/-!
# Fleets

Uploads that share a store and a clock do not get in each other's way. Every upload uses the id that
the store gave it, and what is due for it is what it waits for (`Afloat`); the ids that were given
are distinct (`Fleet`). So whatever is due next comes to one reaction of one upload
(`Fleet.occur`), and what is pending for another one, or is an object of another key, stays as it
is (`Timeline.Spares`). Nothing is asked of the script: any call may take its time, fail or end the
task that made it.
-/

namespace StudySession

/-! ## What an upload waits for -/

namespace Upload

/-- The call that a caller waits for. -/
def call? (u : Upload) : Caller → Option StoreCall
  | .owner => u.asking.head?
  | .part number => (u.session.tasks.find? (·.number == number)).map (·.call)

theorem isSome_call? (u : Upload) (who : Caller) : (u.call? who).isSome = u.expects who := by
  cases who with
  | owner =>
      rw [call?, asking, expects]
      rcases u.awaiting with _ | ⟨purpose, call, attempt⟩ | id <;> rfl
  | part number =>
      rw [call?, Option.isSome_map, expects]
      exact List.isSome_find?

/-- What an upload can hear of a call: the store answers it, it fails on its way, or it ends the
task that made it. With it comes the store after that. -/
inductive Hears (u : Upload) (memory : MemoryStore) : Event → MemoryStore → Prop where
  | passed {who : Caller} {call : StoreCall} {answer : Except StoreError String}
      {memory' : MemoryStore} (asked : u.call? who = some call)
      (performed : memory.perform call = (answer, memory')) :
      Hears u memory (.answered who answer) memory'
  | failed {who : Caller} {call : StoreCall} (error : StoreError)
      (asked : u.call? who = some call) :
      Hears u memory (.answered who (.error error)) memory
  | died {who : Caller} {call : StoreCall} (asked : u.call? who = some call) :
      Hears u memory (.died who) memory

variable {key : String} {given : Option String} {u : Upload}

/-- What is waited for names the upload's key, and its id if any. -/
theorem Uses.names (h : u.Uses key given) {who : Caller} {call : StoreCall}
    (hasked : u.call? who = some call) : call.Names key given := by
  cases who with
  | owner =>
      rw [call?, asking] at hasked
      split at hasked
      · next purpose asked attempt hawaiting =>
          obtain rfl := Option.some.inj hasked
          exact (h.awaits _ hawaiting).2
      · cases hasked
  | part number =>
      obtain ⟨task, hfound, rfl⟩ := Option.map_eq_some_iff.1 hasked
      exact h.session.tasks task (List.mem_of_find?_eq_some hfound)

/-- The id that an upload has after an event. -/
def givenAfter (u : Upload) (given : Option String) : Event → Option String
  | .answered .owner answer =>
    match u.awaiting with
    | some (.store purpose _ _) => givenBy given purpose answer
    | _ => given
  | _ => given

theorem givenAfter_error (u : Upload) (given : Option String) (who : Caller) (error : StoreError) :
    u.givenAfter given (.answered who (.error error)) = given := by
  cases who with
  | owner =>
      rw [givenAfter]
      split
      · exact givenBy_error _ _ _
      · rfl
  | part number => rfl

theorem issued_react (h : u.Uses key given) (event : Event) :
    Issued key (u.givenAfter given event) (u.react event) := by
  have hstill : Issued key given (u, []) := ⟨h, by simp, by simp⟩
  cases event with
  | command c =>
      rw [react]
      split
      · exact issued_begin h.session c
      · exact hstill
  | answered who answer =>
      cases who with
      | owner =>
          rcases hawaiting : u.awaiting with _ | ⟨purpose, call, attempt⟩ | id
          · rw [react, ownerAnswered, givenAfter, hawaiting]
            exact hstill
          · rw [givenAfter, hawaiting]
            exact (ownerTold_of_awaiting hawaiting answer).issued hawaiting h
          · rw [react, ownerAnswered, givenAfter, hawaiting]
            exact hstill
      | part number =>
          by_cases hexpected : u.expects (.part number) = true
          · obtain ⟨task, htask, -, htold⟩ := partTold_of_expects hexpected answer
            exact htold.issued htask h
          · have hnone : u.session.tasks.find? (·.number == number) = none := by
              rw [List.find?_eq_none]
              simpa [expects] using hexpected
            rw [react, partAnswered]
            dsimp only
            rw [hnone]
            exact hstill
  | died who =>
      cases who with
      | owner =>
          have hdropped : Session.Uses key given { u.session with tasks := [] } :=
            ⟨h.session.key_eq, h.session.idle, h.session.opened, by simp⟩
          exact .finish hdropped (by simp)
      | part number => exact issued_partDied h number

end Upload

/-! ## What is due -/

/-- The call that an entry makes or ends, and who made it. -/
def Due.call? : Due → Option (Caller × StoreCall)
  | .make who call => some (who, call)
  | .settle who call _ => some (who, call)
  | .wake => none

theorem ownerCall?_eq {a : Appointment} {call : StoreCall} (h : a.due.call? = some (.owner, call)) :
    a.ownerCall? a.upload = some call := by
  rw [Appointment.ownerCall?, if_pos rfl]
  unfold Due.call? at h
  split at h
  · next who asked hdue =>
      obtain ⟨rfl, rfl⟩ := Prod.mk.inj (Option.some.inj h)
      rw [hdue]
  · next who asked verdict hdue =>
      obtain ⟨rfl, rfl⟩ := Prod.mk.inj (Option.some.inj h)
      rw [hdue]
  · cases h

/-- What makes or ends no call of the owner is none of its calls. -/
theorem ownerCall?_eq_none {a : Appointment} (h : ∀ call, a.due.call? ≠ some (.owner, call))
    (i : Nat) : a.ownerCall? i = none := by
  rw [Appointment.ownerCall?]
  split
  · split
    · next call hdue => exact absurd (by rw [hdue]; rfl) (h call)
    · next call verdict hdue => exact absurd (by rw [hdue]; rfl) (h call)
    · rfl
  · rfl

/-- An upload of which only what it waits for is due. -/
structure Afloat (i : Nat) (given : Option String) (u : Upload) (agenda : List Appointment) :
    Prop where
  uses : u.Uses u.session.key given
  numbered : u.session.Numbered
  asked : (ownerCalls i agenda).Perm u.asking
  carried : ∀ a ∈ agenda, a.upload = i → ∀ number call, a.due.call? = some (.part number, call) →
    u.session.Carries number call

namespace Afloat

variable {i : Nat} {given : Option String} {u : Upload} {agenda agenda' : List Appointment}
  {a : Appointment}

theorem of_perm (h : Afloat i given u agenda) (hperm : agenda.Perm agenda') :
    Afloat i given u agenda' :=
  ⟨h.uses, h.numbered, (ownerCalls_perm hperm i).symm.trans h.asked,
    fun a ha => h.carried a (hperm.symm.subset ha)⟩

/-- An entry is of no account to an upload if it is another's, or ends nothing that is waited
for. -/
theorem tail (h : Afloat i given u (a :: agenda)) (hnone : a.ownerCall? i = none) :
    Afloat i given u agenda := by
  have hasked := h.asked
  rw [ownerCalls_cons, hnone] at hasked
  exact ⟨h.uses, h.numbered, hasked, fun b hb => h.carried b (List.mem_cons_of_mem a hb)⟩

/-- What another upload asks for is of no account. -/
theorem beside (h : Afloat i given u agenda) {j : Nat} (hj : i ≠ j) {now : Nat}
    {effects : List Effect} : Afloat i given u (launched now j effects ++ agenda) := by
  have hnone : ownerCalls i (launched now j effects) = [] := by
    refine ownerCalls_eq_nil fun a ha => ?_
    obtain ⟨who, pause, call, -, rfl⟩ := mem_launched ha
    exact Ne.symm hj
  refine ⟨h.uses, h.numbered, ?_, fun a ha hi => ?_⟩
  · rw [ownerCalls_append, hnone]
    exact h.asked
  · rcases List.mem_append.1 ha with ha | ha
    · obtain ⟨who, pause, call, -, rfl⟩ := mem_launched ha
      exact absurd hi.symm hj
    · exact h.carried a ha hi

/-- An entry may be entered in place of one for the same call. -/
theorem replace (h : Afloat i given u (a :: agenda)) {b : Appointment}
    (hupload : b.upload = a.upload) (hcall : b.due.call? = a.due.call?)
    (howner : b.ownerCall? i = a.ownerCall? i) : Afloat i given u (b :: agenda) := by
  have hasked := h.asked
  rw [ownerCalls_cons, ← howner, ← ownerCalls_cons] at hasked
  refine ⟨h.uses, h.numbered, hasked, fun c hc hi number call hdue => ?_⟩
  rcases List.mem_cons.1 hc with rfl | hc
  · exact h.carried a List.mem_cons_self (hupload ▸ hi) number call (hcall ▸ hdue)
  · exact h.carried c (List.mem_cons_of_mem a hc) hi number call hdue

/-- What is due for a caller is what it waits for, if it waits. -/
theorem call?_eq (h : Afloat a.upload given u (a :: agenda)) {who : Caller} {call : StoreCall}
    (hdue : a.due.call? = some (who, call)) (hexpected : u.expects who = true) :
    u.call? who = some call := by
  cases who with
  | owner =>
      have hasked := h.asked
      rw [ownerCalls_cons, ownerCall?_eq hdue] at hasked
      obtain ⟨-, purpose, attempt, hawaiting⟩ := Upload.awaiting_of_asking_perm hasked
      rw [Upload.call?, Upload.asking, hawaiting]
      rfl
  | part number =>
      rw [← Upload.isSome_call?] at hexpected
      obtain ⟨other, hother⟩ := Option.isSome_iff_exists.1 hexpected
      obtain ⟨task, hfound, rfl⟩ := Option.map_eq_some_iff.1 hother
      have hcarries := h.carried a List.mem_cons_self rfl number call hdue
      have hnumber : task.number = number := by simpa using List.find?_some hfound
      rw [hother, hcarries.task task (List.mem_of_find?_eq_some hfound) hnumber]

/-- The owner waits for nothing else than what is due for it. -/
theorem expects_owner (h : Afloat a.upload given u (a :: agenda)) {call : StoreCall}
    (hdue : a.due.call? = some (.owner, call)) :
    u.expects .owner = true ∧ ownerCalls a.upload agenda = [] := by
  have hasked := h.asked
  rw [ownerCalls_cons, ownerCall?_eq hdue] at hasked
  obtain ⟨hrest, purpose, attempt, hawaiting⟩ := Upload.awaiting_of_asking_perm hasked
  exact ⟨by rw [Upload.expects, hawaiting], hrest⟩

/-- The upload reacts, and what it asks for is entered. -/
theorem react (uses : u.Uses u.session.key given) (numbered : u.session.Numbered) (event : Event)
    (asked : (ownerCalls i agenda).Perm (u.asksOn event))
    (carried : ∀ a ∈ agenda, a.upload = i → ∀ number call,
      a.due.call? = some (.part number, call) → u.session.Carries number call) (now : Nat) :
    Afloat i (u.givenAfter given event) (u.react event).1
      (launched now i (u.react event).2 ++ agenda) := by
  have hissued := Upload.issued_react uses event
  have hposted := Upload.posted_react numbered event
  have hkey : (u.react event).1.session.key = u.session.key := hissued.uses.session.key_eq
  refine ⟨by rw [hkey]; exact hissued.uses, hposted.numbered, ?_, ?_⟩
  · rw [ownerCalls_append, ownerCalls_launched, ← hposted.asked]
    exact asked.append_left _
  · intro a ha hi number call hdue
    rcases List.mem_append.1 ha with ha | ha
    · obtain ⟨who, after, asked, hcall, rfl⟩ := mem_launched ha
      obtain ⟨rfl, rfl⟩ := Prod.mk.inj (Option.some.inj hdue)
      exact hposted.calls number after asked hcall
    · exact hposted.leads.carries (carried a ha hi number call hdue)

end Afloat

/-! ## Ids -/

/-- The ids that were given are the store's own, each to one upload. -/
structure Ids (created : Nat) (given : Nat → Option String) : Prop where
  numbered : ∀ i id, given i = some id → ∃ n ≤ created, id = MemoryStore.uploadId n
  distinct : ∀ i j id, given i = some id → given j = some id → i = j

namespace Ids

variable {created later : Nat} {given : Nat → Option String} {i : Nat}

theorem mono (h : Ids created given) (hle : created ≤ later) : Ids later given := by
  refine ⟨fun i id hid => ?_, h.distinct⟩
  obtain ⟨n, hn, heq⟩ := h.numbered i id hid
  exact ⟨n, hn.trans hle, heq⟩

/-- The next id is new. -/
theorem ne_next (h : Ids created given) {id : String} (hid : given i = some id) :
    id ≠ MemoryStore.uploadId (created + 1) := by
  rintro rfl
  obtain ⟨n, hn, heq⟩ := h.numbered i _ hid
  have := MemoryStore.uploadId_injective heq
  omega

theorem give (h : Ids created given) (i : Nat) :
    Ids (created + 1) (Function.update given i (some (MemoryStore.uploadId (created + 1)))) := by
  constructor
  · intro j id hid
    by_cases hj : j = i
    · rw [hj, Function.update_self] at hid
      exact ⟨_, le_rfl, (Option.some.inj hid).symm⟩
    · rw [Function.update_of_ne hj] at hid
      exact (h.mono (Nat.le_succ _)).numbered j id hid
  · intro j k id hj hk
    by_cases hji : j = i <;> by_cases hki : k = i
    · rw [hji, hki]
    · rw [hji, Function.update_self] at hj
      rw [Function.update_of_ne hki] at hk
      exact absurd (Option.some.inj hj).symm (h.ne_next hk)
    · rw [hki, Function.update_self] at hk
      rw [Function.update_of_ne hji] at hj
      exact absurd (Option.some.inj hk).symm (h.ne_next hj)
    · rw [Function.update_of_ne hji] at hj
      rw [Function.update_of_ne hki] at hk
      exact h.distinct j k id hj hk

/-- An upload is given the id with which the store answers its creation, and no other. -/
theorem answered (h : Ids created given) {memory memory' : MemoryStore} {u : Upload} {key : String}
    (hcreated : memory.created = created) (huses : u.Uses key (given i)) {who : Caller}
    {call : StoreCall} (hasked : u.call? who = some call) {answer : Except StoreError String}
    (hperformed : memory.perform call = (answer, memory')) :
    Ids memory'.created
      (Function.update given i (u.givenAfter (given i) (.answered who answer))) := by
  subst hcreated
  have hmono : memory.created ≤ memory'.created := by
    have := MemoryStore.created_perform memory call
    rwa [hperformed] at this
  have hsame : Ids memory'.created (Function.update given i (given i)) := by
    rw [Function.update_eq_self]
    exact h.mono hmono
  cases who with
  | part number => exact hsame
  | owner =>
      rw [Upload.call?, Upload.asking] at hasked
      split at hasked
      · next purpose asked attempt hawaiting =>
          obtain rfl := Option.some.inj hasked
          obtain ⟨hcreating, hnames⟩ := huses.awaits _ hawaiting
          simp only [Upload.givenAfter, hawaiting]
          unfold Upload.givenBy
          split
          · -- what has no id yet names none, so the call is the creation
            have hnone := hcreating rfl
            cases asked with
            | create key contentType =>
                obtain ⟨hid, rfl⟩ := Prod.mk.inj hperformed
                rw [← Except.ok.inj hid]
                exact h.give i
            | part key other number body => cases hnone.symm.trans (hnames.id_eq other rfl)
            | complete key other listed => cases hnone.symm.trans (hnames.id_eq other rfl)
            | abort key other => cases hnone.symm.trans (hnames.id_eq other rfl)
          · exact hsame
      · cases hasked

end Ids

/-! ## Fleets -/

/-- Uploads on a timeline, afloat each with the id that it was given. -/
structure Fleet (t : Timeline) (given : Nat → Option String) : Prop where
  afloat : ∀ i u, t.uploads[i]? = some u → Afloat i (given i) u t.agenda
  placed : ∀ a ∈ t.agenda, a.upload < t.uploads.length
  ids : Ids t.store.memory.created given
  free : ∀ i, t.uploads.length ≤ i → given i = none

/-- What one upload does on the store leaves what is pending for the others, and the objects of
other keys. -/
structure Timeline.Spares (t : Timeline) (i : Nat) (memory : MemoryStore) : Prop where
  pending : ∀ j v id, j ≠ i → t.uploads[j]? = some v → v.session.phase = .opened id →
    memory.pending.get? id = t.store.memory.pending.get? id
  objects : ∀ u key, t.uploads[i]? = some u → u.session.key ≠ key →
    memory.objects.get? key = t.store.memory.objects.get? key

/-- What can happen on a timeline: nothing that concerns an upload, an owner that wakes, or one
upload that hears of a call. -/
inductive Timeline.Passes (t t' : Timeline) : Option Notice → Prop where
  | still (uploads : t'.uploads = t.uploads) (memory : t'.store.memory = t.store.memory) :
      Passes t t' none
  | woke {i : Nat} (placed : i < t.uploads.length) (uploads : t'.uploads = t.uploads)
      (memory : t'.store.memory = t.store.memory) : Passes t t' (some (.woke i))
  | heard {i : Nat} {u : Upload} {event : Event} (found : t.uploads[i]? = some u)
      (hears : u.Hears t.store.memory event t'.store.memory)
      (uploads : t'.uploads = t.uploads.set i (u.react event).1)
      (spares : t.Spares i t'.store.memory) :
      Passes t t' ((Effect.ending? (u.react event).2).map (.finished i))

namespace Fleet

variable {t : Timeline} {given : Nat → Option String} {i : Nat} {u : Upload} {a : Appointment}

theorem new (script : Dict (List ScriptedCall)) : Fleet (.new script) fun _ => none := by
  refine ⟨fun i u found => ?_, fun a ha => ?_, ⟨by simp, by simp⟩, fun i hi => rfl⟩
  · cases found
  · cases ha

/-- Neither the instant nor the order of the agenda matters. -/
theorem of_perm (h : Fleet t given) (now : Nat) {agenda : List Appointment}
    (hperm : t.agenda.Perm agenda) : Fleet { t with now, agenda } given :=
  ⟨fun j v hv => (h.afloat j v hv).of_perm hperm, fun b hb => h.placed b (hperm.symm.subset hb),
    h.ids, h.free⟩

theorem at_instant (h : Fleet t given) (now : Nat) : Fleet { t with now } given :=
  h.of_perm now (.refl _)

theorem add (h : Fleet t given) (config : UploadConfig) (name : String) :
    Fleet (t.add (.new config name)) given := by
  refine ⟨fun j v hv => ?_, fun b hb => ?_, h.ids, fun j hj => h.free j ?_⟩
  · rcases getElem?_snoc_eq_some hv with hv | ⟨rfl, rfl⟩
    · exact h.afloat j v hv
    · -- nothing is due for the place that was free
      have hcalls : ownerCalls t.uploads.length t.agenda = [] :=
        ownerCalls_eq_nil fun b hb => Nat.ne_of_lt (h.placed b hb)
      rw [h.free _ le_rfl]
      refine ⟨Upload.uses_new config name, nofun, ?_, fun b hb hplace => ?_⟩
      · rw [Timeline.add, hcalls]
        exact .refl _
      · exact absurd hplace (Nat.ne_of_lt (h.placed b hb))
  · rw [Timeline.add, List.length_append]
    exact Nat.lt_add_right _ (h.placed b hb)
  · rw [Timeline.add, List.length_append] at hj
    exact (Nat.le_add_right _ _).trans hj

theorem wake (h : Fleet t given) (hi : i < t.uploads.length) : Fleet (t.wake i) given := by
  have hperm := Timeline.enter_perm t.agenda ⟨t.now, i, .wake⟩
  refine of_perm (t := { t with agenda := ⟨t.now, i, .wake⟩ :: t.agenda }) ?_ t.now hperm.symm
  refine ⟨fun j v hv => ?_, fun b hb => ?_, h.ids, h.free⟩
  · obtain ⟨uses, numbered, asked, carried⟩ := h.afloat j v hv
    refine ⟨uses, numbered, ?_, fun b hb hplace number call hdue => ?_⟩
    · rw [ownerCalls_cons, ownerCall?_eq_none (by simp [Due.call?])]
      exact asked
    · rcases List.mem_cons.1 hb with rfl | hb
      · cases hdue
      · exact carried b hb hplace number call hdue
  · rcases List.mem_cons.1 hb with rfl | hb
    · exact hi
    · exact h.placed b hb

/-- One upload reacts, and the others stay afloat. -/
theorem happen {event : Event} (found : t.uploads[i]? = some u)
    (others : ∀ j v, j ≠ i → t.uploads[j]? = some v → Afloat j (given j) v t.agenda)
    (own : ∀ now, Afloat i (u.givenAfter (given i) event) (u.react event).1
      (launched now i (u.react event).2 ++ t.agenda))
    (placed : ∀ a ∈ t.agenda, a.upload < t.uploads.length)
    (ids : Ids t.store.memory.created
      (Function.update given i (u.givenAfter (given i) event)))
    (free : ∀ j, t.uploads.length ≤ j → given j = none) :
    Fleet (t.happen i event).1 (Function.update given i (u.givenAfter (given i) event)) := by
  obtain ⟨hi, -⟩ := List.getElem?_eq_some_iff.1 found
  obtain ⟨agenda, heq, hperm⟩ := Timeline.happen_eq found event
  rw [heq]
  refine ⟨fun j v hv => ?_, fun b hb => ?_, ids, fun j hj => ?_⟩
  · rcases eq_or_getElem?_of_set hv with ⟨rfl, rfl⟩ | ⟨hj, hv⟩
    · rw [Function.update_self]
      exact (own t.now).of_perm hperm.symm
    · rw [Function.update_of_ne hj]
      exact ((others j v hj hv).beside hj).of_perm hperm.symm
  · rw [List.length_set]
    rcases List.mem_append.1 (hperm.subset hb) with hb | hb
    · obtain ⟨who, pause, call, -, rfl⟩ := mem_launched hb
      exact hi
    · exact placed b hb
  · rw [List.length_set] at hj
    rw [Function.update_of_ne (Nat.ne_of_gt (lt_of_lt_of_le hi hj))]
    exact free j hj

/-- A command to an upload. -/
theorem command (h : Fleet t given) (i : Nat) (c : Command) : Fleet (t.command i c).1 given := by
  cases found : t.uploads[i]? with
  | none =>
      rw [Timeline.command, Timeline.happen_eq_self found]
      exact h
  | some u =>
      obtain ⟨uses, numbered, asked, carried⟩ := h.afloat i u found
      have hgiven : Function.update given i (u.givenAfter (given i) (.command c)) = given :=
        Function.update_eq_self i given
      have hfleet := happen found (fun j v _ hv => h.afloat j v hv)
        (Afloat.react uses numbered (.command c) asked carried) h.placed
        (by rw [hgiven]; exact h.ids) h.free
      rwa [hgiven] at hfleet

/-! ### What is due -/

/-- An entry that was taken from the agenda is no other upload's. -/
theorem others (h : Fleet { t with agenda := a :: t.agenda } given) (j : Nat) (v : Upload)
    (hj : j ≠ a.upload) (found : t.uploads[j]? = some v) : Afloat j (given j) v t.agenda :=
  (h.afloat j v found).tail (by rw [Appointment.ownerCall?, if_neg (Ne.symm hj)])

theorem placed_tail (h : Fleet { t with agenda := a :: t.agenda } given) :
    ∀ b ∈ t.agenda, b.upload < t.uploads.length :=
  fun b hb => h.placed b (List.mem_cons_of_mem a hb)

/-- It is missed by nobody if it is no call of the owner's. -/
theorem dropped (h : Fleet { t with agenda := a :: t.agenda } given)
    (hnone : a.ownerCall? a.upload = none) : Fleet t given := by
  refine ⟨fun j v found => ?_, h.placed_tail, h.ids, h.free⟩
  by_cases hj : j = a.upload
  · subst hj
    exact (h.afloat _ v found).tail hnone
  · exact h.others j v hj found

/-- A call that is made is due to end. -/
theorem made (h : Fleet { t with agenda := a :: t.agenda } given) {who : Caller} {call : StoreCall}
    (hdue : a.due = .make who call) {store : ScriptedStore}
    (hmemory : store.memory = t.store.memory) (instant : Nat) (verdict : Verdict) :
    Fleet
      { t with
        store
        agenda := Timeline.enter t.agenda ⟨instant, a.upload, .settle who call verdict⟩ }
      given := by
  have hperm := Timeline.enter_perm t.agenda ⟨instant, a.upload, .settle who call verdict⟩
  refine ⟨fun j v found => ?_, fun b hb => ?_, by rw [hmemory]; exact h.ids, h.free⟩
  · have howner : (⟨instant, a.upload, .settle who call verdict⟩ : Appointment).ownerCall? j =
        a.ownerCall? j := by
      rw [Appointment.ownerCall?, Appointment.ownerCall?, hdue]
      cases who <;> rfl
    have hcall : (Due.settle who call verdict).call? = a.due.call? := by rw [hdue]; rfl
    have hafloat : Afloat j (given j) v (a :: t.agenda) := h.afloat j v found
    exact (hafloat.replace (b := ⟨instant, a.upload, .settle who call verdict⟩) rfl hcall
      howner).of_perm hperm.symm
  · rcases List.mem_cons.1 (hperm.subset hb) with rfl | hb
    · exact h.placed a List.mem_cons_self
    · exact h.placed_tail b hb

/-- A caller hears of the call that was due for it. -/
theorem heard (h : Fleet { t with agenda := a :: t.agenda } given) {who : Caller} {call : StoreCall}
    (hdue : a.due.call? = some (who, call)) (found : t.uploads[a.upload]? = some u) {event : Event}
    (hevent : (∃ answer, event = .answered who answer) ∨ event = .died who) {store : ScriptedStore}
    (hids : Ids store.memory.created
      (Function.update given a.upload (u.givenAfter (given a.upload) event))) :
    Fleet ({ t with store }.happen a.upload event).1
      (Function.update given a.upload (u.givenAfter (given a.upload) event)) := by
  have hafloat := h.afloat a.upload u found
  refine happen (t := { t with store }) found h.others (Afloat.react hafloat.uses hafloat.numbered
    event ?_ fun b hb => hafloat.carried b (List.mem_cons_of_mem a hb)) h.placed_tail hids h.free
  cases who with
  | owner =>
      obtain ⟨-, hrest⟩ := hafloat.expects_owner hdue
      rw [hrest]
      rcases hevent with ⟨answer, rfl⟩ | rfl <;> exact .refl _
  | part number =>
      have hnone : a.ownerCall? a.upload = none :=
        ownerCall?_eq_none (by rw [hdue]; simp) a.upload
      have hasked := (hafloat.tail hnone).asked
      rcases hevent with ⟨answer, rfl⟩ | rfl <;> exact hasked

/-- A call of one upload names the id of no other. -/
theorem spares (h : Fleet t given) (found : t.uploads[i]? = some u) {who : Caller} {call : StoreCall}
    (hasked : u.call? who = some call) : t.Spares i (t.store.memory.perform call).2 := by
  have hnames := (h.afloat i u found).uses.names hasked
  constructor
  · intro j v id hj hv hphase
    have hid := (h.afloat j v hv).uses.session.opened id hphase
    refine MemoryStore.get?_pending_perform (fun hcall => hj ?_) (h.ids.ne_next hid)
    exact h.ids.distinct j i id hid (hnames.id_eq id hcall)
  · intro v key hv hkey
    obtain rfl := Option.some.inj (found.symm.trans hv)
    exact MemoryStore.get?_objects_perform (by rw [hnames.key_eq]; exact hkey)

theorem spares_self (t : Timeline) (i : Nat) : t.Spares i t.store.memory :=
  ⟨fun _ _ _ _ _ _ => rfl, fun _ _ _ _ => rfl⟩

/-- Whatever is due next leaves every upload afloat, and one of them hears of it at most. -/
theorem occur (h : Fleet t given) {k now : Nat} {contact : Option Contact} {t' : Timeline}
    {notice : Option Notice} (hoccur : t.occur? k now = some (contact, t', notice)) :
    t.Passes t' notice ∧ ∃ given', Fleet t' given' := by
  obtain ⟨a, rest, hperm, hoccurs⟩ := Timeline.occurs_of_occur? hoccur
  have htaken : Fleet { { t with now, agenda := rest } with agenda := a :: rest } given :=
    h.of_perm now hperm
  have hplaced : a.upload < t.uploads.length := htaken.placed a List.mem_cons_self
  have found : t.uploads[a.upload]? = some t.uploads[a.upload] := List.getElem?_eq_getElem hplaced
  -- where the caller waits, it waits for the call that is due
  have hasked : ∀ {who call}, a.due.call? = some (who, call) →
      Timeline.expects { t with now, agenda := rest } a.upload who = true →
      t.uploads[a.upload].call? who = some call := by
    intro who call hdue hexpected
    refine (htaken.afloat a.upload _ found).call?_eq hdue ?_
    simpa [Timeline.expects, found] using hexpected
  have hheard : ∀ {who call event} (store : ScriptedStore), a.due.call? = some (who, call) →
      (∃ answer, event = .answered who answer) ∨ event = .died who →
      t.uploads[a.upload].Hears t.store.memory event store.memory →
      Ids store.memory.created (Function.update given a.upload
        (t.uploads[a.upload].givenAfter (given a.upload) event)) →
      t.Spares a.upload store.memory →
      t.Passes (Timeline.happen { t with now, agenda := rest, store } a.upload event).1
          ((Timeline.happen { t with now, agenda := rest, store } a.upload event).2.map
            (.finished a.upload)) ∧
        ∃ given', Fleet (Timeline.happen { t with now, agenda := rest, store } a.upload event).1
          given' := by
    intro who call event store hdue hevent hhears hids hspares
    obtain ⟨agenda, heq, -⟩ := Timeline.happen_eq
      (t := { t with now, agenda := rest, store }) found event
    refine ⟨?_, _, heard (t := { t with now, agenda := rest }) htaken hdue found hevent hids⟩
    rw [heq]
    exact .heard found hhears rfl hspares
  cases hoccurs with
  | woke due =>
      exact ⟨.woke hplaced rfl rfl, given,
        htaken.dropped (ownerCall?_eq_none (by rw [due]; simp [Due.call?]) _)⟩
  | @missed who call due unexpected =>
      have hdue : a.due.call? = some (who, call) := by
        rcases due with due | ⟨verdict, due⟩ <;> rw [due] <;> rfl
      refine ⟨.still rfl rfl, given, htaken.dropped (ownerCall?_eq_none ?_ _)⟩
      intro asked howner
      obtain ⟨rfl, rfl⟩ := Prod.mk.inj (Option.some.inj (hdue.symm.trans howner))
      -- the owner waits for the call that is due, so it was expected
      obtain ⟨hexpected, -⟩ := (htaken.afloat a.upload _ found).expects_owner hdue
      simp [Timeline.expects, found, hexpected] at unexpected
  | made due taken =>
      have hmemory := ScriptedStore.memory_of_take taken
      exact ⟨.still rfl hmemory, given,
        made (t := { t with now, agenda := rest }) htaken due hmemory _ _⟩
  | @passed who call answer memory due expected performed =>
      have hdue : a.due.call? = some (who, call) := by rw [due]; rfl
      have hcall := hasked hdue expected
      have hids := h.ids.answered rfl (h.afloat _ _ found).uses hcall performed
      have hspares := h.spares found hcall
      rw [performed] at hspares
      exact hheard { t.store with memory } hdue (.inl ⟨answer, rfl⟩) (.passed hcall performed) hids
        hspares
  | @failed who call error due expected =>
      have hdue : a.due.call? = some (who, call) := by rw [due]; rfl
      have hids : Ids t.store.memory.created
          (Function.update given a.upload (t.uploads[a.upload].givenAfter (given a.upload)
            (.answered who (.error error)))) := by
        rw [Upload.givenAfter_error, Function.update_eq_self]
        exact h.ids
      exact hheard t.store hdue (.inl ⟨_, rfl⟩) (.failed error (hasked hdue expected)) hids
        (spares_self t a.upload)
  | @died who call due expected =>
      have hdue : a.due.call? = some (who, call) := by rw [due]; rfl
      have hids : Ids t.store.memory.created
          (Function.update given a.upload
            (t.uploads[a.upload].givenAfter (given a.upload) (.died who))) := by
        rw [Upload.givenAfter, Function.update_eq_self]
        · exact h.ids
        · simp
      exact hheard t.store hdue (.inr rfl) (.died (hasked hdue expected)) hids
        (spares_self t a.upload)

end Fleet

end StudySession

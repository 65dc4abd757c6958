import StudySession.Proofs.Upload.Traffic

/-!
# Ids of uploads

An upload has one key, the store gives it one id when it creates it, and the calls of the upload
name no other key and no other id (`Upload.Uses`). `Upload.Issued` is what a reaction comes to for
that, with one lemma for each line of the relations that list the reactions. `Traffic.Named` says it
of the calls in the air too.
-/

namespace StudySession

/-- The key that a call is for. -/
def StoreCall.key : StoreCall → String
  | create key _ => key
  | part key _ _ _ => key
  | complete key _ _ => key
  | abort key _ => key

/-- The id that a call names; a creation names none. -/
def StoreCall.id? : StoreCall → Option String
  | create _ _ => none
  | part _ id _ _ => some id
  | complete _ id _ => some id
  | abort _ id => some id

/-- A call is for a key, and names no other id than the one that was given. -/
structure StoreCall.Names (key : String) (given : Option String) (call : StoreCall) : Prop where
  key_eq : call.key = key
  id_eq : ∀ id, call.id? = some id → given = some id

/-- A session is for a key and uses no other id than the one that it was given, which it was if it
is not idle. -/
structure Session.Uses (key : String) (given : Option String) (s : Session) : Prop where
  key_eq : s.key = key
  idle : s.phase = .idle → given = none
  opened : ∀ id, s.phase = .opened id → given = some id
  tasks : ∀ task ∈ s.tasks, task.call.Names key given

/-- What is waited for is for the key and of the id that was given. -/
def Await.Names (key : String) (given : Option String) : Await → Prop
  | store purpose call _ => (purpose = .creating → given = none) ∧ call.Names key given
  | parts id => given = some id

namespace Upload

/-- An upload is for a key and uses no other id than the one that it was given. -/
structure Uses (key : String) (given : Option String) (u : Upload) : Prop where
  session : u.session.Uses key given
  awaits : ∀ await, u.awaiting = some await → await.Names key given

/-- What a reaction comes to: nothing in it is for another key or of another id than the one that
was given. -/
structure Issued (key : String) (given : Option String) (out : Upload × List Effect) : Prop where
  uses : out.1.Uses key given
  calls : ∀ who after call, Effect.call who after call ∈ out.2 → call.Names key given
  opened : ∀ snapshot, Effect.finished (.ok (.opened snapshot)) ∈ out.2 →
    given = some snapshot.uploadId

variable {key : String} {given : Option String} {s : Session} {u : Upload} {id : String}
  {out : Upload × List Effect}

theorem uses_new (config : UploadConfig) (name : String) :
    (new config name).Uses (videoObjectKey name) none :=
  ⟨⟨rfl, fun _ => rfl, nofun, nofun⟩, nofun⟩

theorem Issued.finish (h : s.Uses key given) {result : Except UploadError Outcome}
    (hopened : ∀ snapshot, result = .ok (.opened snapshot) → given = some snapshot.uploadId) :
    Issued key given (finish s result) := by
  refine ⟨⟨h, nofun⟩, fun who after call hcall => ?_, fun snapshot hsnapshot => ?_⟩
  · cases List.mem_singleton.1 hcall
  · exact hopened snapshot (Effect.finished.inj (List.mem_singleton.1 hsnapshot)).symm

theorem Issued.ask (h : s.Uses key given) {purpose : Purpose} {call : StoreCall}
    (hpurpose : purpose = .creating → given = none) (hcall : call.Names key given) :
    Issued key given (ask s purpose call) := by
  refine ⟨⟨h, ?_⟩, fun who after asked hasked => ?_, fun snapshot hsnapshot => ?_⟩
  · rintro await ⟨⟩
    exact ⟨hpurpose, hcall⟩
  · obtain ⟨-, -, rfl⟩ := Effect.call.inj (List.mem_singleton.1 hasked)
    exact hcall
  · cases List.mem_singleton.1 hsnapshot

/-- A call for the session's key names its id. -/
theorem names_of_id (h : s.Uses key given) (hid : given = some id) {call : StoreCall}
    (hkey : call.key = s.key) (hcall : call.id? = some id) : call.Names key given := by
  refine ⟨hkey.trans h.key_eq, fun other hother => ?_⟩
  rw [hcall] at hother
  rw [hid, hother]

/-- A session without tasks uses what its phase says. -/
theorem uses_dropped (h : s.Uses key given) {phase : Phase} (hidle : phase = .idle → given = none)
    (hopened : ∀ id, phase = .opened id → given = some id) :
    Session.Uses key given { s with phase, pending := .empty, tasks := [] } :=
  ⟨h.key_eq, hidle, hopened, fun _ htask => by cases htask⟩

theorem Issued.fail (h : s.Uses key given) (error : UploadError) :
    Issued key given (fail s error) := by
  unfold Upload.fail
  dsimp only
  split
  · next id hphase =>
      exact .ask (uses_dropped h h.idle h.opened) (by simp)
        (names_of_id h (h.opened id hphase) rfl rfl)
  · exact .finish (uses_dropped h (by simp) (by simp)) (by simp)

theorem Joined.issued (hjoined : Joined s id out) (h : s.Uses key given) (hid : given = some id) :
    Issued key given out := by
  cases hjoined with
  | waits busy =>
      refine ⟨⟨h, ?_⟩, nofun, nofun⟩
      rintro await ⟨⟩
      exact hid
  | completes quiet acked nonempty => exact .ask h nofun (names_of_id h hid rfl rfl)
  | fails error => exact .fail h error

/-- The part that is submitted names the id of the session. -/
theorem uses_submit (h : s.Uses key given) (hid : given = some id) (pending : ByteArray) :
    ({ s with pending }.submit id).1.Uses key given := by
  refine ⟨h.key_eq, h.idle, h.opened, fun task htask => ?_⟩
  rcases List.mem_append.1 htask with htask | htask
  · exact h.tasks task htask
  · obtain rfl := List.mem_singleton.1 htask
    exact names_of_id h hid rfl rfl

theorem Told.issued {c : Command} (htold : Told s id c out) (h : s.Uses key given)
    (hid : given = some id) : Issued key given out := by
  cases htold with
  | reopened =>
      refine .finish h ?_
      rintro _ ⟨⟩
      exact hid
  | refused gate lost => exact .fail h _
  | @gathered chunk healthy few =>
      have hsame : Session.Uses key given { s with pending := s.pending ++ chunk } :=
        ⟨h.key_eq, h.idle, h.opened, h.tasks⟩
      exact .finish hsame (by simp)
  | flushed healthy enough =>
      refine ⟨⟨uses_submit h hid _, nofun⟩, fun who after call hcall => ?_, by simp⟩
      obtain ⟨-, -, rfl⟩ : _ ∧ _ ∧ call = _ := by simpa using hcall
      exact names_of_id h hid rfl rfl
  | sent => exact .ask h nofun (names_of_id h hid rfl rfl)
  | joined healthy empty joined => exact joined.issued h hid
  | flushedLast healthy rest =>
      refine ⟨⟨uses_submit h hid s.pending, ?_⟩, fun who after call hcall => ?_, by simp⟩
      · rintro await ⟨⟩
        exact hid
      · obtain ⟨-, -, rfl⟩ := Effect.call.inj (List.mem_singleton.1 hcall)
        exact names_of_id h hid rfl rfl
  | aborted =>
      exact .ask (uses_dropped h (by simp) (by simp)) (by simp) (names_of_id h hid rfl rfl)

theorem issued_begin (h : s.Uses key given) (c : Command) : Issued key given (begin s c) := by
  have hbegun := begun_begin s c
  generalize begin s c = out at hbegun
  cases hbegun with
  | creating phase => exact .ask h (fun _ => h.idle phase) ⟨h.key_eq, nofun⟩
  | told phase told => exact told.issued h (h.opened _ phase)
  | dismissed shut refused =>
      refine .finish h fun snapshot hresult => ?_
      rcases refused with ⟨-, rfl⟩ | ⟨error, rfl⟩ <;> cases hresult
  | failed shut lost => exact .fail h _

theorem issued_afterPart (h : u.Uses key given) : Issued key given u.afterPart := by
  rcases afterPart_cases u with ⟨id, hwaits, hjoined⟩ | ⟨-, hnone⟩
  · exact hjoined.issued h.session (h.awaits _ hwaits)
  · rw [hnone]
    exact ⟨h, by simp, by simp⟩

/-- Parts may settle and tasks may go. -/
theorem Uses.settle (h : u.Uses key given) (parts : List Part) (kept : PartTask → Bool) :
    Uses key given
      { u with session := { u.session with parts, tasks := u.session.tasks.filter kept } } :=
  ⟨⟨h.session.key_eq, h.session.idle, h.session.opened,
    fun task htask => h.session.tasks task (List.mem_filter.1 htask).1⟩, h.awaits⟩

theorem PartTold.issued {task : PartTask} {answer : Except StoreError String}
    (htold : PartTold u task answer out) (htask : task ∈ u.session.tasks) (h : u.Uses key given) :
    Issued key given out := by
  cases htold with
  | acknowledged => exact issued_afterPart (h.settle _ _)
  | lost pause => exact issued_afterPart (h.settle _ _)
  | again pause =>
      refine ⟨⟨⟨h.session.key_eq, h.session.idle, h.session.opened, fun other hother => ?_⟩,
        h.awaits⟩, fun who after call hcall => ?_, by simp⟩
      · obtain ⟨before, hbefore, rfl⟩ := List.mem_map.1 hother
        have hnames := h.session.tasks before hbefore
        split <;> exact hnames
      · obtain ⟨-, -, rfl⟩ := Effect.call.inj (List.mem_singleton.1 hcall)
        exact h.session.tasks task htask

theorem issued_partDied (h : u.Uses key given) (number : Nat) :
    Issued key given (u.partDied number) := by
  unfold partDied
  split
  · exact issued_afterPart (h.settle u.session.parts (·.number != number))
  · exact ⟨h, by simp, by simp⟩

/-- The id that an upload has after an answer to the command under way. -/
def givenBy (given : Option String) (purpose : Purpose) (answer : Except StoreError String) :
    Option String :=
  match purpose, answer with
  | .creating, .ok id => some id
  | _, _ => given

theorem givenBy_error (given : Option String) (purpose : Purpose) (error : StoreError) :
    givenBy given purpose (.error error) = given := by
  cases purpose <;> rfl

theorem OwnerTold.issued {purpose : Purpose} {call : StoreCall} {attempt : Nat}
    {answer : Except StoreError String} (htold : OwnerTold u purpose call attempt answer out)
    (hawaiting : u.awaiting = some (.store purpose call attempt)) (h : u.Uses key given) :
    Issued key (givenBy given purpose answer) out := by
  obtain ⟨hcreating, hcall⟩ := h.awaits _ hawaiting
  cases htold with
  | again retried pause =>
      rw [givenBy_error]
      refine ⟨⟨h.session, ?_⟩, fun who after asked hasked => ?_, by simp⟩
      · rintro await ⟨⟩
        exact ⟨hcreating, hcall⟩
      · obtain ⟨-, -, rfl⟩ := Effect.call.inj (List.mem_singleton.1 hasked)
        exact hcall
  | concluded last =>
      have hclosed : ∀ phase, phase ≠ .idle → (∀ id, phase ≠ .opened id) →
          Session.Uses key given { u.session with phase } :=
        fun phase hidle hopened => ⟨h.session.key_eq, fun h => absurd h hidle,
          fun id h => absurd h (hopened id), h.session.tasks⟩
      cases purpose with
      | creating =>
          cases answer with
          | error e => exact .finish h.session (by simp)
          | ok id =>
              -- before that, the upload had no id, so nothing of another one is on its way
              obtain rfl := hcreating rfl
              have hgiven : Session.Uses key (some id) { u.session with phase := .opened id } :=
                ⟨h.session.key_eq, by simp, by simp, fun task htask =>
                  ⟨(h.session.tasks task htask).key_eq, fun other hother => by
                    cases (h.session.tasks task htask).id_eq other hother⟩⟩
              refine .finish hgiven ?_
              rintro _ ⟨⟩
              rfl
      | sending number size => cases answer <;> exact .finish h.session (by simp)
      | completing id listed total =>
          cases answer with
          | ok tag => exact .finish (hclosed _ (by simp) (by simp)) (by simp)
          | error e => exact .fail h.session _
      | failing error => cases answer <;> exact .finish (hclosed _ (by simp) (by simp)) (by simp)
      | aborting => cases answer <;> exact .finish h.session (by simp)

end Upload

/-! ## Calls in the air -/

namespace Traffic

/-- An upload and its calls in the air are for a key and use no other id than the one given. -/
structure Named (key : String) (given : Option String) (w : Traffic) : Prop where
  uses : w.upload.Uses key given
  flights : ∀ who flight, w.flying who = some flight → flight.call.Names key given

/-- What a step does to the id that was given. -/
structure Names (key : String) (given given' : Option String) (o : Happening) (w' : Traffic) :
    Prop where
  named : Named key given' w'
  kept : ∀ id, given = some id → given' = some id
  made : ∀ who call, o.made? = some (who, call) → call.Names key given'
  opened : ∀ snapshot, Effect.finished (.ok (.opened snapshot)) ∈ o.effects →
    given' = some snapshot.uploadId

variable {key : String} {given : Option String} {w w' : Traffic} {o : Happening}

theorem named_start (config : UploadConfig) (name : String) :
    Named (videoObjectKey name) none (start config name) :=
  ⟨Upload.uses_new config name, nofun⟩

/-- The calls that are put in the air are those among the effects. -/
theorem exists_call_of_launch {flying : Caller → Option Flight} {effects : List Effect}
    {who : Caller} {flight : Flight} (h : Transfer.launch flying effects who = some flight) :
    flying who = some flight ∨ ∃ after, Effect.call who after flight.call ∈ effects := by
  induction effects generalizing flying with
  | nil => exact .inl h
  | cons effect rest ih =>
      cases effect with
      | finished result =>
          exact (ih h).imp id fun ⟨after, hmem⟩ => ⟨after, List.mem_cons_of_mem _ hmem⟩
      | call asker after call =>
          rcases ih h with hflying | ⟨later, hmem⟩
          · by_cases hwho : who = asker
            · subst hwho
              rw [Function.update_self] at hflying
              obtain rfl := Option.some.inj hflying
              exact .inr ⟨after, List.mem_cons_self⟩
            · rw [Function.update_of_ne hwho] at hflying
              exact .inl hflying
          · exact .inr ⟨later, List.mem_cons_of_mem _ hmem⟩

/-- What the upload asks for, it asks for by its key and id. -/
theorem Names.of_issued {given' : Option String} {out : Upload × List Effect}
    (hissued : Upload.Issued key given' out) {flying : Caller → Option Flight}
    (hkept : ∀ id, given = some id → given' = some id)
    (hflights : ∀ who flight, flying who = some flight → flight.call.Names key given')
    (hmade : o.made? = none) (heffects : o.effects = out.2) :
    Names key given given' o ⟨out.1, Transfer.launch flying out.2⟩ where
  named := by
    refine ⟨hissued.uses, fun who flight hflight => ?_⟩
    rcases exists_call_of_launch hflight with hbefore | ⟨after, hmem⟩
    · exact hflights who flight hbefore
    · exact hissued.calls who after _ hmem
  kept := hkept
  made := fun who call h => by rw [hmade] at h; cases h
  opened := fun snapshot h => hissued.opened snapshot (heffects ▸ h)

/-- Once a call was answered, the others are in the air. -/
theorem Named.landed (h : Named key given w) (who : Caller) :
    ∀ other flight, Function.update w.flying who none other = some flight →
      flight.call.Names key given :=
  fun other flight hflight => h.flights other flight (Transfer.answered_of_update hflight)

theorem Named.reached (h : Named key given w) {who : Caller} {call : StoreCall}
    (hflying : w.flying who = some ⟨call, none⟩) (answer : Except StoreError String) :
    Names key given given (.reached who call answer)
      ⟨w.upload, Function.update w.flying who (some ⟨call, some answer⟩)⟩ where
  named := by
    have hnames : call.Names key given := h.flights who _ hflying
    refine ⟨h.uses, fun other flight hflight => ?_⟩
    dsimp only at hflight
    by_cases hother : other = who
    · rw [hother, Function.update_self] at hflight
      obtain rfl := Option.some.inj hflight
      exact hnames
    · rw [Function.update_of_ne hother] at hflight
      exact h.flights other flight hflight
  kept := fun _ hid => hid
  made := by
    rintro _ _ ⟨⟩
    exact h.flights who _ hflying
  opened := nofun

/-- A step uses the id that was given, or gives one. -/
theorem Named.step (h : Named key given w) (hstep : Step w o w') :
    ∃ given', Names key given given' o w' := by
  cases hstep.moved with
  | told idle begun =>
      exact ⟨given, .of_issued (begun ▸ Upload.issued_begin h.uses.session _) (fun _ hid => hid)
        h.flights rfl rfl⟩
  | ownerReached awaiting flying => exact ⟨given, h.reached flying _⟩
  | @ownerAnswered purpose asked call attempt answer result awaiting flying told =>
      have hkept : ∀ id, given = some id → Upload.givenBy given purpose answer = some id := by
        intro id hid
        unfold Upload.givenBy
        split
        · rw [(h.uses.awaits _ awaiting).1 rfl] at hid
          cases hid
        · exact hid
      refine ⟨_, .of_issued (told.issued awaiting h.uses) hkept (fun who flight hflight => ?_)
        rfl rfl⟩
      have hnames := h.landed .owner who flight hflight
      exact ⟨hnames.key_eq, fun id hid => hkept id (hnames.id_eq id hid)⟩
  | partReached onWay flying => exact ⟨given, h.reached flying _⟩
  | partAnswered onWay told =>
      exact ⟨given, .of_issued (told.issued onWay h.uses) (fun _ hid => hid) (h.landed _) rfl rfl⟩
  | partDied onWay dropped =>
      exact ⟨given, .of_issued (dropped ▸ Upload.issued_partDied h.uses _) (fun _ hid => hid)
        (h.landed _) rfl rfl⟩

end Traffic

end StudySession

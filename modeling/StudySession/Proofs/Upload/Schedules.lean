import Mathlib.Data.List.Perm.Basic
import StudySession.Proofs.Dict
import StudySession.Proofs.Upload.Accounts
import StudySession.Upload.Timeline

/-!
# Schedules

Uploads on one store under a script, with what is due in an agenda. `Timeline.occur?` lets any entry
of the agenda happen at any instant, so that what holds for it holds whatever the delays are;
`Timeline.Occurs` lists what an entry can come to. The `Terms` of a script say how its calls may
end, and a timeline that is governed by terms stays so (`Timeline.Governs.occur`).
-/

namespace StudySession

/-- What stands at a place of a list once an item was put in: that item, or what stood there. -/
theorem eq_or_getElem?_of_set {α : Type} {xs : List α} {i j : Nat} {x y : α}
    (h : (xs.set i x)[j]? = some y) : j = i ∧ y = x ∨ j ≠ i ∧ xs[j]? = some y := by
  by_cases hj : j = i
  · obtain ⟨hlt, heq⟩ := List.getElem?_eq_some_iff.1 h
    subst hj
    exact .inl ⟨rfl, heq.symm.trans (List.getElem_set_self hlt)⟩
  · rw [List.getElem?_set_ne (Ne.symm hj)] at h
    exact .inr ⟨hj, h⟩

/-! ## Scripts -/

/-- What is asked of how the calls of each name end. -/
abbrev Terms := String → Verdict → Prop

/-- Creations, completions and aborts return; the task of a part may die. -/
def Terms.returns : Terms := fun name verdict =>
  name = "create" ∨ name = "complete" ∨ name = "abort" → verdict ≠ .deadly

/-- Aborts pass. -/
def Terms.abortsPass : Terms := fun name verdict => name = "abort" → verdict = .passed

/-- A script keeps to terms. -/
def Terms.Kept (terms : Terms) (script : Dict (List ScriptedCall)) : Prop :=
  ∀ name calls, script.get? name = some calls → ∀ call ∈ calls, terms name call.verdict

namespace ScriptedStore

variable {s s' : ScriptedStore} {now : Nat} {call : StoreCall} {scripted : ScriptedCall}

/-- A call that is made changes nothing in memory yet. -/
theorem memory_of_take (h : s.take now call = (scripted, s')) : s'.memory = s.memory := by
  unfold take at h
  dsimp only at h
  split at h <;> obtain ⟨-, rfl⟩ := Prod.mk.inj h <;> rfl

/-- A call ends as its script says, and what is left of the script keeps to the terms. -/
theorem kept_of_take {terms : Terms} (hkept : terms.Kept s.script)
    (hpassed : ∀ name, terms name .passed) (h : s.take now call = (scripted, s')) :
    terms call.scriptName scripted.verdict ∧ terms.Kept s'.script := by
  unfold take at h
  dsimp only at h
  split at h
  · next next rest hfound =>
      obtain ⟨rfl, rfl⟩ := Prod.mk.inj h
      refine ⟨hkept _ _ hfound _ List.mem_cons_self, fun name calls hcalls other hother => ?_⟩
      dsimp only at hcalls
      by_cases hname : name = call.scriptName
      · rw [hname, Dict.get?_insert_self] at hcalls
        obtain rfl := Option.some.inj hcalls
        rw [hname]
        exact hkept _ _ hfound _ (List.mem_cons_of_mem _ hother)
      · rw [Dict.get?_insert_of_ne hname] at hcalls
        exact hkept _ _ hcalls _ hother
  · obtain ⟨rfl, rfl⟩ := Prod.mk.inj h
    exact ⟨hpassed _, hkept⟩

end ScriptedStore

/-! ## The agenda -/

/-- The call that an entry makes or ends for the owner of an upload. -/
def Appointment.ownerCall? (i : Nat) (a : Appointment) : Option StoreCall :=
  if a.upload = i then
    match a.due with
    | .make .owner call => some call
    | .settle .owner call _ => some call
    | _ => none
  else none

/-- The owner's calls of an upload that are in the agenda. -/
def ownerCalls (i : Nat) (agenda : List Appointment) : List StoreCall :=
  agenda.filterMap (·.ownerCall? i)

/-- The calls in an agenda end on some terms. -/
def Terms.Scheduled (terms : Terms) (agenda : List Appointment) : Prop :=
  ∀ a ∈ agenda, ∀ who call verdict, a.due = .settle who call verdict →
    terms call.scriptName verdict

theorem ownerCalls_cons (i : Nat) (a : Appointment) (agenda : List Appointment) :
    ownerCalls i (a :: agenda) = (a.ownerCall? i).toList ++ ownerCalls i agenda := by
  cases hcall : a.ownerCall? i with
  | none => exact List.filterMap_cons_none hcall
  | some call => exact List.filterMap_cons_some hcall

theorem ownerCalls_append (i : Nat) (agenda later : List Appointment) :
    ownerCalls i (agenda ++ later) = ownerCalls i agenda ++ ownerCalls i later :=
  List.filterMap_append

theorem ownerCalls_perm {agenda agenda' : List Appointment} (h : agenda.Perm agenda') (i : Nat) :
    (ownerCalls i agenda).Perm (ownerCalls i agenda') :=
  h.filterMap _

/-- Another upload's entries are not among them. -/
theorem ownerCalls_eq_nil {agenda : List Appointment} {i : Nat} (h : ∀ a ∈ agenda, a.upload ≠ i) :
    ownerCalls i agenda = [] := by
  refine List.filterMap_eq_nil_iff.2 fun a ha => ?_
  rw [Appointment.ownerCall?, if_neg (h a ha)]

/-- The entries that the effects of a reaction add. -/
def launched (now i : Nat) (effects : List Effect) : List Appointment :=
  effects.filterMap fun
    | .call who after asked => some ⟨now + after.milliseconds, i, .make who asked⟩
    | .finished _ => none

theorem ownerCalls_launched (now i : Nat) (effects : List Effect) :
    ownerCalls i (launched now i effects) = Effect.asked effects := by
  induction effects with
  | nil => rfl
  | cons effect rest ih =>
      cases effect with
      | finished result => exact ih
      | call who after asked =>
          have hcons : launched now i (.call who after asked :: rest) =
              ⟨now + after.milliseconds, i, .make who asked⟩ :: launched now i rest := rfl
          rw [hcons, ownerCalls_cons, ih]
          cases who with
          | owner => simp [Appointment.ownerCall?, Effect.asked]
          | part number => simp [Appointment.ownerCall?, Effect.asked]

theorem mem_launched {now i : Nat} {effects : List Effect} {a : Appointment}
    (h : a ∈ launched now i effects) :
    ∃ who after call, Effect.call who after call ∈ effects ∧
      a = ⟨now + after.milliseconds, i, .make who call⟩ := by
  obtain ⟨effect, hmem, heffect⟩ := List.mem_filterMap.1 h
  cases effect with
  | finished result => cases heffect
  | call who after asked => exact ⟨who, after, asked, hmem, (Option.some.inj heffect).symm⟩

namespace Timeline

theorem enter_perm (agenda : List Appointment) (a : Appointment) :
    (enter agenda a).Perm (a :: agenda) := by
  have h : (enter agenda a).Perm
      (a :: (agenda.takeWhile (fun b => decide (b.instant ≤ a.instant)) ++
        agenda.dropWhile fun b => decide (b.instant ≤ a.instant))) := List.perm_middle
  rwa [List.takeWhile_append_dropWhile] at h

/-! ## Steps -/

/-- The contact that an entry of the agenda comes to. -/
def contact? (t : Timeline) (a : Appointment) : Option Contact :=
  match a.due with
  | .settle who call verdict =>
    if t.expects a.upload who then
      match verdict with
      | .passed => some ⟨a.upload, call, (t.store.memory.perform call).1⟩
      | .failed error => some ⟨a.upload, call, .error error⟩
      | .deadly => none
    else none
  | _ => none

/-- Lets any entry of the agenda happen at any instant: the contact it comes to, and what the owner
of its upload is told. -/
def occur? (t : Timeline) (k now : Nat) : Option (Option Contact × Timeline × Option Notice) :=
  t.agenda[k]?.map fun a =>
    let t := { t with now, agenda := t.agenda.eraseIdx k }
    (t.contact? a, t.fire a.upload a.due)

/-- What is due next is one of these. -/
theorem occur?_of_pop? {t : Timeline} {limit : Option Nat} {result : Timeline × Option Notice}
    (h : t.pop? limit = some result) :
    ∃ now contact, t.occur? 0 now = some (contact, result) := by
  unfold pop? at h
  split at h
  · cases h
  · next a rest hagenda =>
      split at h
      · obtain rfl := Option.some.inj h
        exact ⟨max t.now a.instant, _, by rw [occur?, hagenda]; rfl⟩
      · cases h

/-- What an entry that was taken from the agenda comes to. -/
inductive Occurs (t : Timeline) (a : Appointment) :
    Option Contact → Timeline → Option Notice → Prop where
  | woke (due : a.due = .wake) : Occurs t a none t (some (.woke a.upload))
  /-- The caller was dropped. -/
  | missed {who : Caller} {call : StoreCall}
      (due : a.due = .make who call ∨ ∃ verdict, a.due = .settle who call verdict)
      (unexpected : t.expects a.upload who = false) : Occurs t a none t none
  | made {who : Caller} {call : StoreCall} {scripted : ScriptedCall} {store : ScriptedStore}
      (due : a.due = .make who call) (taken : t.store.take t.now call = (scripted, store)) :
      Occurs t a none
        { t with
          store
          agenda := enter t.agenda
            ⟨t.now + scripted.delayMs, a.upload, .settle who call scripted.verdict⟩ } none
  | passed {who : Caller} {call : StoreCall} {answer : Except StoreError String}
      {memory : MemoryStore} (due : a.due = .settle who call .passed)
      (expected : t.expects a.upload who = true)
      (performed : t.store.memory.perform call = (answer, memory)) :
      Occurs t a (some ⟨a.upload, call, answer⟩)
        ({ t with store := { t.store with memory } }.happen a.upload (.answered who answer)).1
        (({ t with store := { t.store with memory } }.happen a.upload (.answered who answer)).2.map
          (.finished a.upload))
  | failed {who : Caller} {call : StoreCall} {error : StoreError}
      (due : a.due = .settle who call (.failed error))
      (expected : t.expects a.upload who = true) :
      Occurs t a (some ⟨a.upload, call, .error error⟩)
        (t.happen a.upload (.answered who (.error error))).1
        ((t.happen a.upload (.answered who (.error error))).2.map (.finished a.upload))
  | died {who : Caller} {call : StoreCall} (due : a.due = .settle who call .deadly)
      (expected : t.expects a.upload who = true) :
      Occurs t a none (t.happen a.upload (.died who)).1
        ((t.happen a.upload (.died who)).2.map (.finished a.upload))

theorem occurs_fire (t : Timeline) (a : Appointment) :
    Occurs t a (t.contact? a) (t.fire a.upload a.due).1 (t.fire a.upload a.due).2 := by
  obtain ⟨instant, i, due⟩ := a
  cases due with
  | wake => exact .woke rfl
  | make who call =>
      simp only [contact?, fire]
      split
      · exact .made rfl rfl
      · next hunexpected => exact .missed (.inl rfl) (by simpa using hunexpected)
  | settle who call verdict =>
      simp only [contact?, fire]
      split
      · next hexpected =>
          cases verdict with
          | passed => exact .passed rfl hexpected rfl
          | failed error => exact .failed rfl hexpected
          | deadly => exact .died rfl hexpected
      · next hunexpected => exact .missed (.inr ⟨verdict, rfl⟩) (by simpa using hunexpected)

/-- An entry that happens is taken from the agenda. -/
theorem occurs_of_occur? {t t' : Timeline} {k now : Nat} {contact : Option Contact}
    {notice : Option Notice} (h : t.occur? k now = some (contact, t', notice)) :
    ∃ a rest, t.agenda.Perm (a :: rest) ∧
      Occurs { t with now, agenda := rest } a contact t' notice := by
  obtain ⟨a, ha, heq⟩ := Option.map_eq_some_iff.1 h
  obtain ⟨hk, rfl⟩ := List.getElem?_eq_some_iff.1 ha
  refine ⟨_, _, (List.getElem_cons_eraseIdx_perm hk).symm, ?_⟩
  have hoccurs := occurs_fire { t with now, agenda := t.agenda.eraseIdx k } t.agenda[k]
  obtain ⟨hcontact, hfire⟩ := Prod.mk.inj heq
  rwa [hcontact, hfire] at hoccurs

/-! ## Reactions on a timeline -/

/-- The effects of an upload enter its calls into the agenda, and change nothing else. -/
theorem carryOut_eq (t : Timeline) (i : Nat) (effects : List Effect) :
    ∃ agenda, t.carryOut i effects = ({ t with agenda }, Effect.ending? effects) ∧
      agenda.Perm (launched t.now i effects ++ t.agenda) := by
  induction effects generalizing t with
  | nil => exact ⟨t.agenda, rfl, .refl _⟩
  | cons effect rest ih =>
      cases effect with
      | finished result =>
          obtain ⟨agenda, heq, hperm⟩ := ih t
          refine ⟨agenda, ?_, hperm⟩
          rw [carryOut, heq]
          rfl
      | call who after asked =>
          let a : Appointment := ⟨t.now + after.milliseconds, i, .make who asked⟩
          obtain ⟨agenda, heq, hperm⟩ := ih { t with agenda := enter t.agenda a }
          refine ⟨agenda, heq, hperm.trans ?_⟩
          have hlaunched : launched t.now i (.call who after asked :: rest) =
              a :: launched t.now i rest := rfl
          rw [hlaunched]
          exact ((enter_perm t.agenda a).append_left _).trans List.perm_middle

/-- An upload reacts to an event. -/
theorem happen_eq {t : Timeline} {i : Nat} {u : Upload} (found : t.uploads[i]? = some u)
    (event : Event) :
    ∃ agenda, t.happen i event =
        ({ t with uploads := t.uploads.set i (u.react event).1, agenda },
          Effect.ending? (u.react event).2) ∧
      agenda.Perm (launched t.now i (u.react event).2 ++ t.agenda) := by
  rw [happen, found]
  exact carryOut_eq { t with uploads := t.uploads.set i (u.react event).1 } i (u.react event).2

/-- Without an upload at the place, nothing happens. -/
theorem happen_eq_self {t : Timeline} {i : Nat} (found : t.uploads[i]? = none) (event : Event) :
    t.happen i event = (t, none) := by
  rw [happen, found]

@[simp] theorem store_happen (t : Timeline) (i : Nat) (event : Event) :
    (t.happen i event).1.store = t.store := by
  cases found : t.uploads[i]? with
  | none => rw [happen_eq_self found]
  | some u =>
      obtain ⟨agenda, heq, -⟩ := happen_eq found event
      rw [heq]

end Timeline

/-! ## Terms that govern a timeline -/

namespace Terms

variable {terms : Terms} {t : Timeline}

/-- Terms govern a timeline if the calls to come and those under way end on them. -/
structure Governs (terms : Terms) (t : Timeline) : Prop where
  script : terms.Kept t.store.script
  agenda : terms.Scheduled t.agenda

theorem Scheduled.of_perm {agenda agenda' : List Appointment} (h : terms.Scheduled agenda)
    (hperm : agenda'.Perm agenda) : terms.Scheduled agenda' :=
  fun a ha => h a (hperm.subset ha)

/-- What is not the end of a call may be entered. -/
theorem Scheduled.append {agenda new : List Appointment} (h : terms.Scheduled agenda)
    (hnew : ∀ a ∈ new, ∀ who call verdict, a.due ≠ .settle who call verdict) :
    terms.Scheduled (new ++ agenda) := by
  intro a ha who call verdict hdue
  rcases List.mem_append.1 ha with ha | ha
  · exact absurd hdue (hnew a ha who call verdict)
  · exact h a ha who call verdict hdue

theorem Governs.happen (h : terms.Governs t) (i : Nat) (event : Event) :
    terms.Governs (t.happen i event).1 := by
  cases found : t.uploads[i]? with
  | none =>
      rw [Timeline.happen_eq_self found]
      exact h
  | some u =>
      obtain ⟨agenda, heq, hperm⟩ := Timeline.happen_eq found event
      rw [heq]
      refine ⟨h.script, (h.agenda.append fun a ha who call verdict hdue => ?_).of_perm hperm⟩
      obtain ⟨who', after, call', -, rfl⟩ := mem_launched ha
      cases hdue

theorem Governs.wake (h : terms.Governs t) (i : Nat) : terms.Governs (t.wake i) := by
  have hagenda : terms.Scheduled ([⟨t.now, i, .wake⟩] ++ t.agenda) := by
    refine h.agenda.append fun a ha who call verdict hdue => ?_
    rw [List.mem_singleton.1 ha] at hdue
    cases hdue
  exact ⟨h.script, hagenda.of_perm (Timeline.enter_perm t.agenda _)⟩

/-- Whatever is due next ends on the terms, and so does what comes later. -/
theorem Governs.occur (h : terms.Governs t) (hpassed : ∀ name, terms name .passed) {k now : Nat}
    {contact : Option Contact} {t' : Timeline} {notice : Option Notice}
    (hoccur : t.occur? k now = some (contact, t', notice)) : terms.Governs t' := by
  obtain ⟨a, rest, hperm, hoccurs⟩ := Timeline.occurs_of_occur? hoccur
  have hrest : terms.Governs { t with now, agenda := rest } :=
    ⟨h.script, fun b hb => h.agenda b (hperm.symm.subset (List.mem_cons_of_mem a hb))⟩
  cases hoccurs with
  | woke due => exact hrest
  | missed due unexpected => exact hrest
  | made due taken =>
      obtain ⟨hverdict, hscript⟩ := ScriptedStore.kept_of_take hrest.script hpassed taken
      refine ⟨hscript, Scheduled.of_perm ?_ (Timeline.enter_perm rest _)⟩
      intro b hb who call verdict hdue
      rcases List.mem_cons.1 hb with rfl | hb
      · obtain ⟨rfl, rfl, rfl⟩ := Due.settle.inj hdue
        exact hverdict
      · exact hrest.agenda b hb who call verdict hdue
  | @passed who call answer memory due expected performed =>
      have hanswered : terms.Governs
          { t with now, agenda := rest, store := { t.store with memory } } :=
        ⟨hrest.script, hrest.agenda⟩
      exact hanswered.happen _ _
  | failed due expected => exact hrest.happen _ _
  | died due expected => exact hrest.happen _ _

end Terms

end StudySession

import Mathlib.Logic.Function.Basic
import StudySession.Proofs.Upload.Exchanges
import StudySession.Proofs.Upload.Schedules

/-!
# Accounts on a timeline

The log of the calls that a scripted store answered, and the accounts of all uploads on it. As long
as creations, completions and aborts return, every upload stays in order (`Accounted`), whatever
happens next on the timeline (`Accounted.occur`), and with every command that fits
(`Accounted.command`).
-/

namespace StudySession

/-! ## What calls do to the store -/

namespace MemoryStore

theorem created_perform (s : MemoryStore) (call : StoreCall) :
    s.created ≤ (s.perform call).2.created := by
  rcases given?_perform s call with ⟨-, hcreated⟩ | ⟨-, hcreated⟩ <;> omega

/-- Only a creation makes a new upload pending, and its id is the next. -/
theorem pending_perform {s : MemoryStore} {call : StoreCall} {id : String}
    (h : id ∈ (s.perform call).2.pending.keys) :
    id ∈ s.pending.keys ∨
      (∃ key contentType, call = .create key contentType) ∧ id = uploadId (s.created + 1) := by
  rw [Dict.mem_keys_iff, get?_pending_perform_eq] at h
  rw [Dict.mem_keys_iff]
  cases htouch : (Exchange.mk call (s.perform call).1).touch id with
  | created key contentType =>
      obtain ⟨rfl, hid⟩ := Exchange.mk.inj (Exchange.eq_of_touch_created htouch)
      exact .inr ⟨⟨key, contentType, rfl⟩, (Except.ok.inj hid).symm⟩
  | put number body =>
      rw [htouch, Touch.apply, Option.isSome_map] at h
      exact .inl h
  | ended => rw [htouch] at h; cases h
  | untouched => rw [htouch] at h; exact .inl h

/-- What was told to complete or to drop an upload has it pending no longer. -/
theorem not_pending_perform {s : MemoryStore} {call : StoreCall} {key id : String}
    (h : (∃ parts, call = .complete key id parts) ∨ call = .abort key id) :
    id ∉ (s.perform call).2.pending.keys := by
  rw [← Dict.get?_eq_none_iff, get?_pending_perform_eq]
  rcases h with ⟨parts, rfl⟩ | rfl
  · rw [Exchange.touch_complete, Touch.apply]
  · rw [Exchange.touch_abort, Touch.apply]

end MemoryStore

/-! ## Entries -/

namespace Contact

/-- A call that was refused opened nothing. -/
theorem opened?_error (i : Nat) (call : StoreCall) (e : StoreError) :
    (⟨i, call, .error e⟩ : Contact).opened? = none := by
  cases call <;> rfl

end Contact

theorem mem_entriesOf {i : Nat} {log : List Contact} {c : Contact} :
    c ∈ entriesOf i log ↔ c ∈ log ∧ c.upload = i ∧ c.counts = true := by
  simp [entriesOf]

namespace Account

variable {stance : Stance} {u : Upload} {entries : List Contact}

/-- An upload that nothing is open of was opened and ended once, or not at all. -/
theorem settled (h : Account stance u entries)
    (hsettled : stance = .unopened ∨ stance = .past) :
    entries = [] ∨ ∃ first last opened, entries = [first, last] ∧ first.opened? = some opened ∧
      last.ended? = some opened := by
  cases h with
  | unopened phase => exact .inl rfl
  | past used shut created ended => exact .inr ⟨_, _, _, rfl, created, ended⟩
  | creating phase => simp at hsettled
  | opened phase created => simp at hsettled
  | closing closes created => simp at hsettled

/-- The owner asks to create an upload that was not opened, or to end the one that was. -/
theorem asked (h : Account stance u entries) {call : StoreCall} (hcall : call ∈ u.asking) :
    (entries = [] ∧ ∃ key contentType, call = .create key contentType) ∨
      ∃ first key id, entries = [first] ∧ first.opened? = some (key, id) ∧
        ((∃ parts, call = .complete key id parts) ∨ call = .abort key id) := by
  cases h with
  | creating phase => exact .inl ⟨rfl, _, _, List.mem_singleton.1 hcall⟩
  | closing closes created =>
      refine .inr ⟨_, _, _, rfl, created, ?_⟩
      cases closes with
      | joining phase => cases hcall
      | completing phase => exact .inl ⟨_, List.mem_singleton.1 hcall⟩
      | failing phase => exact .inr (List.mem_singleton.1 hcall)
      | aborting phase => exact .inr (List.mem_singleton.1 hcall)
  | unopened phase => cases hcall
  | opened phase created => cases hcall
  | past used shut created ended => cases hcall

end Account

/-! ## Ids -/

/-- The ids that were given out are the store's own, each to one upload. -/
structure Identified (memory : MemoryStore) (log : List Contact) : Prop where
  numbered : ∀ c ∈ log, ∀ key id, c.opened? = some (key, id) →
    ∃ n ≤ memory.created, id = MemoryStore.uploadId n
  distinct : ∀ c ∈ log, ∀ c' ∈ log, ∀ key key' id, c.opened? = some (key, id) →
    c'.opened? = some (key', id) → c.upload = c'.upload

namespace Identified

variable {memory memory' : MemoryStore} {log : List Contact}

theorem mono (h : Identified memory log) (hle : memory.created ≤ memory'.created) :
    Identified memory' log := by
  refine ⟨fun c hc key id hopened => ?_, h.distinct⟩
  obtain ⟨n, hn, hid⟩ := h.numbered c hc key id hopened
  exact ⟨n, le_trans hn hle, hid⟩

/-- A contact that opened nothing gives out no id. -/
theorem append_silent (h : Identified memory log) {c : Contact} (hsilent : c.opened? = none) :
    Identified memory (log ++ [c]) := by
  have hold : ∀ c' ∈ log ++ [c], ∀ opened, c'.opened? = some opened → c' ∈ log := by
    intro c' hc' opened hopened
    rcases List.mem_append.1 hc' with hc' | hc'
    · exact hc'
    · rw [List.mem_singleton.1 hc', hsilent] at hopened
      cases hopened
  constructor
  · intro c' hc' key id hopened
    exact h.numbered c' (hold c' hc' _ hopened) key id hopened
  · intro c' hc' c'' hc'' key key' id hopened hopened'
    exact h.distinct c' (hold c' hc' _ hopened) c'' (hold c'' hc'' _ hopened') key key' id hopened
      hopened'

/-- The next id was not given out before. -/
theorem append_created (h : Identified memory log) {c : Contact} {key : String}
    (hopened : c.opened? = some (key, MemoryStore.uploadId (memory.created + 1)))
    (hcreated : memory'.created = memory.created + 1) : Identified memory' (log ++ [c]) := by
  have hfresh : ∀ c' ∈ log, ∀ key',
      c'.opened? ≠ some (key', MemoryStore.uploadId (memory.created + 1)) := by
    intro c' hc' key' hopened'
    obtain ⟨n, hn, hid⟩ := h.numbered c' hc' _ _ hopened'
    have := MemoryStore.uploadId_injective hid
    omega
  constructor
  · intro c' hc' key' id hopened'
    rcases List.mem_append.1 hc' with hc' | hc'
    · obtain ⟨n, hn, hid⟩ := h.numbered c' hc' key' id hopened'
      exact ⟨n, by omega, hid⟩
    · rw [List.mem_singleton.1 hc', hopened] at hopened'
      obtain ⟨rfl, rfl⟩ := Prod.mk.inj (Option.some.inj hopened')
      exact ⟨_, hcreated.ge, rfl⟩
  · intro c' hc' c'' hc'' key' key'' id hopened' hopened''
    rcases List.mem_append.1 hc' with hc' | hc' <;> rcases List.mem_append.1 hc'' with hc'' | hc''
    · exact h.distinct c' hc' c'' hc'' key' key'' id hopened' hopened''
    · rw [List.mem_singleton.1 hc'', hopened] at hopened''
      obtain ⟨rfl, rfl⟩ := Prod.mk.inj (Option.some.inj hopened'')
      exact absurd hopened' (hfresh c' hc' key')
    · rw [List.mem_singleton.1 hc', hopened] at hopened'
      obtain ⟨rfl, rfl⟩ := Prod.mk.inj (Option.some.inj hopened')
      exact absurd hopened'' (hfresh c'' hc'' key'')
    · rw [List.mem_singleton.1 hc', List.mem_singleton.1 hc'']

theorem append_performed (h : Identified memory log) (i : Nat) (call : StoreCall) :
    Identified (memory.perform call).2 (log ++ [⟨i, call, (memory.perform call).1⟩]) := by
  cases call with
  | create key contentType => exact h.append_created rfl rfl
  | part key id number body =>
      exact (h.mono (MemoryStore.created_perform memory _)).append_silent rfl
  | complete key id parts =>
      exact (h.mono (MemoryStore.created_perform memory _)).append_silent rfl
  | abort key id =>
      exact (h.mono (MemoryStore.created_perform memory _)).append_silent rfl

end Identified

/-! ## Accounts on a timeline -/

/-- What a part makes or ends is a call that sends a part. -/
def Appointment.SendsPart (a : Appointment) : Prop :=
  ∀ number call, (a.due = .make (.part number) call ∨
    ∃ verdict, a.due = .settle (.part number) call verdict) → call.isPart = true

/-- An upload in order: its account is that of its stance, and the calls that are due for its owner
are those that the owner waits for. -/
structure InOrder (i : Nat) (stance : Stance) (u : Upload) (agenda : List Appointment)
    (log : List Contact) : Prop where
  account : Account stance u (entriesOf i log)
  asked : (ownerCalls i agenda).Perm u.asking
  sends : u.session.SendsParts

/-- An agenda and a log of the uploads that are there. -/
structure Tidy (count : Nat) (agenda : List Appointment) (log : List Contact) : Prop where
  placed : ∀ a ∈ agenda, a.upload < count
  sends : ∀ a ∈ agenda, a.SendsPart
  logged : ∀ c ∈ log, c.upload < count

/-- A timeline on which every upload is in order. -/
structure Accounted (t : Timeline) (stances : Nat → Stance) (log : List Contact) : Prop where
  inOrder : ∀ i u, t.uploads[i]? = some u → InOrder i (stances i) u t.agenda log
  tidy : Tidy t.uploads.length t.agenda log
  identified : Identified t.store.memory log

/-- What the owners of uploads are told, by the stances before it: the stances after it. -/
inductive Noted (count : Nat) (stances : Nat → Stance) :
    Option Notice → (Nat → Stance) → Prop where
  | woke {i : Nat} (placed : i < count) : Noted count stances (some (.woke i)) stances
  | dealt {i : Nat} {after : Stance} {result : Option (Except UploadError Outcome)}
      (placed : i < count) (dealt : Dealt (stances i) after result) :
      Noted count stances (result.map (.finished i)) (Function.update stances i after)

/-- What an upload waits for if a call is due for its owner. -/
theorem Upload.awaiting_of_asking_perm {u : Upload} {call : StoreCall} {rest : List StoreCall}
    (h : (call :: rest).Perm u.asking) :
    rest = [] ∧ ∃ purpose attempt, u.awaiting = some (.store purpose call attempt) := by
  unfold asking at h
  split at h
  · next purpose asked attempt hawaiting =>
      obtain ⟨rfl, rfl⟩ := List.cons.inj (List.perm_singleton.1 h)
      exact ⟨rfl, purpose, attempt, hawaiting⟩
  · cases List.perm_nil.1 h

namespace Accounted

variable {t : Timeline} {stances : Nat → Stance} {log : List Contact} {i : Nat} {u : Upload}

/-- Neither the instant nor the order of the agenda matters. -/
theorem of_perm (h : Accounted t stances log) (now : Nat) {agenda : List Appointment}
    (hperm : t.agenda.Perm agenda) : Accounted { t with now, agenda } stances log := by
  refine ⟨fun j v found => ?_, ?_, h.identified⟩
  · obtain ⟨account, asked, sends⟩ := h.inOrder j v found
    exact ⟨account, (ownerCalls_perm hperm j).symm.trans asked, sends⟩
  · obtain ⟨placed, sends, logged⟩ := h.tidy
    exact ⟨fun a ha => placed a (hperm.symm.subset ha), fun a ha => sends a (hperm.symm.subset ha),
      logged⟩

/-- An upload reacts: the others stay in order, and so does it if its account does. -/
theorem happen {event : Event} {kept : List StoreCall} (entry : Option Contact) {after : Stance}
    {result : Option (Except UploadError Outcome)} (found : t.uploads[i]? = some u)
    (others : ∀ j v, j ≠ i → t.uploads[j]? = some v → InOrder j (stances j) v t.agenda log)
    (tidy : Tidy t.uploads.length t.agenda log)
    (identified : Identified t.store.memory (log ++ entry.toList))
    (own : ∀ c ∈ entry.toList, c.upload = i) (sends : u.session.SendsParts)
    (asked : (ownerCalls i t.agenda).Perm kept)
    (deal : Deal kept (entriesOf i (log ++ entry.toList)) after result (u.react event)) :
    Accounted (t.happen i event).1 (Function.update stances i after) (log ++ entry.toList) ∧
      (t.happen i event).2 = result ∧
      (t.happen i event).1.uploads.length = t.uploads.length := by
  obtain ⟨hi, -⟩ := List.getElem?_eq_some_iff.1 found
  obtain ⟨agenda, heq, hperm⟩ := Timeline.happen_eq found event
  have hreacted := Upload.sendsParts_react sends event
  rw [heq]
  refine ⟨⟨fun j v hv => ?_, ?_, identified⟩, deal.result, List.length_set⟩
  · have hcalls := ownerCalls_perm hperm j
    rw [ownerCalls_append] at hcalls
    rcases eq_or_getElem?_of_set hv with ⟨rfl, rfl⟩ | ⟨hj, hv⟩
    · rw [ownerCalls_launched] at hcalls
      refine ⟨by rw [Function.update_self]; exact deal.account, ?_, hreacted.tasks⟩
      rw [← deal.asked]
      exact hcalls.trans (asked.append_left _)
    · obtain ⟨account, hasked, hsends⟩ := others j v hj hv
      have hentries : entriesOf j (log ++ entry.toList) = entriesOf j log := by
        rw [entriesOf_append]
        cases entry with
        | none => exact List.append_nil _
        | some c =>
            rw [Option.toList_some, entriesOf_singleton_of_ne, List.append_nil]
            rw [own c List.mem_cons_self]
            exact Ne.symm hj
      have hnone : ownerCalls j (launched t.now i (u.react event).2) = [] := by
        refine ownerCalls_eq_nil fun a ha => ?_
        obtain ⟨who, pause, call, -, rfl⟩ := mem_launched ha
        exact Ne.symm hj
      rw [hnone, List.nil_append] at hcalls
      exact ⟨by rw [Function.update_of_ne hj, hentries]; exact account, hcalls.trans hasked, hsends⟩
  · have hcases : ∀ a ∈ agenda, a ∈ launched t.now i (u.react event).2 ∨ a ∈ t.agenda :=
      fun a ha => List.mem_append.1 (hperm.subset ha)
    refine ⟨fun a ha => ?_, fun a ha => ?_, fun c hc => ?_⟩
    · rw [List.length_set]
      rcases hcases a ha with ha | ha
      · obtain ⟨who, pause, call, -, rfl⟩ := mem_launched ha
        exact hi
      · exact tidy.placed a ha
    · rcases hcases a ha with ha | ha
      · obtain ⟨who, pause, call, hcall, rfl⟩ := mem_launched ha
        rintro number call' (hdue | ⟨verdict, hdue⟩)
        · obtain ⟨rfl, rfl⟩ := Due.make.inj hdue
          exact hreacted.calls number pause call hcall
        · cases hdue
      · exact tidy.sends a ha
    · rw [List.length_set]
      rcases List.mem_append.1 hc with hc | hc
      · exact tidy.logged c hc
      · rw [own c hc]
        exact hi

/-! ### Commands -/

/-- A command that fits leaves every upload in order. -/
theorem command (h : Accounted t stances log) (hi : i < t.uploads.length) {c : Command}
    (hfits : Account.Fits (stances i) c) :
    ∃ after, Told (stances i) c after (t.command i c).2 ∧
      Accounted (t.command i c).1 (Function.update stances i after) log ∧
      (t.command i c).1.uploads.length = t.uploads.length := by
  have found : t.uploads[i]? = some t.uploads[i] := List.getElem?_eq_getElem hi
  obtain ⟨account, asked, sends⟩ := h.inOrder i _ found
  obtain ⟨after, result, htold, hdeal⟩ := account.told hfits
  have hquiet : t.uploads[i].awaiting = none := by
    refine account.awaiting_eq_none ?_ ?_ <;> rintro hstance <;> rw [hstance] at hfits <;>
      exact hfits
  have hasking : t.uploads[i].asking = [] := by rw [Upload.asking, hquiet]
  rw [hasking] at asked
  obtain ⟨haccounted, hresult, hlength⟩ := happen none found
    (fun j v _ hv => h.inOrder j v hv) h.tidy (by simpa using h.identified) (by simp) sends asked
    (by simpa using hdeal)
  rw [Option.toList_none, List.append_nil] at haccounted
  exact ⟨after, by rw [Timeline.command, hresult]; exact htold, haccounted, hlength⟩

/-- An upload that is added is unopened. -/
theorem add (h : Accounted t stances log) (config : UploadConfig) (name : String) :
    Accounted (t.add (.new config name)) (Function.update stances t.uploads.length .unopened)
      log := by
  obtain ⟨placed, sends, logged⟩ := h.tidy
  refine ⟨fun j v hv => ?_, ⟨fun a ha => ?_, sends, fun c hc => ?_⟩, h.identified⟩
  · rw [Timeline.add] at hv
    rcases lt_trichotomy j t.uploads.length with hj | rfl | hj
    · rw [List.getElem?_append_left hj] at hv
      rw [Function.update_of_ne (Nat.ne_of_lt hj)]
      exact h.inOrder j v hv
    · -- nothing is due for the place that was free, and nothing was logged for it
      rw [List.getElem?_append_right le_rfl, Nat.sub_self] at hv
      obtain rfl := Option.some.inj hv
      have hcalls : ownerCalls t.uploads.length t.agenda = [] :=
        ownerCalls_eq_nil fun a ha => Nat.ne_of_lt (placed a ha)
      have hentries : entriesOf t.uploads.length log = [] := by
        refine List.filter_eq_nil_iff.2 fun c hc => ?_
        simp [Nat.ne_of_lt (logged c hc)]
      refine ⟨?_, ?_, ?_⟩
      · rw [Function.update_self, hentries]
        exact .unopened rfl
      · rw [Timeline.add, hcalls]
        exact .refl _
      · intro task htask
        cases htask
    · rw [List.getElem?_eq_none] at hv
      · cases hv
      · rw [List.length_append, List.length_singleton]
        exact hj
  · rw [Timeline.add, List.length_append]
    exact Nat.lt_add_right _ (placed a ha)
  · rw [Timeline.add, List.length_append]
    exact Nat.lt_add_right _ (logged c hc)

/-- Waking an owner is no call. -/
theorem wake (h : Accounted t stances log) (hi : i < t.uploads.length) :
    Accounted (t.wake i) stances log := by
  have hperm := Timeline.enter_perm t.agenda ⟨t.now, i, .wake⟩
  refine ⟨fun j v hv => ?_, ⟨fun a ha => ?_, fun a ha => ?_, h.tidy.logged⟩, h.identified⟩
  · obtain ⟨account, asked, sends⟩ := h.inOrder j v hv
    refine ⟨account, ((ownerCalls_perm hperm j).trans ?_).trans asked, sends⟩
    have hnone : (⟨t.now, i, .wake⟩ : Appointment).ownerCall? j = none := by
      simp [Appointment.ownerCall?]
    rw [ownerCalls_cons, hnone]
    exact .refl _
  · rcases List.mem_cons.1 (hperm.subset ha) with rfl | ha
    · exact hi
    · exact h.tidy.placed a ha
  · rcases List.mem_cons.1 (hperm.subset ha) with rfl | ha
    · rintro number call (hdue | ⟨verdict, hdue⟩) <;> cases hdue
    · exact h.tidy.sends a ha

/-! ### What is due -/

/-- An entry that was taken from the agenda is no other upload's. -/
theorem others {a : Appointment} (h : Accounted { t with agenda := a :: t.agenda } stances log)
    (j : Nat) (v : Upload) (hj : j ≠ a.upload) (found : t.uploads[j]? = some v) :
    InOrder j (stances j) v t.agenda log := by
  obtain ⟨account, asked, sends⟩ := h.inOrder j v found
  have hnone : a.ownerCall? j = none := by rw [Appointment.ownerCall?, if_neg (Ne.symm hj)]
  have hcalls : ownerCalls j (a :: t.agenda) = ownerCalls j t.agenda := by
    rw [ownerCalls_cons, hnone]
    rfl
  exact ⟨account, by rw [← hcalls]; exact asked, sends⟩

theorem tidy_tail {a : Appointment} (h : Accounted { t with agenda := a :: t.agenda } stances log) :
    Tidy t.uploads.length t.agenda log :=
  ⟨fun b hb => h.tidy.placed b (List.mem_cons_of_mem a hb),
    fun b hb => h.tidy.sends b (List.mem_cons_of_mem a hb), h.tidy.logged⟩

/-- Nor does it matter if it is no call of the owner's. -/
theorem dropped {a : Appointment} (h : Accounted { t with agenda := a :: t.agenda } stances log)
    (hnone : a.ownerCall? a.upload = none) : Accounted t stances log := by
  refine ⟨fun j v found => ?_, h.tidy_tail, h.identified⟩
  by_cases hj : j = a.upload
  · subst hj
    obtain ⟨account, asked, sends⟩ := h.inOrder _ v found
    rw [ownerCalls_cons, hnone] at asked
    exact ⟨account, asked, sends⟩
  · exact h.others j v hj found

/-- A call that is made is due to end. -/
theorem made {a : Appointment} {who : Caller} {call : StoreCall}
    (h : Accounted { t with agenda := a :: t.agenda } stances log) (hdue : a.due = .make who call)
    {store : ScriptedStore} (hmemory : store.memory = t.store.memory) (instant : Nat)
    (verdict : Verdict) :
    Accounted
      { t with
        store
        agenda := Timeline.enter t.agenda ⟨instant, a.upload, .settle who call verdict⟩ }
      stances log := by
  have hperm := Timeline.enter_perm t.agenda ⟨instant, a.upload, .settle who call verdict⟩
  refine ⟨fun j v found => ?_, ⟨fun b hb => ?_, fun b hb => ?_, h.tidy.logged⟩, ?_⟩
  · obtain ⟨account, asked, sends⟩ := h.inOrder j v found
    have hcall : (⟨instant, a.upload, .settle who call verdict⟩ : Appointment).ownerCall? j =
        a.ownerCall? j := by
      rw [Appointment.ownerCall?, Appointment.ownerCall?, hdue]
      cases who <;> rfl
    refine ⟨account, ((ownerCalls_perm hperm j).trans ?_).trans asked, sends⟩
    rw [ownerCalls_cons, ownerCalls_cons, hcall]
  · rcases List.mem_cons.1 (hperm.subset hb) with rfl | hb
    · exact h.tidy.placed a List.mem_cons_self
    · exact h.tidy_tail.placed b hb
  · rcases List.mem_cons.1 (hperm.subset hb) with rfl | hb
    · rintro number call' (hother | ⟨other, hother⟩)
      · cases hother
      · obtain ⟨rfl, rfl, -⟩ := Due.settle.inj hother
        exact h.tidy.sends a List.mem_cons_self number call (.inl hdue)
    · exact h.tidy_tail.sends b hb
  · rw [hmemory]
    exact h.identified

/-- The owner waits for its call that was due, and for nothing else. -/
theorem awaits {a : Appointment} {call : StoreCall}
    (h : Accounted { t with agenda := a :: t.agenda } stances log)
    (found : t.uploads[a.upload]? = some u) (hcall : a.ownerCall? a.upload = some call) :
    ownerCalls a.upload t.agenda = [] ∧
      ∃ purpose attempt, u.awaiting = some (.store purpose call attempt) := by
  have asked := (h.inOrder _ u found).asked
  rw [ownerCalls_cons, hcall] at asked
  exact Upload.awaiting_of_asking_perm asked

/-- A call is answered. -/
theorem answered {a : Appointment} {who : Caller} {call : StoreCall}
    {answer : Except StoreError String} {verdict : Verdict}
    (h : Accounted { t with agenda := a :: t.agenda } stances log)
    (hdue : a.due = .settle who call verdict) (found : t.uploads[a.upload]? = some u)
    {memory : MemoryStore}
    (hidentified : Identified memory (log ++ [⟨a.upload, call, answer⟩])) :
    ∃ after result, Dealt (stances a.upload) after result ∧
      Accounted ({ t with store := { t.store with memory } }.happen a.upload
          (.answered who answer)).1 (Function.update stances a.upload after)
          (log ++ [⟨a.upload, call, answer⟩]) ∧
        ({ t with store := { t.store with memory } }.happen a.upload (.answered who answer)).2 =
          result ∧
        ({ t with store := { t.store with memory } }.happen a.upload
          (.answered who answer)).1.uploads.length = t.uploads.length := by
  obtain ⟨account, asked, sends⟩ := h.inOrder _ u found
  cases who with
  | owner =>
      have hcall : a.ownerCall? a.upload = some call := by
        rw [Appointment.ownerCall?, if_pos rfl, hdue]
      obtain ⟨hquiet, purpose, attempt, hawaiting⟩ := h.awaits found hcall
      obtain ⟨after, result, hdealt, hdeal⟩ := account.answered hawaiting answer a.upload
      rw [← entriesOf_append] at hdeal
      exact ⟨after, result, hdealt,
        happen (t := { t with store := { t.store with memory } })
          (some ⟨a.upload, call, answer⟩) found h.others h.tidy_tail hidentified (by simp)
          sends (by rw [hquiet]) hdeal⟩
  | part number =>
      have hnone : a.ownerCall? a.upload = none := by
        rw [Appointment.ownerCall?, if_pos rfl, hdue]
      have hpart : call.isPart = true :=
        h.tidy.sends a List.mem_cons_self number call (.inr ⟨verdict, hdue⟩)
      have hentries : entriesOf a.upload (log ++ [⟨a.upload, call, answer⟩]) =
          entriesOf a.upload log := by
        rw [entriesOf_append, entriesOf_singleton_of_not_counts (Contact.counts_of_isPart hpart),
          List.append_nil]
      rw [ownerCalls_cons, hnone] at asked
      exact ⟨_, none, .waits,
        happen (t := { t with store := { t.store with memory } })
          (some ⟨a.upload, call, answer⟩) found h.others h.tidy_tail hidentified (by simp)
          sends asked (by rw [Option.toList_some, hentries]; exact account.partAnswered number answer)⟩

/-- What the owner's call that is due can be, and what the upload entered before it. -/
theorem asked_of_due {a : Appointment} {call : StoreCall} {verdict : Verdict}
    (h : Accounted { t with agenda := a :: t.agenda } stances log)
    (hdue : a.due = .settle .owner call verdict) (found : t.uploads[a.upload]? = some u) :
    (entriesOf a.upload log = [] ∧ ∃ key contentType, call = .create key contentType) ∨
      ∃ first key id, entriesOf a.upload log = [first] ∧ first.opened? = some (key, id) ∧
        ((∃ parts, call = .complete key id parts) ∨ call = .abort key id) := by
  have hcall : a.ownerCall? a.upload = some call := by
    rw [Appointment.ownerCall?, if_pos rfl, hdue]
  obtain ⟨-, purpose, attempt, hawaiting⟩ := h.awaits found hcall
  refine (h.inOrder _ u found).account.asked ?_
  rw [Upload.asking, hawaiting]
  exact List.mem_cons_self

/-- The owner's calls return. -/
theorem returns {a : Appointment} {call : StoreCall}
    (h : Accounted { t with agenda := a :: t.agenda } stances log)
    (hdue : a.due = .settle .owner call .deadly) (found : t.uploads[a.upload]? = some u)
    (hreturns : Terms.returns call.scriptName .deadly) : False := by
  rcases h.asked_of_due hdue found with
    ⟨-, key, contentType, rfl⟩ | ⟨first, key, id, -, -, ⟨parts, rfl⟩ | rfl⟩
  · exact hreturns (.inl rfl) rfl
  · exact hreturns (.inr (.inl rfl)) rfl
  · exact hreturns (.inr (.inr rfl)) rfl

/-- The end of a task takes a part with it, and nothing else. -/
theorem died {a : Appointment} {who : Caller} {call : StoreCall}
    (h : Accounted { t with agenda := a :: t.agenda } stances log)
    (hdue : a.due = .settle who call .deadly) (found : t.uploads[a.upload]? = some u)
    (hreturns : Terms.returns call.scriptName .deadly) :
    Accounted (t.happen a.upload (.died who)).1
        (Function.update stances a.upload (stances a.upload)) log ∧
      (t.happen a.upload (.died who)).2 = none ∧
      (t.happen a.upload (.died who)).1.uploads.length = t.uploads.length := by
  obtain ⟨account, asked, sends⟩ := h.inOrder _ u found
  cases who with
  | owner => exact (h.returns hdue found hreturns).elim
  | part number =>
      have hnone : a.ownerCall? a.upload = none := by
        rw [Appointment.ownerCall?, if_pos rfl, hdue]
      rw [ownerCalls_cons, hnone] at asked
      have hhappen := happen none found h.others h.tidy_tail (by simpa using h.identified)
        (by simp) sends asked (by simpa using account.partDied number)
      rwa [Option.toList_none, List.append_nil] at hhappen

/-- What is due next is taken from the agenda, and is due for an upload there is. -/
theorem taken (h : Accounted t stances log) {k now : Nat} {contact : Option Contact}
    {t' : Timeline} {notice : Option Notice} (hoccur : t.occur? k now = some (contact, t', notice)) :
    ∃ a rest u, a ∈ t.agenda ∧ t.uploads[a.upload]? = some u ∧
      Accounted { { t with now, agenda := rest } with agenda := a :: rest } stances log ∧
      Timeline.Occurs { t with now, agenda := rest } a contact t' notice := by
  obtain ⟨a, rest, hperm, hoccurs⟩ := Timeline.occurs_of_occur? hoccur
  have htaken : Accounted { { t with now, agenda := rest } with agenda := a :: rest } stances log :=
    h.of_perm now hperm
  have hplaced : a.upload < t.uploads.length := htaken.tidy.placed a List.mem_cons_self
  exact ⟨a, rest, _, hperm.symm.subset List.mem_cons_self, List.getElem?_eq_getElem hplaced, htaken,
    hoccurs⟩

/-- Whatever is due next leaves every upload in order. -/
theorem occur (h : Accounted t stances log) (hgoverns : Terms.returns.Governs t) {k now : Nat}
    {contact : Option Contact} {t' : Timeline} {notice : Option Notice}
    (hoccur : t.occur? k now = some (contact, t', notice)) :
    ∃ stances', Noted t.uploads.length stances notice stances' ∧
      Accounted t' stances' (log ++ contact.toList) ∧ t'.uploads.length = t.uploads.length := by
  obtain ⟨a, rest, u, hmem, found, htaken, hoccurs⟩ := h.taken hoccur
  have hplaced : a.upload < t.uploads.length := (List.getElem?_eq_some_iff.1 found).1
  have hstill : Noted t.uploads.length stances none stances := by
    have hdealt : Noted t.uploads.length stances none _ := .dealt hplaced .waits
    rwa [Function.update_eq_self] at hdealt
  cases hoccurs with
  | woke due =>
      refine ⟨stances, .woke hplaced, ?_, rfl⟩
      rw [Option.toList_none, List.append_nil]
      exact htaken.dropped (by rw [Appointment.ownerCall?, if_pos rfl, due])
  | @missed who call due unexpected =>
      refine ⟨stances, hstill, ?_, rfl⟩
      rw [Option.toList_none, List.append_nil]
      refine htaken.dropped ?_
      cases who with
      | part number =>
          rcases due with due | ⟨verdict, due⟩ <;> rw [Appointment.ownerCall?, if_pos rfl, due]
      | owner =>
          -- the owner waits for the call that is due, so it was expected
          have hcall : a.ownerCall? a.upload = some call := by
            rcases due with due | ⟨verdict, due⟩ <;> rw [Appointment.ownerCall?, if_pos rfl, due]
          obtain ⟨-, purpose, attempt, hawaiting⟩ := htaken.awaits found hcall
          simp [Timeline.expects, Upload.expects, found, hawaiting] at unexpected
  | made due taken =>
      refine ⟨stances, hstill, ?_, rfl⟩
      rw [Option.toList_none, List.append_nil]
      exact made (t := { t with now, agenda := rest }) htaken due
        (ScriptedStore.memory_of_take taken) _ _
  | @passed who call answer memory due expected performed =>
      have hidentified := h.identified.append_performed a.upload call
      rw [performed] at hidentified
      obtain ⟨after, result, hdealt, haccounted, hresult, hlength⟩ :=
        answered (t := { t with now, agenda := rest }) htaken due found hidentified
      exact ⟨_, by rw [hresult]; exact .dealt hplaced hdealt, haccounted, hlength⟩
  | @failed who call error due expected =>
      have hidentified := h.identified.append_silent (Contact.opened?_error a.upload call error)
      obtain ⟨after, result, hdealt, haccounted, hresult, hlength⟩ :=
        answered (t := { t with now, agenda := rest }) htaken due found hidentified
      exact ⟨_, by rw [hresult]; exact .dealt hplaced hdealt, haccounted, hlength⟩
  | @died who call due expected =>
      have hreturns : Terms.returns call.scriptName .deadly :=
        hgoverns.agenda a hmem who call _ due
      obtain ⟨haccounted, hresult, hlength⟩ :=
        died (t := { t with now, agenda := rest }) htaken due found hreturns
      refine ⟨_, by rw [hresult]; exact .dealt hplaced .waits, ?_, hlength⟩
      rw [Option.toList_none, List.append_nil]
      exact haccounted

end Accounted

end StudySession

import StudySession.Proofs.Upload.Timelines

/-!
# The ledger of a store

What the accounts of all uploads on a timeline come to. Once every upload is unopened or past, each
creation that succeeded was followed by the end of the same upload, and by one only
(`Ledger.endedOnce`); and where aborts pass, nothing is left on the store (`Ledger.pending_eq_nil`).
-/

namespace StudySession

/-! ## What is left on the store -/

/-- What is pending on the store was opened, and was not ended. -/
def Covered (memory : MemoryStore) (log : List Contact) : Prop :=
  ∀ id ∈ memory.pending.keys, ∃ i key first, entriesOf i log = [first] ∧
    first.opened? = some (key, id)

namespace Covered

variable {t : Timeline} {stances : Nat → Stance} {log : List Contact} {memory : MemoryStore}

/-- Where no upload was opened or ended, nothing changes. -/
theorem append_uncounted {memory' : MemoryStore} (h : Covered memory log)
    (hkeys : ∀ id ∈ memory'.pending.keys, id ∈ memory.pending.keys) {c : Contact}
    (hcounts : c.counts = false) : Covered memory' (log ++ [c]) := by
  intro id hid
  obtain ⟨i, key, first, hentries, hopened⟩ := h id (hkeys id hid)
  refine ⟨i, key, first, ?_, hopened⟩
  rw [entriesOf_append, entriesOf_singleton_of_not_counts hcounts, hentries, List.append_nil]

/-- A creation is of a place at which nothing was opened. -/
theorem append_created (h : Covered memory log) {i : Nat} (hunopened : entriesOf i log = [])
    (key contentType : String) :
    Covered (memory.perform (.create key contentType)).2
      (log ++ [⟨i, .create key contentType, (memory.perform (.create key contentType)).1⟩]) := by
  intro id hid
  rcases MemoryStore.pending_perform hid with hid | ⟨-, rfl⟩
  · obtain ⟨j, key', first, hentries, hopened⟩ := h id hid
    refine ⟨j, key', first, ?_, hopened⟩
    have hne : i ≠ j := by
      rintro rfl
      rw [hunopened] at hentries
      cases hentries
    rw [entriesOf_append, entriesOf_singleton_of_ne hne, hentries, List.append_nil]
  · refine ⟨i, key, ⟨i, .create key contentType, (memory.perform (.create key contentType)).1⟩,
      ?_, rfl⟩
    rw [entriesOf_append, hunopened]
    exact entriesOf_singleton_self rfl

/-- What is completed or dropped is pending no longer, whatever the answer. -/
theorem append_ended (h : Covered memory log) {i : Nat} {first : Contact} {key id : String}
    (hentries : entriesOf i log = [first]) (hopened : first.opened? = some (key, id))
    {call : StoreCall} (hcall : (∃ parts, call = .complete key id parts) ∨ call = .abort key id) :
    Covered (memory.perform call).2 (log ++ [⟨i, call, (memory.perform call).1⟩]) := by
  intro other hother
  rcases MemoryStore.pending_perform hother with hpending | ⟨⟨key', contentType, rfl⟩, -⟩
  · obtain ⟨j, key', first', hentries', hopened'⟩ := h other hpending
    refine ⟨j, key', first', ?_, hopened'⟩
    have hne : i ≠ j := by
      rintro rfl
      rw [hentries] at hentries'
      obtain rfl := (List.cons.inj hentries').1
      obtain ⟨rfl, rfl⟩ := Prod.mk.inj (Option.some.inj (hopened.symm.trans hopened'))
      exact MemoryStore.not_pending_perform hcall hother
    rw [entriesOf_append, entriesOf_singleton_of_ne hne, hentries', List.append_nil]
  · rcases hcall with ⟨parts, hcall⟩ | hcall <;> cases hcall

theorem append_performed {a : Appointment} {who : Caller} {call : StoreCall} {verdict : Verdict}
    (h : Accounted { t with agenda := a :: t.agenda } stances log)
    (hcovered : Covered t.store.memory log) (hdue : a.due = .settle who call verdict) {u : Upload}
    (found : t.uploads[a.upload]? = some u) :
    Covered (t.store.memory.perform call).2
      (log ++ [⟨a.upload, call, (t.store.memory.perform call).1⟩]) := by
  cases who with
  | owner =>
      rcases h.asked_of_due hdue found with
        ⟨hentries, key, contentType, rfl⟩ | ⟨first, key, id, hentries, hopened, hends⟩
      · exact hcovered.append_created hentries key contentType
      · exact hcovered.append_ended hentries hopened hends
  | part number =>
      have hpart : call.isPart = true :=
        h.tidy.sends a List.mem_cons_self number call (.inr ⟨verdict, hdue⟩)
      refine hcovered.append_uncounted (fun id hid => ?_) (Contact.counts_of_isPart hpart)
      rcases MemoryStore.pending_perform hid with hid | ⟨⟨key, contentType, rfl⟩, -⟩
      · exact hid
      · cases hpart

/-- A call that fails ends nothing, unless it should drop an upload. -/
theorem append_failed (h : Covered memory log) {call : StoreCall} {error : StoreError}
    (haborts : Terms.abortsPass call.scriptName (.failed error)) (i : Nat) :
    Covered memory (log ++ [⟨i, call, .error error⟩]) := by
  refine h.append_uncounted (fun id hid => hid) ?_
  cases call with
  | create key contentType => rfl
  | part key id number body => rfl
  | complete key id parts => rfl
  | abort key id => cases haborts rfl

/-- Where aborts pass, what is pending stays covered. -/
theorem occur (hcovered : Covered t.store.memory log) (h : Accounted t stances log)
    (haborts : Terms.abortsPass.Governs t) {k now : Nat} {contact : Option Contact} {t' : Timeline}
    {notice : Option Notice} (hoccur : t.occur? k now = some (contact, t', notice)) :
    Covered t'.store.memory (log ++ contact.toList) := by
  obtain ⟨a, rest, u, hmem, found, htaken, hoccurs⟩ := h.taken hoccur
  have hsame : Covered t.store.memory (log ++ []) := by rwa [List.append_nil]
  cases hoccurs with
  | woke due => exact hsame
  | missed due unexpected => exact hsame
  | made due taken =>
      have hmemory := ScriptedStore.memory_of_take taken
      dsimp only at hmemory ⊢
      rw [hmemory]
      exact hsame
  | passed due expected performed =>
      have hperformed := append_performed (t := { t with now, agenda := rest }) htaken hcovered due
        found
      rw [performed] at hperformed
      rw [Timeline.store_happen]
      exact hperformed
  | @failed who call error due expected =>
      have hpass := haborts.agenda a hmem who call _ due
      rw [Timeline.store_happen]
      exact hcovered.append_failed hpass a.upload
  | died due expected =>
      rw [Timeline.store_happen]
      exact hsame

end Covered

/-! ## Once everything is over -/

namespace Accounted

variable {t : Timeline} {stances : Nat → Stance} {log : List Contact}

/-- Nothing is open any more. -/
abbrev Settled (t : Timeline) (stances : Nat → Stance) : Prop :=
  ∀ i < t.uploads.length, stances i = .unopened ∨ stances i = .past

/-- Then what an upload entered is that it was opened and ended, if anything. -/
theorem entries (h : Accounted t stances log) (hsettled : Settled t stances) {c : Contact}
    (hc : c ∈ log) (hcounts : c.counts = true) :
    ∃ first last opened, entriesOf c.upload log = [first, last] ∧ first.opened? = some opened ∧
      last.ended? = some opened := by
  have hplaced := h.tidy.logged c hc
  obtain ⟨account, -, -⟩ := h.inOrder c.upload _ (List.getElem?_eq_getElem hplaced)
  rcases account.settled (hsettled _ hplaced) with hnone | hpair
  · have hmem : c ∈ entriesOf c.upload log := mem_entriesOf.2 ⟨hc, rfl, hcounts⟩
    rw [hnone] at hmem
    cases hmem
  · exact hpair

end Accounted

/-- The accounts of a timeline and the terms that govern it; where aborts pass, what is pending on
the store is covered by them. -/
structure Ledger (passing : Prop) (t : Timeline) (stances : Nat → Stance) (log : List Contact) :
    Prop where
  accounted : Accounted t stances log
  returns : Terms.returns.Governs t
  covered : passing → Terms.abortsPass.Governs t ∧ Covered t.store.memory log

theorem Terms.returns_passed (name : String) : Terms.returns name .passed := by
  rintro - hdeadly
  cases hdeadly

theorem Terms.abortsPass_passed (name : String) : Terms.abortsPass name .passed := fun _ => rfl

namespace Ledger

variable {passing : Prop} {t : Timeline} {stances : Nat → Stance} {log : List Contact} {i : Nat}

/-- The ledger of a store that nothing was asked of yet. -/
theorem new {script : Dict (List ScriptedCall)} (hreturns : Terms.returns.Kept script)
    (hpassing : passing → Terms.abortsPass.Kept script) (stances : Nat → Stance) :
    Ledger passing (.new script) stances [] := by
  refine ⟨⟨fun j v found => ?_, ⟨?_, ?_, ?_⟩, ⟨?_, ?_⟩⟩, ⟨hreturns, ?_⟩,
    fun h => ⟨⟨hpassing h, ?_⟩, ?_⟩⟩
  · cases found
  all_goals
    intro _ hnone
    cases hnone

theorem command (h : Ledger passing t stances log) (hi : i < t.uploads.length) {c : Command}
    (hfits : Account.Fits (stances i) c) :
    ∃ after, Told (stances i) c after (t.command i c).2 ∧
      Ledger passing (t.command i c).1 (Function.update stances i after) log ∧
      (t.command i c).1.uploads.length = t.uploads.length := by
  obtain ⟨after, htold, haccounted, hlength⟩ := h.accounted.command hi hfits
  refine ⟨after, htold, ⟨haccounted, h.returns.happen i _, fun hp => ?_⟩, hlength⟩
  obtain ⟨hpasses, hcovered⟩ := h.covered hp
  refine ⟨hpasses.happen i _, ?_⟩
  rwa [Timeline.command, Timeline.store_happen]

theorem add (h : Ledger passing t stances log) (config : UploadConfig) (name : String) :
    Ledger passing (t.add (.new config name))
      (Function.update stances t.uploads.length .unopened) log :=
  ⟨h.accounted.add config name, ⟨h.returns.script, h.returns.agenda⟩,
    fun hp => ⟨⟨(h.covered hp).1.script, (h.covered hp).1.agenda⟩, (h.covered hp).2⟩⟩

theorem wake (h : Ledger passing t stances log) (hi : i < t.uploads.length) :
    Ledger passing (t.wake i) stances log :=
  ⟨h.accounted.wake hi, h.returns.wake i, fun hp => ⟨(h.covered hp).1.wake i, (h.covered hp).2⟩⟩

/-- The clock is of no account. -/
theorem at_instant (h : Ledger passing t stances log) (now : Nat) :
    Ledger passing { t with now } stances log :=
  ⟨h.accounted.of_perm now (.refl _), ⟨h.returns.script, h.returns.agenda⟩,
    fun hp => ⟨⟨(h.covered hp).1.script, (h.covered hp).1.agenda⟩, (h.covered hp).2⟩⟩

theorem occur (h : Ledger passing t stances log) {k now : Nat} {contact : Option Contact}
    {t' : Timeline} {notice : Option Notice}
    (hoccur : t.occur? k now = some (contact, t', notice)) :
    ∃ stances', Noted t.uploads.length stances notice stances' ∧
      Ledger passing t' stances' (log ++ contact.toList) ∧
      t'.uploads.length = t.uploads.length := by
  obtain ⟨stances', hnoted, haccounted, hlength⟩ := h.accounted.occur h.returns hoccur
  refine ⟨stances', hnoted, ⟨haccounted, h.returns.occur Terms.returns_passed hoccur, fun hp => ?_⟩,
    hlength⟩
  obtain ⟨hpasses, hcovered⟩ := h.covered hp
  exact ⟨hpasses.occur Terms.abortsPass_passed hoccur,
    hcovered.occur h.accounted hpasses hoccur⟩

end Ledger

/-! ## Plays -/

section Plays

variable {σ μ : Type} {move? : σ → μ → Option (σ × Option Contact)}

/-- Makes one move after the other: the state after them, and all that the store answered. -/
def playMoves (move? : σ → μ → Option (σ × Option Contact)) (s : σ) :
    List μ → Option (σ × List Contact)
  | [] => some (s, [])
  | m :: rest => do
    let (s, contact) ← move? s m
    let (s, later) ← playMoves move? s rest
    pure (s, contact.toList ++ later)

theorem playMoves_cons_eq_some {s s' : σ} {m : μ} {rest : List μ} {log : List Contact}
    (h : playMoves move? s (m :: rest) = some (s', log)) :
    ∃ next contact later, move? s m = some (next, contact) ∧
      playMoves move? next rest = some (s', later) ∧ log = contact.toList ++ later := by
  obtain ⟨⟨next, contact⟩, hmove, hrest⟩ := Option.bind_eq_some_iff.1 h
  obtain ⟨⟨last, later⟩, hlater, heq⟩ := Option.bind_eq_some_iff.1 hrest
  obtain ⟨rfl, rfl⟩ := Prod.mk.inj (Option.some.inj heq)
  exact ⟨next, contact, later, hmove, hlater, rfl⟩

/-- What every move keeps is kept by a play. -/
theorem kept_of_playMoves {P : σ → List Contact → Prop}
    (hstep : ∀ s m s' contact log, P s log → move? s m = some (s', contact) →
      P s' (log ++ contact.toList))
    {s s' : σ} {moves : List μ} {log later : List Contact} (h : P s log)
    (hplay : playMoves move? s moves = some (s', later)) : P s' (log ++ later) := by
  induction moves generalizing s log later with
  | nil =>
      obtain ⟨rfl, rfl⟩ := Prod.mk.inj (Option.some.inj hplay)
      rwa [List.append_nil]
  | cons m rest ih =>
      obtain ⟨next, contact, more, hmove, hmore, rfl⟩ := playMoves_cons_eq_some hplay
      rw [← List.append_assoc]
      exact ih (hstep s m next contact log h hmove) hmore

end Plays

end StudySession

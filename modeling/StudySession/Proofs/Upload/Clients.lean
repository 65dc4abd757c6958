import Mathlib.Data.Set.Function
import Mathlib.Tactic.IntervalCases
import StudySession.Proofs.Upload.Recall

/-!
# Clients of one store

Clients that keep to keys of their own, and name no uploads but those that were created for them,
do not notice each other, however their calls alternate (`MemoryStore.as_if_alone`). The ids of
uploads are numbered over all clients, so each has other ids than it would have had alone; calls,
answers and objects are the same but for these. The store that a client would have had is followed
beside the one that all use (`MemoryStore.Mimics`): a call of the client is made on both, and a call
of somebody else on the common one only.
-/

namespace StudySession

/-! ## Other ids -/

/-- A call that names another id. -/
def StoreCall.rename (ρ : String → String) : StoreCall → StoreCall
  | create key contentType => create key contentType
  | part key id number body => part key (ρ id) number body
  | complete key id parts => complete key (ρ id) parts
  | abort key id => abort key (ρ id)

/-- The refusal of an upload under its other id; no other refusal has an id in it. -/
def StoreError.rename (ρ : String → String) (id : String) (e : StoreError) : StoreError :=
  if e = MemoryStore.noSuchUpload id then MemoryStore.noSuchUpload (ρ id) else e

/-- The same exchange with other ids. A creation is answered by an id, and any other call names the
one that its refusal may have. -/
def Exchange.rename (ρ : String → String) (e : Exchange) : Exchange where
  call := e.call.rename ρ
  answer :=
    match e.call.id? with
    | none => e.answer.map ρ
    | some id => e.answer.mapError (StoreError.rename ρ id)

/-! ## Several clients -/

variable {ι : Type} {α : Type}

/-- What is of one client, in order. -/
def ofClient [DecidableEq ι] (i : ι) (entries : List (ι × α)) : List α :=
  (entries.filter (·.1 = i)).map Prod.snd

namespace MemoryStore

/-- Makes the calls of several clients on one store, one after the other: what was said by whom, and
the store after it. -/
def confer (calls : List (ι × StoreCall)) : List (ι × Exchange) × MemoryStore :=
  let (log, s) := empty.converse (calls.map Prod.snd)
  ((calls.map Prod.fst).zip log, s)

/-- The ids of the uploads that were created for a client. -/
def idsOf [DecidableEq ι] (i : ι) (calls : List (ι × StoreCall)) : List String :=
  idsGiven (ofClient i (confer calls).1)

/-- Clients have no keys in common, and each makes calls for its keys only and names no uploads but
those that were created for it before. -/
structure Separate [DecidableEq ι] (keys : ι → Set String) (calls : List (ι × StoreCall)) :
    Prop where
  disjoint : ∀ i j, i ≠ j → ∀ key ∈ keys i, key ∉ keys j
  keeps : ∀ before i call after, calls = before ++ (i, call) :: after →
    call.key ∈ keys i ∧ ∀ id, call.id? = some id → id ∈ idsOf i before

/-- The conversation that a client would have had with a store of its own. -/
def alone [DecidableEq ι] (ρ : String → String) (i : ι) (calls : List (ι × StoreCall)) :
    List Exchange × MemoryStore :=
  empty.converse ((ofClient i calls).map (StoreCall.rename ρ))

/-- A client is answered what it would have been with a store of its own, but for the ids, and at
every moment there are the same objects under its keys. -/
structure AsIfAlone [DecidableEq ι] (keys : Set String) (i : ι) (calls : List (ι × StoreCall))
    (ρ : String → String) : Prop where
  ids : Set.BijOn ρ {id | id ∈ idsOf i calls} {id | id ∈ idsGiven (alone ρ i calls).1}
  log : (alone ρ i calls).1 = (ofClient i (confer calls).1).map (Exchange.rename ρ)
  objects : ∀ earlier, earlier <+: calls → ∀ key ∈ keys,
    (alone ρ i earlier).2.objects.get? key = (confer earlier).2.objects.get? key

end MemoryStore

/-! ## Renaming -/

theorem StoreError.rename_self (ρ : String → String) (id : String) :
    (MemoryStore.noSuchUpload id).rename ρ id = MemoryStore.noSuchUpload (ρ id) :=
  if_pos rfl

/-- A refusal that begins with other words is no different under other ids. -/
theorem StoreError.rename_of_ne {ρ : String → String} {id text : String}
    (h : text.toList.head? ≠ some 'n') :
    (StoreError.rejected text).rename ρ id = .rejected text := by
  refine if_neg fun heq => h ?_
  rw [StoreError.rejected.inj heq, String.toList_append]
  rfl

theorem StoreError.rename_assemble {ρ : String → String} {id : String}
    {stored : List (Nat × ByteArray)} {parts : List CompletedPart} {e : StoreError}
    (h : MemoryStore.assemble stored parts = .error e) : e.rename ρ id = e := by
  induction parts with
  | nil => cases h
  | cons part rest ih =>
      rw [MemoryStore.assemble] at h
      split at h
      · rw [← Except.error.inj h]
        exact rename_of_ne (by simp)
      · split at h
        · cases hrest : MemoryStore.assemble stored rest with
          | error e' =>
              rw [hrest] at h
              obtain rfl := Except.error.inj h
              exact ih hrest
          | ok body => rw [hrest] at h; cases h
        · rw [← Except.error.inj h]
          exact rename_of_ne (by simp)

namespace Exchange

variable {e : Exchange} {id : String} {ρ : String → String}

theorem given?_rename (ρ : String → String) (e : Exchange) :
    (e.rename ρ).given? = e.given?.map ρ := by
  obtain ⟨call, answer⟩ := e
  cases call <;> cases answer <;> rfl

theorem touch_of_given? (h : e.given? = some id) :
    ∃ key contentType, e.touch id = .created key contentType := by
  obtain ⟨call, answer⟩ := e
  cases call <;> cases answer <;> try cases h
  exact ⟨_, _, if_pos rfl⟩

/-- Under other ids, an exchange does the same to the same upload. -/
theorem touch_rename (hnamed : ∀ named, e.call.id? = some named → ρ named = ρ id → named = id)
    (hgiven : ∀ given, e.given? = some given → ρ given = ρ id → given = id) :
    (e.rename ρ).touch (ρ id) = e.touch id := by
  have hiff {other : String} (h : ρ other = ρ id → other = id) : ρ other = ρ id ↔ other = id :=
    ⟨h, congrArg ρ⟩
  obtain ⟨call, answer⟩ := e
  cases call with
  | create key contentType =>
      cases answer with
      | error error => rfl
      | ok given => exact if_congr (hiff (hgiven given rfl)) rfl rfl
  | part key named number body =>
      cases answer with
      | error error => rfl
      | ok tag => exact if_congr (hiff (hnamed named rfl)) rfl rfl
  | complete key named parts => exact if_congr (hiff (hnamed named rfl)) rfl rfl
  | abort key named => exact if_congr (hiff (hnamed named rfl)) rfl rfl

end Exchange

/-! ## Who said what -/

section ofClient

variable [DecidableEq ι] {i j : ι} (entries : List (ι × α)) (x : α)

@[simp] theorem ofClient_snoc_self (i : ι) :
    ofClient i (entries ++ [(i, x)]) = ofClient i entries ++ [x] := by
  simp [ofClient]

theorem ofClient_snoc_of_ne (h : j ≠ i) :
    ofClient i (entries ++ [(j, x)]) = ofClient i entries := by
  simp [ofClient, h]

end ofClient

namespace MemoryStore

theorem length_converse (s : MemoryStore) (calls : List StoreCall) :
    (s.converse calls).1.length = calls.length := by
  induction calls using List.reverseRecOn with
  | nil => rfl
  | append_singleton calls call ih =>
      rw [converse_snoc, List.length_append, List.length_append, ih]
      rfl

theorem confer_snoc (calls : List (ι × StoreCall)) (i : ι) (call : StoreCall) :
    confer (calls ++ [(i, call)]) =
      ((confer calls).1 ++ [(i, ⟨call, ((confer calls).2.perform call).1⟩)],
        ((confer calls).2.perform call).2) := by
  have hlength : (calls.map Prod.fst).length =
      (empty.converse (calls.map Prod.snd)).1.length := by
    rw [length_converse, List.length_map, List.length_map]
  simp only [confer, List.map_append, List.map_cons, List.map_nil, converse_snoc,
    List.zip_append hlength, List.zip_cons_cons, List.zip_nil_right]

section idsOf

variable [DecidableEq ι] {keys : ι → Set String} {calls : List (ι × StoreCall)} {i j : ι}
  {call : StoreCall} {id : String}

theorem idsOf_snoc_self (calls : List (ι × StoreCall)) (i : ι) (call : StoreCall) :
    idsOf i (calls ++ [(i, call)]) = idsOf i calls ++
      (Exchange.mk call ((confer calls).2.perform call).1).given?.toList := by
  rw [idsOf, confer_snoc, ofClient_snoc_self, idsGiven, List.filterMap_append]
  cases hgiven : (Exchange.mk call ((confer calls).2.perform call).1).given? with
  | none => rw [List.filterMap_cons_none hgiven]; rfl
  | some id => rw [List.filterMap_cons_some hgiven]; rfl

theorem idsOf_snoc_of_ne (calls : List (ι × StoreCall)) (h : j ≠ i) (call : StoreCall) :
    idsOf i (calls ++ [(j, call)]) = idsOf i calls := by
  rw [idsOf, confer_snoc, ofClient_snoc_of_ne _ _ h]
  rfl

theorem mem_idsOf_snoc : id ∈ idsOf i (calls ++ [(j, call)]) ↔ id ∈ idsOf i calls ∨
    j = i ∧ (Exchange.mk call ((confer calls).2.perform call).1).given? = some id := by
  by_cases hj : j = i
  · subst hj
    rw [idsOf_snoc_self, List.mem_append, Option.mem_toList]
    simp
  · rw [idsOf_snoc_of_ne _ hj]
    simp [hj]

/-- Every id that was given has a number, and was given once and to one client. -/
structure Dealt (calls : List (ι × StoreCall)) : Prop where
  numbered : ∀ i, ∀ id ∈ idsOf i calls, ∃ n < (confer calls).2.created, id = uploadId (n + 1)
  nodup : ∀ i, (idsOf i calls).Nodup
  single : ∀ i j id, id ∈ idsOf i calls → id ∈ idsOf j calls → i = j

/-- The id that is given next is no client's. -/
theorem Dealt.next_not_mem (h : Dealt calls) (i : ι) :
    uploadId ((confer calls).2.created + 1) ∉ idsOf i calls := by
  intro hmem
  obtain ⟨n, hn, heq⟩ := h.numbered i _ hmem
  have := uploadId_injective heq
  omega

theorem Dealt.not_mem_of_given (h : Dealt calls) (i : ι)
    (hgiven : (Exchange.mk call ((confer calls).2.perform call).1).given? = some id) :
    id ∉ idsOf i calls := by
  rw [eq_of_given?_perform hgiven]
  exact h.next_not_mem i

theorem Dealt.snoc (h : Dealt calls) (j : ι) (call : StoreCall) :
    Dealt (calls ++ [(j, call)]) where
  numbered i id hid := by
    rw [confer_snoc]
    dsimp only
    rcases given?_perform (confer calls).2 call with ⟨hnone, hcreated⟩ | ⟨hsome, hcreated⟩
    · rw [hcreated]
      rcases mem_idsOf_snoc.1 hid with hid | ⟨-, hgiven⟩
      · exact h.numbered i id hid
      · rw [hnone] at hgiven
        cases hgiven
    · rw [hcreated]
      rcases mem_idsOf_snoc.1 hid with hid | ⟨-, hgiven⟩
      · obtain ⟨n, hn, heq⟩ := h.numbered i id hid
        exact ⟨n, hn.trans (Nat.lt_succ_self _), heq⟩
      · exact ⟨_, Nat.lt_succ_self _, eq_of_given?_perform hgiven⟩
  nodup i := by
    by_cases hj : j = i
    · subst hj
      rw [idsOf_snoc_self]
      cases hgiven : (Exchange.mk call ((confer calls).2.perform call).1).given? with
      | none => simpa using h.nodup j
      | some id =>
          have hnew := h.not_mem_of_given j hgiven
          refine List.nodup_append.2 ⟨h.nodup j, List.nodup_singleton id, fun a ha b hb heq => ?_⟩
          rw [heq, List.mem_singleton.1 hb] at ha
          exact hnew ha
    · rw [idsOf_snoc_of_ne _ hj]
      exact h.nodup i
  single i k id hi hk := by
    rcases mem_idsOf_snoc.1 hi with hi | ⟨rfl, hgiven⟩
    · rcases mem_idsOf_snoc.1 hk with hk | ⟨-, hgiven⟩
      · exact h.single i k id hi hk
      · exact absurd hi (h.not_mem_of_given i hgiven)
    · rcases mem_idsOf_snoc.1 hk with hk | ⟨rfl, -⟩
      · exact absurd hk (h.not_mem_of_given k hgiven)
      · rfl

theorem dealt (calls : List (ι × StoreCall)) : Dealt calls := by
  induction calls using List.reverseRecOn with
  | nil => exact ⟨nofun, fun _ => List.nodup_nil, nofun⟩
  | append_singleton calls entry ih => exact ih.snoc entry.1 entry.2

theorem separate_snoc_iff : Separate keys (calls ++ [(j, call)]) ↔
    Separate keys calls ∧ call.key ∈ keys j ∧ ∀ id, call.id? = some id → id ∈ idsOf j calls := by
  constructor
  · intro h
    refine ⟨⟨h.disjoint, fun before k call' after heq => ?_⟩, h.keeps calls j call [] rfl⟩
    exact h.keeps before k call' (after ++ [(j, call)]) (by rw [heq]; simp)
  · rintro ⟨hbefore, hlast⟩
    refine ⟨hbefore.disjoint, fun before k call' after heq => ?_⟩
    rcases snoc_eq_split_iff.1 heq with ⟨rfl, hentry, -⟩ | ⟨earlier, -, hcalls⟩
    · obtain ⟨rfl, rfl⟩ := Prod.mk.inj hentry
      exact hlast
    · exact hbefore.keeps before k call' earlier hcalls

end idsOf

/-! ## Two stores side by side -/

/-- A store that has, of the keys and the uploads of one client, what the common store has. -/
structure Mimics (ρ : String → String) (keys : Set String) (given : List String)
    (s t : MemoryStore) : Prop where
  given_eq : given.map ρ = (List.range t.created).map fun n => uploadId (n + 1)
  pending : ∀ id ∈ given, t.pending.get? (ρ id) = s.pending.get? id
  objects : ∀ key ∈ keys, t.objects.get? key = s.objects.get? key

/-- Completions of uploads that are alike come to the same. -/
theorem complete_alike {s t : MemoryStore} {ρ : String → String} {id : String}
    (h : t.pending.get? (ρ id) = s.pending.get? id) (key : String) (parts : List CompletedPart) :
    (t.complete key (ρ id) parts).1 =
        (s.complete key id parts).1.mapError (StoreError.rename ρ id) ∧
      ∀ k, t.objects.get? k = s.objects.get? k →
        (t.complete key (ρ id) parts).2.objects.get? k =
          (s.complete key id parts).2.objects.get? k := by
  rw [complete, complete, h]
  dsimp only
  split
  · exact ⟨congrArg Except.error (StoreError.rename_self ρ id).symm, fun _ hk => hk⟩
  · next upload hfound =>
      split
      · split
        · split
          · next e hassemble =>
              exact ⟨congrArg Except.error (StoreError.rename_assemble hassemble).symm,
                fun _ hk => hk⟩
          · next body hassemble =>
              refine ⟨rfl, fun k hk => ?_⟩
              dsimp only
              by_cases heq : k = key
              · rw [heq, Dict.get?_insert_self, Dict.get?_insert_self]
              · rw [Dict.get?_insert_of_ne heq, Dict.get?_insert_of_ne heq, hk]
        · exact ⟨congrArg Except.error (StoreError.rename_of_ne (by simp)).symm, fun _ hk => hk⟩
      · exact ⟨congrArg Except.error (StoreError.rename_self ρ id).symm, fun _ hk => hk⟩

/-- Ids that are renamed to the first ones are told apart by their other names. -/
theorem injOn_of_map_eq {ρ : String → String} {given : List String} {n : Nat}
    (h : given.map ρ = (List.range n).map fun n => uploadId (n + 1)) :
    Set.InjOn ρ {id | id ∈ given} := by
  intro a ha b hb heq
  exact List.inj_on_of_nodup_map (h ▸ nodup_uploadIds n) ha hb heq

namespace Mimics

variable {ρ : String → String} {keys : Set String} {given : List String} {s t : MemoryStore}
  {call : StoreCall}

theorem start : Mimics ρ keys [] empty empty := ⟨rfl, nofun, fun _ _ => rfl⟩

/-- A call of somebody else is not noticed. -/
theorem beside (h : Mimics ρ keys given s t) (hkey : call.key ∉ keys)
    (hid : ∀ id, call.id? = some id → id ∉ given) (hnew : uploadId (s.created + 1) ∉ given) :
    Mimics ρ keys given (s.perform call).2 t where
  given_eq := h.given_eq
  pending id hmem := by
    rw [get?_pending_perform (fun hnamed => hid id hnamed hmem) (fun heq => hnew (heq ▸ hmem)),
      h.pending id hmem]
  objects key hmem := by
    rw [get?_objects_perform fun heq => hkey (heq ▸ hmem), h.objects key hmem]

/-- A call of the client is answered the same, and makes the same objects. -/
theorem answer_eq (h : Mimics ρ keys given s t) (hid : ∀ id, call.id? = some id → id ∈ given)
    (hnew : ∀ id, (Exchange.mk call (s.perform call).1).given? = some id →
      ρ id = uploadId (t.created + 1)) :
    Exchange.mk (call.rename ρ) (t.perform (call.rename ρ)).1 =
        (Exchange.mk call (s.perform call).1).rename ρ ∧
      ∀ key ∈ keys,
        (t.perform (call.rename ρ)).2.objects.get? key = (s.perform call).2.objects.get? key := by
  cases call with
  | create key contentType =>
      refine ⟨?_, h.objects⟩
      simp only [Exchange.rename, StoreCall.rename, StoreCall.id?, perform, create, Except.map]
      rw [hnew _ rfl]
  | part key id number body =>
      have hpending := h.pending id (hid id rfl)
      simp only [Exchange.rename, StoreCall.rename, StoreCall.id?, perform]
      rw [uploadPart, uploadPart, hpending]
      split
      · rw [Except.mapError, StoreError.rename_self]
        exact ⟨rfl, h.objects⟩
      · split
        · exact ⟨rfl, h.objects⟩
        · rw [Except.mapError, StoreError.rename_self]
          exact ⟨rfl, h.objects⟩
  | complete key id parts =>
      obtain ⟨hanswer, hobjects⟩ := complete_alike (h.pending id (hid id rfl)) key parts
      simp only [Exchange.rename, StoreCall.rename, StoreCall.id?, perform]
      rw [hanswer]
      refine ⟨?_, fun k hk => hobjects k (h.objects k hk)⟩
      cases (s.complete key id parts).1 <;> rfl
  | abort key id =>
      refine ⟨rfl, fun k hk => ?_⟩
      dsimp only [StoreCall.rename, perform]
      rw [objects_abort, objects_abort, h.objects k hk]

/-- A call of the client, made on both stores. -/
theorem own (h : Mimics ρ keys given s t) (hid : ∀ id, call.id? = some id → id ∈ given)
    (hnew : ∀ id, (Exchange.mk call (s.perform call).1).given? = some id →
      ρ id = uploadId (t.created + 1)) :
    Mimics ρ keys (given ++ (Exchange.mk call (s.perform call).1).given?.toList)
      (s.perform call).2 (t.perform (call.rename ρ)).2 := by
  obtain ⟨hanswer, hobjects⟩ := h.answer_eq hid hnew
  set e := Exchange.mk call (s.perform call).1 with he
  have hgiven : (given ++ e.given?.toList).map ρ =
      (List.range (t.perform (call.rename ρ)).2.created).map fun n => uploadId (n + 1) := by
    have hrenamed := Exchange.given?_rename ρ e
    rw [← hanswer] at hrenamed
    rw [List.map_append, h.given_eq]
    rcases given?_perform t (call.rename ρ) with ⟨hnone, hcreated⟩ | ⟨hsome, hcreated⟩
    · rw [hnone] at hrenamed
      rw [Option.map_eq_none_iff.1 hrenamed.symm, hcreated]
      exact List.append_nil _
    · rw [hsome] at hrenamed
      obtain ⟨id, hid', heq⟩ := Option.map_eq_some_iff.1 hrenamed.symm
      rw [hid', hcreated, List.range_succ, List.map_append]
      exact congrArg (_ ++ [·]) heq
  -- other names stay distinct when an id is given, so both exchanges touch the same upload
  have hinj := injOn_of_map_eq hgiven
  refine ⟨hgiven, fun id hmem => ?_, hobjects⟩
  rw [get?_pending_perform_eq, get?_pending_perform_eq, hanswer, ← he,
    Exchange.touch_rename
      (fun named hnamed => hinj (List.mem_append_left _ (hid named hnamed)) hmem)
      (fun new hnew => hinj (List.mem_append_right _ (Option.mem_toList.2 hnew)) hmem)]
  rcases List.mem_append.1 hmem with hold | hfresh
  · rw [h.pending id hold]
  · obtain ⟨key, contentType, hcreated⟩ := Exchange.touch_of_given? (Option.mem_toList.1 hfresh)
    rw [hcreated]
    rfl

end Mimics

/-! ## A whole conversation -/

section

variable [DecidableEq ι] {keys : ι → Set String} {calls : List (ι × StoreCall)} {i j : ι}
  {call : StoreCall} {ρ : String → String}

theorem alone_snoc_self (ρ : String → String) (i : ι) (calls : List (ι × StoreCall))
    (call : StoreCall) :
    alone ρ i (calls ++ [(i, call)]) =
      ((alone ρ i calls).1 ++
          [⟨call.rename ρ, ((alone ρ i calls).2.perform (call.rename ρ)).1⟩],
        ((alone ρ i calls).2.perform (call.rename ρ)).2) := by
  rw [alone, ofClient_snoc_self, List.map_append]
  exact converse_snoc _ _ _

theorem alone_snoc_of_ne (ρ : String → String) (h : j ≠ i) (calls : List (ι × StoreCall))
    (call : StoreCall) : alone ρ i (calls ++ [(j, call)]) = alone ρ i calls := by
  rw [alone, ofClient_snoc_of_ne _ _ h]
  rfl

/-- The ids that a client was given, in order, are the first ones by their other names. -/
def Renumbers (ρ : String → String) (given : List String) : Prop :=
  given.map ρ = (List.range given.length).map fun n => uploadId (n + 1)

theorem Renumbers.left {given later : List String} (h : Renumbers ρ (given ++ later)) :
    Renumbers ρ given := by
  rw [Renumbers, List.map_append, List.length_append, List.range_add, List.map_append] at h
  exact (List.append_inj h (by simp)).1

theorem Renumbers.last {given : List String} {id : String} (h : Renumbers ρ (given ++ [id])) :
    ρ id = uploadId (given.length + 1) := by
  rw [Renumbers, List.map_append, List.length_append, List.length_singleton, List.range_succ,
    List.map_append] at h
  exact List.singleton_inj.1 (List.append_inj h (by simp)).2

theorem renumbers_idxOf {given : List String} (h : given.Nodup) :
    Renumbers (fun id => uploadId (given.idxOf id + 1)) given := by
  refine List.ext_getElem (by simp) fun n hn _ => ?_
  rw [List.getElem_map, List.getElem_map, List.getElem_range, h.idxOf_getElem]

/-- The store that a client would have had stays beside the common one, whoever makes calls. -/
theorem mimics_confer (hseparate : Separate keys calls) (hρ : Renumbers ρ (idsOf i calls)) :
    (alone ρ i calls).1 = (ofClient i (confer calls).1).map (Exchange.rename ρ) ∧
      Mimics ρ (keys i) (idsOf i calls) (confer calls).2 (alone ρ i calls).2 := by
  induction calls using List.reverseRecOn with
  | nil => exact ⟨rfl, .start⟩
  | append_singleton calls entry ih =>
      obtain ⟨j, call⟩ := entry
      obtain ⟨hbefore, hkey, hid⟩ := separate_snoc_iff.1 hseparate
      -- a call of the client is the next one in both conversations, another in the common one only
      by_cases hj : j = i
      · subst hj
        rw [idsOf_snoc_self] at hρ ⊢
        obtain ⟨hlog, hmimics⟩ := ih hbefore hρ.left
        have hcreated : (alone ρ j calls).2.created = (idsOf j calls).length := by
          simpa using (congrArg List.length hmimics.given_eq).symm
        have hnew : ∀ id, (Exchange.mk call ((confer calls).2.perform call).1).given? = some id →
            ρ id = uploadId ((alone ρ j calls).2.created + 1) := by
          intro id hgiven
          rw [hgiven] at hρ
          rw [hcreated]
          exact hρ.last
        rw [alone_snoc_self, confer_snoc]
        refine ⟨?_, hmimics.own hid hnew⟩
        rw [ofClient_snoc_self, List.map_append, hlog, (hmimics.answer_eq hid hnew).1]
        rfl
      · rw [idsOf_snoc_of_ne _ hj] at hρ ⊢
        obtain ⟨hlog, hmimics⟩ := ih hbefore hρ
        rw [alone_snoc_of_ne ρ hj, confer_snoc]
        refine ⟨by rw [ofClient_snoc_of_ne _ _ hj]; exact hlog, hmimics.beside ?_ ?_ ?_⟩
        · exact hseparate.disjoint j i hj _ hkey
        · exact fun id hnamed hmem => hj ((dealt calls).single j i id (hid id hnamed) hmem)
        · exact (dealt calls).next_not_mem i

theorem idsGiven_map_rename (log : List Exchange) :
    idsGiven (log.map (Exchange.rename ρ)) = (idsGiven log).map ρ := by
  rw [idsGiven, idsGiven, List.filterMap_map, List.map_filterMap]
  exact List.filterMap_congr fun e _ => Exchange.given?_rename ρ e

theorem idsOf_prefix (i : ι) (calls later : List (ι × StoreCall)) :
    idsOf i calls <+: idsOf i (calls ++ later) := by
  induction later using List.reverseRecOn with
  | nil => exact (List.append_nil calls).symm ▸ List.prefix_refl _
  | append_singleton later entry ih =>
      obtain ⟨j, call⟩ := entry
      rw [← List.append_assoc]
      by_cases hj : j = i
      · subst hj
        rw [idsOf_snoc_self]
        exact ih.trans (List.prefix_append _ _)
      · rwa [idsOf_snoc_of_ne _ hj]

theorem Separate.of_append {later : List (ι × StoreCall)} (h : Separate keys (calls ++ later)) :
    Separate keys calls := by
  refine ⟨h.disjoint, fun before k call after heq => ?_⟩
  exact h.keeps before k call (after ++ later) (by rw [heq]; simp)

/-- Clients of one store that keep apart do not notice each other. -/
theorem as_if_alone (hseparate : Separate keys calls) (i : ι) :
    ∃ ρ, AsIfAlone (keys i) i calls ρ := by
  obtain ⟨ρ, hρ⟩ : ∃ ρ, Renumbers ρ (idsOf i calls) := ⟨_, renumbers_idxOf ((dealt calls).nodup i)⟩
  obtain ⟨hlog, -⟩ := mimics_confer hseparate hρ
  refine ⟨ρ, ?_, hlog, ?_⟩
  · rw [hlog, idsGiven_map_rename]
    exact ⟨fun id hid => List.mem_map_of_mem hid, injOn_of_map_eq hρ,
      fun id hid => List.mem_map.1 hid⟩
  · rintro earlier ⟨later, rfl⟩ key hkey
    obtain ⟨ids, hids⟩ := idsOf_prefix i earlier later
    rw [← hids] at hρ
    exact (mimics_confer hseparate.of_append hρ.left).2.objects key hkey

end

/-- Two clients that take turns. The ids that the one is given are not those that it would be given
alone, one of its uploads is aborted, and a part that comes too late is refused. -/
def takingTurns : List (Bool × StoreCall) :=
  [(true, .create "b.webm" "video/webm"),
    (false, .create "a.webm" "video/webm"),
    (false, .part "a.webm" "memory-upload-2" 1 ⟨#[120]⟩),
    (true, .abort "b.webm" "memory-upload-1"),
    (true, .part "b.webm" "memory-upload-1" 1 ⟨#[121]⟩),
    (false, .complete "a.webm" "memory-upload-2" [⟨1, Tag.ofBody ⟨#[120]⟩⟩]),
    (false, .part "a.webm" "memory-upload-2" 2 ⟨#[122]⟩)]

/-- A key for each. -/
def ownKey : Bool → Set String
  | false => {"a.webm"}
  | true => {"b.webm"}

theorem separate_takingTurns : Separate ownKey takingTurns where
  disjoint i j hij key hi hj := by
    cases i <;> cases j <;> simp_all [ownKey]
  keeps before i call after heq := by
    obtain ⟨n, hn, hbefore, hcall⟩ : ∃ n, ∃ hn : n < takingTurns.length,
        takingTurns.take n = before ∧ takingTurns[n] = (i, call) :=
      ⟨before.length, by simp [heq], by simp [heq], by simp [heq]⟩
    subst hbefore
    change n < 7 at hn
    interval_cases n <;> obtain ⟨rfl, rfl⟩ := Prod.mk.inj hcall
    all_goals refine ⟨rfl, ?_⟩
    all_goals rintro id ⟨⟩
    all_goals exact .head _

/-- The client that has `a.webm` is not disturbed. -/
theorem as_if_alone_takingTurns :
    Separate ownKey takingTurns ∧ ∃ ρ, AsIfAlone (ownKey false) false takingTurns ρ :=
  ⟨separate_takingTurns, as_if_alone separate_takingTurns false⟩

end MemoryStore

end StudySession

import Mathlib.Data.List.Induction
import StudySession.Proofs.Text.Numeral
import StudySession.Proofs.Upload.Assembly
import StudySession.Proofs.Upload.Identity

/-!
# Exchanges with the in-memory store

Calls that are made one after the other, and what the store answers to them, are a log of exchanges
(`MemoryStore.converse`). `Exchange.touch` says what an exchange did to the upload of an id, and
nothing else is ever done to what is pending (`MemoryStore.get?_pending_perform_eq`): whatever is
said of uploads in the course of a conversation is derived from this one equation. Ids are given in
the order of the numbers (`MemoryStore.idsGiven_perform`).
-/

namespace StudySession

/-- A call on a store, and what the store answered. -/
structure Exchange where
  call : StoreCall
  answer : Except StoreError String

/-- What can be done to an upload. -/
inductive Touch where
  | created (key contentType : String)
  | put (number : Nat) (body : ByteArray)
  /-- A completion named the upload, whatever that was answered, or an abort did. -/
  | ended
  | untouched

/-- What becomes of what is pending of an upload. -/
def Touch.apply : Touch → Option PendingUpload → Option PendingUpload
  | created key contentType, _ => some ⟨key, contentType, []⟩
  | put number body, found =>
    found.map fun upload => { upload with parts := MemoryStore.putPart number body upload.parts }
  | ended, _ => none
  | untouched, found => found

namespace Exchange

/-- The id of the upload that was created. -/
def given? (e : Exchange) : Option String :=
  match e.call, e.answer with
  | .create _ _, .ok id => some id
  | _, _ => none

/-- What an exchange did to the upload of an id. -/
def touch (id : String) (e : Exchange) : Touch :=
  match e.call, e.answer with
  | .create key contentType, .ok given =>
    if given = id then .created key contentType else .untouched
  | .part _ named number body, .ok _ => if named = id then .put number body else .untouched
  | .complete _ named _, _ => if named = id then .ended else .untouched
  | .abort _ named, _ => if named = id then .ended else .untouched
  | _, _ => .untouched

variable {e : Exchange} {id key contentType : String}

@[simp] theorem touch_complete (key id : String) (parts : List CompletedPart)
    (answer : Except StoreError String) : touch id ⟨.complete key id parts, answer⟩ = .ended :=
  if_pos rfl

@[simp] theorem touch_abort (key id : String) (answer : Except StoreError String) :
    touch id ⟨.abort key id, answer⟩ = .ended :=
  if_pos rfl

/-- What creates an upload gives its id. -/
theorem eq_of_touch_created (h : e.touch id = .created key contentType) :
    e = ⟨.create key contentType, .ok id⟩ := by
  obtain ⟨call, answer⟩ := e
  cases call with
  | create key' contentType' =>
      cases answer with
      | error error => cases h
      | ok given =>
          simp only [touch] at h
          split at h
          · next heq =>
              obtain ⟨rfl, rfl⟩ := Touch.created.inj h
              rw [heq]
          · cases h
  | part key' named number body =>
      cases answer with
      | error error => cases h
      | ok tag => simp only [touch] at h; split at h <;> cases h
  | complete key' named parts => simp only [touch] at h; split at h <;> cases h
  | abort key' named => simp only [touch] at h; split at h <;> cases h

/-- What puts a part is accepted. -/
theorem eq_of_touch_put {number : Nat} {body : ByteArray} (h : e.touch id = .put number body) :
    ∃ key tag, e = ⟨.part key id number body, .ok tag⟩ := by
  obtain ⟨call, answer⟩ := e
  cases call with
  | create key contentType =>
      cases answer with
      | error error => cases h
      | ok given => simp only [touch] at h; split at h <;> cases h
  | part key named number' body' =>
      cases answer with
      | error error => cases h
      | ok tag =>
          simp only [touch] at h
          split at h
          · next heq =>
              obtain ⟨rfl, rfl⟩ := Touch.put.inj h
              exact ⟨key, tag, by rw [heq]⟩
          · cases h
  | complete key named parts => simp only [touch] at h; split at h <;> cases h
  | abort key named => simp only [touch] at h; split at h <;> cases h

/-- An exchange has to do with the id that its call names and with the one that it gave. -/
theorem touch_eq_untouched (hnamed : e.call.id? ≠ some id) (hgiven : e.given? ≠ some id) :
    e.touch id = .untouched := by
  obtain ⟨call, answer⟩ := e
  cases call with
  | create key contentType =>
      cases answer with
      | error error => rfl
      | ok given => exact if_neg fun heq => hgiven (congrArg some heq)
  | part key named number body =>
      cases answer with
      | error error => rfl
      | ok tag => exact if_neg fun heq => hnamed (congrArg some heq)
  | complete key named parts => exact if_neg fun heq => hnamed (congrArg some heq)
  | abort key named => exact if_neg fun heq => hnamed (congrArg some heq)

end Exchange

/-- The ids that were given, in order. -/
def idsGiven (log : List Exchange) : List String := log.filterMap Exchange.given?

namespace MemoryStore

/-! ## What a call does -/

theorem uploadId_injective : Function.Injective uploadId := by
  intro m n h
  have hdigits : toString m = toString n := (String.append_right_inj _).1 h
  rw [← readDigits_toString m, hdigits, readDigits_toString]

/-- The ids of the first uploads are distinct. -/
theorem nodup_uploadIds (n : Nat) : ((List.range n).map fun n => uploadId (n + 1)).Nodup :=
  List.nodup_range.map fun _ _ heq => Nat.succ_injective (uploadId_injective heq)

/-- What a call does to what is pending of an id. -/
theorem get?_pending_perform_eq (s : MemoryStore) (call : StoreCall) (id : String) :
    (s.perform call).2.pending.get? id =
      ((Exchange.mk call (s.perform call).1).touch id).apply (s.pending.get? id) := by
  cases call with
  | create key contentType =>
      simp only [perform, create, Exchange.touch]
      split
      · next heq => rw [heq, Dict.get?_insert_self]; rfl
      · next hne => exact Dict.get?_insert_of_ne (Ne.symm hne) _ _
  | part key named number body =>
      rw [perform]
      rcases uploadPart_cases s key named number body with
        ⟨upload, hfound, -, hput⟩ | ⟨-, hrefused⟩
      · rw [hput]
        simp only [Exchange.touch]
        split
        · next heq => rw [← heq, Dict.get?_insert_self, hfound]; rfl
        · next hne => exact Dict.get?_insert_of_ne (Ne.symm hne) _ _
      · rw [hrefused]
        rfl
  | complete key named parts =>
      have hpending : (s.perform (.complete key named parts)).2.pending = s.pending.erase named :=
        pending_complete s key named parts
      rw [hpending]
      simp only [Exchange.touch]
      split
      · next heq => rw [heq, Dict.get?_erase_self]; rfl
      · next hne => exact Dict.get?_erase_of_ne (Ne.symm hne) _
  | abort key named =>
      simp only [perform, Exchange.touch]
      rcases abort_cases s key named with ⟨upload, hfound, habort⟩ | ⟨hnone, habort⟩
      · rw [habort]
        split
        · next heq => rw [heq, Dict.get?_erase_self]; rfl
        · next hne => exact Dict.get?_erase_of_ne (Ne.symm hne) _
      · rw [habort]
        split
        · next heq => rw [← heq, hnone]; rfl
        · rfl

/-- A creation gives the next id, and no other call gives one. -/
theorem given?_perform (s : MemoryStore) (call : StoreCall) :
    (Exchange.mk call (s.perform call).1).given? = none ∧
        (s.perform call).2.created = s.created ∨
      (Exchange.mk call (s.perform call).1).given? = some (uploadId (s.created + 1)) ∧
        (s.perform call).2.created = s.created + 1 := by
  cases call with
  | create key contentType => exact .inr ⟨rfl, rfl⟩
  | part key named number body =>
      refine .inl ⟨rfl, ?_⟩
      rw [perform]
      rcases uploadPart_cases s key named number body with ⟨upload, -, -, hput⟩ | ⟨-, hrefused⟩
      · rw [hput]
      · rw [hrefused]
  | complete key named parts =>
      refine .inl ⟨rfl, ?_⟩
      rw [perform]
      rcases complete_cases s key named parts with ⟨upload, body, -, -, -, -, hdone⟩ | ⟨e, hrefused⟩
      · rw [hdone]
      · rw [hrefused]
  | abort key named =>
      refine .inl ⟨rfl, ?_⟩
      rw [perform]
      rcases abort_cases s key named with ⟨upload, -, habort⟩ | ⟨-, habort⟩ <;> rw [habort]

/-- An id that is given is the next one. -/
theorem eq_of_given?_perform {s : MemoryStore} {call : StoreCall} {id : String}
    (h : (Exchange.mk call (s.perform call).1).given? = some id) :
    id = uploadId (s.created + 1) := by
  rcases given?_perform s call with ⟨hnone, -⟩ | ⟨hsome, -⟩
  · rw [hnone] at h
    cases h
  · rw [hsome] at h
    exact (Option.some.inj h).symm

theorem objects_abort (s : MemoryStore) (key id : String) :
    (s.abort key id).objects = s.objects := by
  rcases abort_cases s key id with ⟨upload, -, habort⟩ | ⟨-, habort⟩ <;> rw [habort]

/-- An object is made by a completion that succeeds. -/
theorem objects_perform (s : MemoryStore) (call : StoreCall)
    (hcall : ∀ key id parts, call = .complete key id parts → (s.perform call).1 ≠ .ok "") :
    (s.perform call).2.objects = s.objects := by
  cases call with
  | create key contentType => rfl
  | part key named number body =>
      rw [perform]
      rcases uploadPart_cases s key named number body with ⟨upload, -, -, hput⟩ | ⟨-, hrefused⟩
      · rw [hput]
      · rw [hrefused]
  | complete key named parts =>
      have hnot := hcall key named parts rfl
      rw [perform] at hnot ⊢
      rcases complete_cases s key named parts with ⟨upload, body, -, -, -, -, hdone⟩ | ⟨e, hrefused⟩
      · rw [hdone] at hnot
        exact absurd rfl hnot
      · rw [hrefused]
  | abort key named => exact objects_abort s key named

/-- What is pending of an id is changed by calls that name it, and by the creation that gives it. -/
theorem get?_pending_perform {s : MemoryStore} {call : StoreCall} {id : String}
    (hnames : call.id? ≠ some id) (hnew : id ≠ uploadId (s.created + 1)) :
    (s.perform call).2.pending.get? id = s.pending.get? id := by
  rw [get?_pending_perform_eq,
    Exchange.touch_eq_untouched hnames fun hgiven => hnew (eq_of_given?_perform hgiven)]
  rfl

/-- An object is made by calls for its key. -/
theorem get?_objects_perform {s : MemoryStore} {call : StoreCall} {key : String}
    (hkey : call.key ≠ key) :
    (s.perform call).2.objects.get? key = s.objects.get? key := by
  by_cases hmade : ∃ other id parts, call = .complete other id parts
  · obtain ⟨other, id, parts, rfl⟩ := hmade
    rw [perform]
    rcases complete_cases s other id parts with ⟨upload, body, -, -, -, -, hdone⟩ | ⟨e, hrefused⟩
    · rw [hdone]
      exact Dict.get?_insert_of_ne (Ne.symm hkey) _ _
    · rw [hrefused]
  · rw [objects_perform s call fun other id parts heq => absurd ⟨other, id, parts, heq⟩ hmade]

/-! ## Conversations -/

/-- Makes calls one after the other: what was said, and the store after it. -/
def converse (s : MemoryStore) (calls : List StoreCall) : List Exchange × MemoryStore :=
  calls.foldl (fun (log, s) call =>
    (log ++ [⟨call, (s.perform call).1⟩], (s.perform call).2)) ([], s)

theorem converse_snoc (s : MemoryStore) (calls : List StoreCall) (call : StoreCall) :
    s.converse (calls ++ [call]) =
      ((s.converse calls).1 ++ [⟨call, ((s.converse calls).2.perform call).1⟩],
        ((s.converse calls).2.perform call).2) := by
  rw [converse, List.foldl_append]
  rfl

/-- Whatever a conversation begins with and every exchange keeps, is kept. -/
theorem converse_induction {P : List Exchange → MemoryStore → Prop} {s : MemoryStore}
    (start : P [] s)
    (step : ∀ log s call, P log s → P (log ++ [⟨call, (s.perform call).1⟩]) (s.perform call).2)
    (calls : List StoreCall) : P (s.converse calls).1 (s.converse calls).2 := by
  induction calls using List.reverseRecOn with
  | nil => exact start
  | append_singleton calls call ih =>
      rw [converse_snoc]
      exact step _ _ _ ih

/-- Ids are given in the order of the numbers. -/
theorem idsGiven_perform {log : List Exchange} {s : MemoryStore}
    (h : idsGiven log = (List.range s.created).map fun n => uploadId (n + 1)) (call : StoreCall) :
    idsGiven (log ++ [⟨call, (s.perform call).1⟩]) =
      (List.range (s.perform call).2.created).map fun n => uploadId (n + 1) := by
  rw [idsGiven, List.filterMap_append]
  rcases given?_perform s call with ⟨hnone, hcreated⟩ | ⟨hsome, hcreated⟩
  · rw [List.filterMap_cons_none hnone, hcreated]
    exact (List.append_nil _).trans h
  · rw [List.filterMap_cons_some hsome, hcreated, List.range_succ, List.map_append]
    exact congrArg (· ++ [uploadId (s.created + 1)]) h

end MemoryStore

end StudySession

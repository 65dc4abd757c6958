import StudySession.Dict
import StudySession.Upload.Error
import StudySession.Upload.Tag

/-!
# The in-memory store

A multipart store that keeps everything it is sent. An upload is pending from its creation until the
first completion that names it, whatever that answers, or until it is aborted; a successful
completion makes an object of the listed parts.
-/

namespace StudySession

/-- A part as listed in a completion. -/
structure CompletedPart where
  number : Nat
  /-- The tag with which the store acknowledged it. -/
  eTag : String
  deriving DecidableEq, Repr

/-- An upload that is neither completed nor aborted. -/
structure PendingUpload where
  key : String
  contentType : String
  /-- The latest body of each part, by its number. -/
  parts : List (Nat × ByteArray)

/-- A stored object. -/
structure StoredObject where
  contentType : String
  body : ByteArray

/-- A store in memory. -/
structure MemoryStore where
  created : Nat
  pending : Dict PendingUpload
  objects : Dict StoredObject
  aborted : Nat
  /-- The part lists of all completion calls, in order. -/
  completions : List (List CompletedPart)

namespace MemoryStore

def empty : MemoryStore := ⟨0, [], [], 0, []⟩

def uploadId (n : Nat) : String := "memory-upload-" ++ toString n

/-- The refusal of a call on an upload that is not pending under the key. -/
def noSuchUpload (id : String) : StoreError := .rejected ("no such upload: " ++ id)

def create (s : MemoryStore) (key contentType : String) : String × MemoryStore :=
  let id := uploadId (s.created + 1)
  (id, { s with created := s.created + 1, pending := s.pending.insert id ⟨key, contentType, []⟩ })

/-- Keeps the body of a part, in place of an earlier one, and answers its tag. -/
def uploadPart (s : MemoryStore) (key id : String) (number : Nat) (body : ByteArray) :
    Except StoreError String × MemoryStore :=
  match s.pending.get? id with
  | none => (.error (noSuchUpload id), s)
  | some upload =>
    if upload.key = key then
      let parts := (number, body) :: upload.parts.filter (·.1 != number)
      (.ok (Tag.ofBody body), { s with pending := s.pending.insert id { upload with parts } })
    else (.error (noSuchUpload id), s)

/-- Whether numbers increase strictly. -/
def ascending : List CompletedPart → Bool
  | a :: b :: rest => decide (a.number < b.number) && ascending (b :: rest)
  | _ => true

/-- The bodies of listed parts in order; each has to be there with the tag listed. -/
def assemble (parts : List (Nat × ByteArray)) : List CompletedPart → Except StoreError ByteArray
  | [] => .ok .empty
  | p :: rest =>
    match parts.lookup p.number with
    | none => .error (.rejected ("part " ++ toString p.number ++ " was never uploaded"))
    | some body =>
      if Tag.ofBody body = p.eTag then (assemble parts rest).map (body ++ ·)
      else .error (.rejected ("ETag mismatch for part " ++ toString p.number))

/-- Makes an object of the listed parts. The upload is pending no longer, even where that fails. -/
def complete (s : MemoryStore) (key id : String) (parts : List CompletedPart) :
    Except StoreError Unit × MemoryStore :=
  let called := { s with completions := s.completions ++ [parts], pending := s.pending.erase id }
  match s.pending.get? id with
  | none => (.error (noSuchUpload id), called)
  | some upload =>
    if upload.key = key then
      if ascending parts then
        match assemble upload.parts parts with
        | .error e => (.error e, called)
        | .ok body =>
          (.ok (), { called with objects := called.objects.insert key ⟨upload.contentType, body⟩ })
      else (.error (.rejected "parts must be in ascending order"), called)
    else (.error (noSuchUpload id), called)

/-- Drops a pending upload, whatever the key. -/
def abort (s : MemoryStore) (_key id : String) : MemoryStore :=
  if s.pending.has id then { s with pending := s.pending.erase id, aborted := s.aborted + 1 } else s

end MemoryStore

end StudySession

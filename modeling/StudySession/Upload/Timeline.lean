import StudySession.Upload.Session

/-!
# Uploads in virtual time

A `Timeline` runs uploads against a store whose calls take time and fail as a script says, on a
clock of whole milliseconds that only moves when nothing is left to do. What is due is kept in an
agenda in the order of time; `Timeline.pop?` takes the next entry and lets it happen. Every run of a
timeline is one of the runs of its uploads, in the order that the script's delays give.
-/

namespace StudySession

/-- How a scripted call ends. -/
inductive Verdict where
  /-- The in-memory store answers it. -/
  | passed
  /-- It fails and does not reach the store. -/
  | failed (error : StoreError)
  /-- It ends the task that made it. -/
  | deadly

/-- The script of one call. -/
structure ScriptedCall where
  delayMs : Nat
  verdict : Verdict

namespace StoreCall

def name : StoreCall → String
  | create _ _ => "create"
  | part _ _ _ _ => "part"
  | complete _ _ _ => "complete"
  | abort _ _ => "abort"

/-- The part number of a call, zero where it sends none. -/
def partNumber : StoreCall → Nat
  | part _ _ number _ => number
  | _ => 0

/-- The name of a call in scripts: parts are told apart by their number. -/
def scriptName (call : StoreCall) : String :=
  if call.partNumber = 0 then call.name else call.name ++ toString call.partNumber

end StoreCall

/-- A call as reported: its instant, name and part number. -/
structure CallRecord where
  instant : Nat
  name : String
  /-- The part number, zero where it sends none. -/
  partNumber : Nat

/-- The order of reports: by instant, then name, then part number. -/
def CallRecord.le (a b : CallRecord) : Bool :=
  if a.instant ≠ b.instant then decide (a.instant ≤ b.instant)
  else if a.name ≠ b.name then decide (a.name ≤ b.name)
  else decide (a.partNumber ≤ b.partNumber)

/-- An in-memory store behind a script. -/
structure ScriptedStore where
  /-- How the next calls of each name end; beyond it they pass at once. -/
  script : Dict (List ScriptedCall)
  memory : MemoryStore
  calls : List CallRecord

namespace ScriptedStore

/-- A store that holds nothing, behind a script. -/
def ofScript (script : Dict (List ScriptedCall)) : ScriptedStore := ⟨script, .empty, []⟩

/-- Makes a call at an instant and takes its script. -/
def take (s : ScriptedStore) (now : Nat) (call : StoreCall) : ScriptedCall × ScriptedStore :=
  let s := { s with calls := ⟨now, call.name, call.partNumber⟩ :: s.calls }
  match s.script.get? call.scriptName with
  | some (next :: rest) => (next, { s with script := s.script.insert call.scriptName rest })
  | _ => (⟨0, .passed⟩, s)

def remaining (s : ScriptedStore) : Nat := s.script.foldl (fun n entry => n + entry.2.length) 0

def callReport (s : ScriptedStore) : List CallRecord := s.calls.mergeSort CallRecord.le

end ScriptedStore

/-- What is due at an instant. -/
inductive Due where
  | make (who : Caller) (call : StoreCall)
  /-- A call that was made ends. -/
  | settle (who : Caller) (call : StoreCall) (verdict : Verdict)
  /-- The owner of an upload looks for work. -/
  | wake

/-- An entry of the agenda. -/
structure Appointment where
  instant : Nat
  upload : Nat
  due : Due

/-- What the owner of an upload is told. -/
inductive Notice where
  | finished (upload : Nat) (result : Except UploadError Outcome)
  | woke (upload : Nat)

/-- Uploads on one store and one clock. -/
structure Timeline where
  now : Nat
  store : ScriptedStore
  uploads : List Upload
  agenda : List Appointment

namespace Timeline

def new (script : Dict (List ScriptedCall)) : Timeline := ⟨0, .ofScript script, [], []⟩

/-- Adds an upload; its place is the number of those before it. -/
def add (t : Timeline) (upload : Upload) : Timeline := { t with uploads := t.uploads ++ [upload] }

/-- Enters an appointment behind those not after it. -/
def enter (agenda : List Appointment) (a : Appointment) : List Appointment :=
  agenda.takeWhile (fun b => decide (b.instant ≤ a.instant)) ++
    a :: agenda.dropWhile (fun b => decide (b.instant ≤ a.instant))

/-- Carries out what an upload does; the result of a command that ended with it. -/
def carryOut (t : Timeline) (i : Nat) :
    List Effect → Timeline × Option (Except UploadError Outcome)
  | [] => (t, none)
  | .call who after call :: rest =>
    carryOut { t with agenda := enter t.agenda ⟨t.now + after.milliseconds, i, .make who call⟩ } i
      rest
  | .finished result :: rest => ((carryOut t i rest).1, some result)

def happen (t : Timeline) (i : Nat) (event : Event) :
    Timeline × Option (Except UploadError Outcome) :=
  match t.uploads[i]? with
  | none => (t, none)
  | some upload =>
    let (upload, effects) := upload.react event
    carryOut { t with uploads := t.uploads.set i upload } i effects

/-- Gives a command to an upload; its result, if it has ended already. -/
def command (t : Timeline) (i : Nat) (c : Command) :
    Timeline × Option (Except UploadError Outcome) :=
  t.happen i (.command c)

/-- Wakes an upload's owner at the present instant. -/
def wake (t : Timeline) (i : Nat) : Timeline :=
  { t with agenda := enter t.agenda ⟨t.now, i, .wake⟩ }

/-- Whether an upload waits for the answer to a caller's call. -/
def expects (t : Timeline) (i : Nat) (who : Caller) : Bool :=
  t.uploads[i]?.any (·.expects who)

/-- Lets what is due happen. A call whose caller was dropped is not made, and does not end. -/
def fire (t : Timeline) (i : Nat) : Due → Timeline × Option Notice
  | .wake => (t, some (.woke i))
  | .make who call =>
    if t.expects i who then
      let (scripted, store) := t.store.take t.now call
      let agenda := enter t.agenda ⟨t.now + scripted.delayMs, i, .settle who call scripted.verdict⟩
      ({ t with store, agenda }, none)
    else (t, none)
  | .settle who call verdict =>
    if t.expects i who then
      let (t, result) :=
        match verdict with
        | .passed =>
          let (answer, memory) := t.store.memory.perform call
          { t with store := { t.store with memory } }.happen i (.answered who answer)
        | .failed error => t.happen i (.answered who (.error error))
        | .deadly => t.happen i (.died who)
      (t, result.map (.finished i))
    else (t, none)

/-- Takes the next entry of the agenda, if it is due before `limit`; the clock moves to it. -/
def pop? (t : Timeline) (limit : Option Nat) : Option (Timeline × Option Notice) :=
  match t.agenda with
  | [] => none
  | a :: rest =>
    if limit.all (a.instant < ·) then
      some (fire { t with now := max t.now a.instant, agenda := rest } a.upload a.due)
    else none

/-- A bound on the entries that one command can lead to: every call is entered twice, and is made
once for each scripted call, part, upload or chunk. -/
def budget (t : Timeline) (chunks : Nat) : Nat :=
  8 * (t.store.remaining + t.agenda.length + t.uploads.length + chunks + 4)

/-- Lets everything due before an instant happen. -/
def settleBefore (t : Timeline) (limit : Nat) : Nat → Timeline
  | 0 => t
  | fuel + 1 =>
    match t.pop? (some limit) with
    | none => t
    | some (t, _) => settleBefore t limit fuel

/-- Lets everything due up to an instant happen, and moves the clock to it. -/
def passTo (t : Timeline) (instant : Nat) : Timeline :=
  { t.settleBefore (instant + 1) (t.budget 0) with now := max t.now instant }

/-- Lets time pass until a command of an upload ends. -/
def untilFinished (t : Timeline) (i : Nat) :
    Nat → Timeline × Option (Except UploadError Outcome)
  | 0 => (t, none)
  | fuel + 1 =>
    match t.pop? none with
    | none => (t, none)
    | some (t, some (.finished j result)) =>
      if j = i then (t, some result) else untilFinished t i fuel
    | some (t, _) => untilFinished t i fuel

/-- Gives a command to an upload, lets time pass until it ends, and lets everything happen that is
due by then. -/
def run (t : Timeline) (i : Nat) (c : Command) : Timeline × Option (Except UploadError Outcome) :=
  let (t, result) := t.command i c
  let (t, result) :=
    match result with
    | some result => (t, some result)
    | none => t.untilFinished i (t.budget 0)
  (t.passTo t.now, result)

end Timeline

end StudySession

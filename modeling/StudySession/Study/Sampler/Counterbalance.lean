import StudySession.Study.Sampler

/-!
# Counterbalancing across sessions

The `increment-conditions` sampler keeps a number, or a list of numbers, for each field of a table
of moduli. The latest session that completed the node's sequence entry gives the previous values,
and each goes up by one modulo its range; without usable history each is drawn. The values are
parameters of the node's `frameList`.
-/

namespace StudySession

/-- The range of a condition field. -/
inductive Modulus where
  | scalar (n : Nat)
  /-- A list of numbers, each below the one at its place. -/
  | perElement (ns : List Nat)
  deriving DecidableEq, Repr

namespace Modulus

/-- A positive integer. -/
def positive? (j : Json) : Option Nat := j.nat?.filter (0 < ·)

/-- Reads a positive integer or a list of them. -/
def ofJson? : Json → Option Modulus
  | .arr items => (items.mapM positive?).map .perElement
  | j => (positive? j).map .scalar

/-- The number after `v` in a range of `n`, in words of 64 bits. -/
def successor (n v : Nat) : Nat := (v + 1) % Nat.pow 2 64 % n

/-- The values after a field's previous ones; `none` where those do not have the range's shape. -/
def next? : Modulus → Json → Option Json
  | .scalar n, previous => previous.nat?.map fun v => .ofNat (successor n v)
  | .perElement ns, .arr items =>
    if items.length = ns.length then
      let values := (items.zip ns).mapM fun (entry : Json × Nat) =>
        entry.1.nat?.map fun v => Json.ofNat (successor entry.2 v)
      values.map .arr
    else none
  | .perElement _, _ => none

def sampleEach (g : Generator) : List Nat → List Json × Generator
  | [] => ([], g)
  | n :: ns =>
    let (v, g) := g.below n .word64
    let (vs, g) := sampleEach g ns
    (.ofNat v :: vs, g)

def sample (g : Generator) : Modulus → Json × Generator
  | .scalar n =>
    let (v, g) := g.below n .word64
    (.ofNat v, g)
  | .perElement ns =>
    let (vs, g) := sampleEach g ns
    (.arr vs, g)

end Modulus

namespace Counterbalance

/-- The table of a node that gives none. -/
def defaultModuli : Dict Modulus :=
  [("showStay", .scalar 20), ("startType", .scalar 24),
    ("whichObjects", .perElement [720, 720, 720, 720])]

/-- The condition after a previous one: every field of the table goes up by one. `none` where the
previous condition lacks a field or has one of another shape. -/
def next? (previous : Json) (moduli : Dict Modulus) : Option Fields :=
  moduli.mapM fun (field, modulus) => do
    let value ← modulus.next? (← previous.field? field)
    pure (field, value)

def sample (g : Generator) : Dict Modulus → Fields × Generator
  | [] => ([], g)
  | (field, modulus) :: rest =>
    let (value, g) := modulus.sample g
    let (values, g) := sample g rest
    ((field, value) :: values, g)

def moduli (request : Request) : Except StudyError (Dict Modulus) :=
  match request.node.get? "conditionModuli" with
  | none => .ok defaultModuli
  | some (.obj (first :: rest)) =>
    (first :: rest).mapM fun (field, value) =>
      match Modulus.ofJson? value with
      | some modulus => .ok (field, modulus)
      | none => .error (request.malformed (.modulusNotPositive field))
  | some _ => .error (request.malformed .modulusTableEmpty)

/-- The key whose completion counts: the node's own marker, or its sequence entry's key. -/
def marker (request : Request) : String :=
  match request.node.get? "completionMarker" with
  | some (.str marker) => marker
  | _ => request.sequenceKey

/-- The condition that the latest completed session recorded. -/
def history (request : Request) : Option Json :=
  (request.pastSessions.find? (·.hasCompleted (marker request))).bind
    (·.conditionFor request.conditionKey request.frameKey)

end Counterbalance

/-- Every member of `frameList`, under a condition that goes up by one from session to session. -/
def Sampler.incrementConditions : Sampler where
  name := "increment-conditions"
  choose request := do
    let moduli ← Resolve.check (Counterbalance.moduli request)
    let condition ←
      match (Counterbalance.history request).bind (Counterbalance.next? · moduli) with
      | some condition => pure condition
      | none => Resolve.draw fun g => Counterbalance.sample g moduli
    let members ← Resolve.check request.frameList
    let _ ← Resolve.check request.common
    pure
      { property := "frameList"
        picks := List.range members.length
        parameters := condition
        condition := .obj condition }

end StudySession

import StudySession.Study.Sampler

/-!
# Samplers over a node's options

`permute` expands every option in a random order, `random` expands one of them, and `select` expands
those that the node itself names. Each records the places it chose, in a form that `select` reads.
-/

namespace StudySession

namespace Sampler

/-- Every option, in a random order. -/
def permute : Sampler where
  name := "permute"
  choose request := do
    let options ← Resolve.check request.options
    let _ ← Resolve.check request.common
    let order ← Resolve.draw fun g => g.shuffle (List.range options.length)
    pure
      { property := request.optionProperty
        picks := order
        parameters := []
        condition := .obj [("order", .arr (order.map Json.ofNat))] }

/-- One option, each as likely as another. -/
def random : Sampler where
  name := "random"
  choose request := do
    let options ← Resolve.check request.options
    let _ ← Resolve.check request.common
    let chosen ← Resolve.draw fun g => g.below options.length .word64
    pure
      { property := request.optionProperty
        picks := [chosen]
        parameters := []
        condition := .obj [("conditionNum", .ofNat chosen)] }

def placeAmong (request : Request) (count : Nat) (j : Json) : Except StudyError Nat :=
  match j.nat? with
  | none => .error (request.malformed .choiceNotAnIndex)
  | some n =>
    if n < count then .ok n
    else .error (.indexOutOfRange (request.frameKey ++ ".whichFrames") n count)

/-- The places that a value names: an array names several, anything else one. -/
def placesAmong (request : Request) (count : Nat) : Json → Except StudyError (List Nat)
  | .arr items => items.mapM (placeAmong request count)
  | j => (placeAmong request count j).map ([·])

/-- The options named by `whichFrames`, in which placeholders are replaced first. -/
def select : Sampler where
  name := "select"
  choose request := do
    let options ← Resolve.check request.options
    let _ ← Resolve.check request.common
    match request.node.get? "whichFrames" with
    | none => throw (request.malformed .choiceMissing)
    | some authored =>
      let which ← Resolve.substitute request.context authored
      let picks ← Resolve.check (placesAmong request options.length which)
      pure
        { property := request.optionProperty
          picks
          parameters := []
          condition := .obj [("whichFrames", which)] }

end Sampler

end StudySession

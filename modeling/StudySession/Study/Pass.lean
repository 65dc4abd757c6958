import StudySession.Random.Draw
import StudySession.Study.Error
import StudySession.Study.Placeholder

/-!
# Resolution passes

A `Pass` is the state of resolving one entry of the sequence: the random generator, the fixed orders
that `#PERM` has given and the cursors of `#UNIQ`. `Resolve` threads it through every step and keeps
it when a step fails, so draws already made stay spent. `Resolve.substitute` replaces the
placeholders of a document by the values its context binds.
-/

namespace StudySession

/-- The fixed order of an array in a pass. -/
structure Permutation where
  name : String
  source : List Json
  shuffled : List Json

/-- How far the items of an array have been taken in a pass. -/
structure Cursor where
  name : String
  source : List Json
  /-- The places of the array in the order of taking. -/
  order : List Nat
  next : Nat

/-- The state of resolving one entry of the sequence. -/
structure Pass where
  sequenceIndex : Nat
  /-- The entry's key, if the pass belongs to a sequence. -/
  sequenceKey : Option String
  /-- What to do with placeholders that name no parameter. -/
  policy : PlaceholderPolicy
  generator : Generator
  permutations : List Permutation
  cursors : List Cursor

def Pass.start (sequenceIndex : Nat) (sequenceKey : Option String) (policy : PlaceholderPolicy)
    (generator : Generator) : Pass :=
  ⟨sequenceIndex, sequenceKey, policy, generator, [], []⟩

/-- A step of resolving: it may fail, and leaves a pass either way. -/
abbrev Resolve (α : Type) := ExceptT StudyError (StateM Pass) α

namespace Resolve

def run {α : Type} (step : Resolve α) (pass : Pass) : Except StudyError α × Pass :=
  StateT.run (ExceptT.run step) pass

/-- A check that needs no pass. -/
def check {α : Type} (outcome : Except StudyError α) : Resolve α := ExceptT.mk (pure outcome)

/-- A step that draws from the generator. -/
def draw {α : Type} (f : Generator → α × Generator) : Resolve α :=
  modifyGet fun pass =>
    let (a, generator) := f pass.generator
    (a, { pass with generator })

/-- The order of an array under a parameter's name: the one given before in this pass to an equal
array, or else a new one. -/
def permutation (name : String) (items : List Json) : Resolve (List Json) := do
  let pass ← get
  match pass.permutations.find? fun p => p.name == name && Json.eqvItems p.source items with
  | some p => return p.shuffled
  | none =>
    let shuffled ← draw fun g => g.shuffle items
    modify fun pass =>
      { pass with permutations := pass.permutations ++ [⟨name, items, shuffled⟩] }
    return shuffled

/-- Takes the next place of a cursor; when all have been taken, its order is shuffled again. -/
def advance (cursor : Cursor) (g : Generator) : Option Nat × Cursor × Generator :=
  let (cursor, g) :=
    if cursor.order.length ≤ cursor.next then
      let (order, g) := g.shuffle cursor.order
      ({ cursor with order, next := 0 }, g)
    else (cursor, g)
  (cursor.order[cursor.next]?, { cursor with next := cursor.next + 1 }, g)

/-- The place of an array's cursor in a pass, which gets one at first use. -/
def cursorFor (name : String) (items : List Json) : Resolve Nat := do
  let pass ← get
  match pass.cursors.findIdx? fun c => c.name == name && Json.eqvItems c.source items with
  | some place => return place
  | none =>
    let order ← draw fun g => g.shuffle (List.range items.length)
    modify fun pass => { pass with cursors := pass.cursors ++ [⟨name, items, order, 0⟩] }
    return pass.cursors.length

/-- The next item of an array that has not been taken in this round. -/
def nextUnique (name : String) (items : List Json) : Resolve Json := do
  let place ← cursorFor name items
  modifyGet fun pass =>
    match pass.cursors[place]? with
    | none => (.null, pass)
    | some cursor =>
      let (taken, cursor, generator) := advance cursor pass.generator
      ((taken.bind (items[·]?)).getD .null,
        { pass with cursors := pass.cursors.set place cursor, generator })

/-- The value of a placeholder whose parameter is bound to an array. -/
def select (text : String) (placeholder : Placeholder) (items : List Json) : Resolve Json :=
  match placeholder.selector with
  | .index n =>
    match items[n]? with
    | some item => pure item
    | none => throw (.indexOutOfRange text n items.length)
  | .rand =>
    if items.isEmpty then throw (.emptyOptions text .emptyArray)
    else do
      let place ← draw fun g => g.below items.length .word64
      pure (items.getD place .null)
  | .perm => do
    let shuffled ← permutation placeholder.name items
    pure (.arr shuffled)
  | .uniq =>
    if items.isEmpty then throw (.emptyOptions text .emptyArray)
    else nextUnique placeholder.name items

/-- The value of a text: what the context binds to the whole text, or else the value of a tagged
placeholder, or else the text itself. -/
def substituteText (context : Fields) (text : String) : Resolve Json :=
  match context.get? text with
  | some value => pure value
  | none =>
    match Placeholder.ofText? text with
    | none => pure (.str text)
    | some placeholder =>
      match context.get? placeholder.name with
      | none => do
        match (← get).policy with
        | .lenient => pure (.str text)
        | .strict => throw (.unresolvedPlaceholder text)
      | some (.arr items) => select text placeholder items
      | some _ => throw (.notIndexable text)

mutual

/-- Replaces every text of a document, in order; keys of objects are no texts, and values put in
are not searched again. -/
def substitute (context : Fields) : Json → Resolve Json
  | .str text => substituteText context text
  | .arr items => do
    let items ← substituteItems context items
    pure (.arr items)
  | .obj fields => do
    let fields ← substituteFields context fields
    pure (.obj fields)
  | j => pure j

def substituteItems (context : Fields) : List Json → Resolve (List Json)
  | [] => pure []
  | x :: xs => do
    let x ← substitute context x
    let xs ← substituteItems context xs
    pure (x :: xs)

def substituteFields (context : Fields) : List (String × Json) → Resolve (List (String × Json))
  | [] => pure []
  | (k, x) :: xs => do
    let x ← substitute context x
    let xs ← substituteFields context xs
    pure ((k, x) :: xs)

end

end Resolve

end StudySession

import StudySession.Study.Registry

/-!
# The steps of resolving

Every step of resolving a study is composed from a few primitive ones: it answers, refuses, looks at
the pass, draws, gives an array its order, takes the next item of an array, or meets a placeholder
that names no parameter. `Resolve.Composed` says so. That substitution and the samplers are composed
is proved once, by following their definitions; what holds of every composed step is then an
induction with one case for each primitive, whatever the functions do.
-/

namespace StudySession

/-- The pass under another policy. -/
def Pass.under (pass : Pass) (policy : PlaceholderPolicy) : Pass := { pass with policy }

/-- The order of an array under a parameter's name, and the pass that has given it. -/
def Pass.order (pass : Pass) (name : String) (items : List Json) : List Json × Pass :=
  match pass.permutations.find? fun p => p.name == name && Json.eqvItems p.source items with
  | some p => (p.shuffled, pass)
  | none =>
    let (shuffled, generator) := pass.generator.shuffle items
    (shuffled,
      { pass with
        generator
        permutations := pass.permutations ++ [⟨name, items, shuffled⟩] })

/-- The place of an array's cursor, and the pass that holds it. -/
def Pass.openCursor (pass : Pass) (name : String) (items : List Json) : Nat × Pass :=
  match pass.cursors.findIdx? fun c => c.name == name && Json.eqvItems c.source items with
  | some place => (place, pass)
  | none =>
    let (order, generator) := pass.generator.shuffle (List.range items.length)
    (pass.cursors.length,
      { pass with
        generator
        cursors := pass.cursors ++ [⟨name, items, order, 0⟩] })

/-- The item that the cursor at a place comes to, and the pass after it was taken. -/
def Pass.takeNext (pass : Pass) (place : Nat) (items : List Json) : Json × Pass :=
  match pass.cursors[place]? with
  | none => (.null, pass)
  | some cursor =>
    let (taken, cursor, generator) := Resolve.advance cursor pass.generator
    ((taken.bind (items[·]?)).getD .null,
      { pass with
        cursors := pass.cursors.set place cursor
        generator })

/-- The error by which the strict policy refuses a study. -/
def StudyError.IsUnresolved (e : StudyError) : Prop := ∃ text, e = .unresolvedPlaceholder text

namespace Resolve

variable {α β : Type}

/-! ## Running -/

@[simp] theorem run_pure (a : α) (pass : Pass) : Resolve.run (pure a) pass = (.ok a, pass) := rfl

@[simp] theorem run_throw (e : StudyError) (pass : Pass) :
    Resolve.run (throw e : Resolve α) pass = (.error e, pass) := rfl

theorem run_bind (step : Resolve α) (next : α → Resolve β) (pass : Pass) :
    Resolve.run (step >>= next) pass =
      match Resolve.run step pass with
      | (.ok a, after) => Resolve.run (next a) after
      | (.error e, after) => (.error e, after) := by
  show (ExceptT.run (step >>= next)) pass = _
  rcases h : Resolve.run step pass with ⟨_ | a, after⟩
  · have h' : step pass = (.error _, after) := h
    simp [ExceptT.run, bind, ExceptT.bind, ExceptT.mk, StateT.bind, h', ExceptT.bindCont]
    rfl
  · have h' : step pass = (.ok a, after) := h
    simp [ExceptT.run, bind, ExceptT.bind, ExceptT.mk, StateT.bind, h', ExceptT.bindCont]
    rfl

/-- What a step and the one after it come to when both succeed. -/
theorem run_bind_eq_ok_iff {step : Resolve α} {next : α → Resolve β} {pass after : Pass} {b : β} :
    Resolve.run (step >>= next) pass = (.ok b, after) ↔
      ∃ a between, Resolve.run step pass = (.ok a, between) ∧
        Resolve.run (next a) between = (.ok b, after) := by
  rw [run_bind]
  rcases Resolve.run step pass with ⟨_ | a, between⟩
  · simp
  · constructor
    · intro h
      exact ⟨a, between, rfl, h⟩
    · rintro ⟨a', between', heq, h⟩
      obtain ⟨rfl, rfl⟩ : a = a' ∧ between = between' := by simpa using heq
      exact h

@[simp] theorem run_check (outcome : Except StudyError α) (pass : Pass) :
    Resolve.run (check outcome) pass = (outcome, pass) := rfl

/-- What a check and the step after it come to when both succeed. -/
theorem run_check_bind_eq_ok_iff {outcome : Except StudyError α} {next : α → Resolve β}
    {pass after : Pass} {b : β} :
    Resolve.run (check outcome >>= next) pass = (.ok b, after) ↔
      ∃ a, outcome = .ok a ∧ Resolve.run (next a) pass = (.ok b, after) := by
  rw [run_bind, run_check]
  cases outcome with
  | ok a => simp
  | error e => simp

/-- Two steps in a row come to the same where they come to the same one by one. -/
theorem run_bind_congr {step step' : Resolve α} {next next' : α → Resolve β} {pass : Pass}
    (hstep : Resolve.run step pass = Resolve.run step' pass)
    (hnext : ∀ a between, Resolve.run step' pass = (.ok a, between) →
      Resolve.run (next a) between = Resolve.run (next' a) between) :
    Resolve.run (step >>= next) pass = Resolve.run (step' >>= next') pass := by
  rw [run_bind, run_bind, hstep]
  rcases hrun : Resolve.run step' pass with ⟨_ | a, between⟩
  · rfl
  · exact hnext a between hrun

theorem run_check_bind_congr {outcome : Except StudyError α} {next next' : α → Resolve β}
    {pass : Pass}
    (hnext : ∀ a, outcome = .ok a → Resolve.run (next a) pass = Resolve.run (next' a) pass) :
    Resolve.run (check outcome >>= next) pass = Resolve.run (check outcome >>= next') pass := by
  refine run_bind_congr rfl fun a between hrun => ?_
  rw [run_check] at hrun
  obtain ⟨hok, rfl⟩ := Prod.mk.inj hrun
  exact hnext a hok

theorem run_get_bind (next : Pass → Resolve α) (pass : Pass) :
    Resolve.run (get >>= next) pass = Resolve.run (next pass) pass := rfl

@[simp] theorem run_modifyGet (f : Pass → α × Pass) (pass : Pass) :
    Resolve.run (modifyGet f) pass = (.ok (f pass).1, (f pass).2) := rfl

@[simp] theorem run_draw (f : Generator → α × Generator) (pass : Pass) :
    Resolve.run (draw f) pass =
      (.ok (f pass.generator).1, { pass with generator := (f pass.generator).2 }) := rfl

theorem run_permutation (name : String) (items : List Json) (pass : Pass) :
    Resolve.run (permutation name items) pass =
      (.ok (pass.order name items).1, (pass.order name items).2) := by
  unfold permutation Pass.order
  rw [run_get_bind]
  cases pass.permutations.find? fun p => p.name == name && Json.eqvItems p.source items <;> rfl

theorem run_cursorFor (name : String) (items : List Json) (pass : Pass) :
    Resolve.run (cursorFor name items) pass =
      (.ok (pass.openCursor name items).1, (pass.openCursor name items).2) := by
  unfold cursorFor Pass.openCursor
  rw [run_get_bind]
  cases pass.cursors.findIdx? fun c => c.name == name && Json.eqvItems c.source items <;> rfl

theorem run_nextUnique (name : String) (items : List Json) (pass : Pass) :
    Resolve.run (nextUnique name items) pass =
      let (place, opened) := pass.openCursor name items
      (.ok (opened.takeNext place items).1, (opened.takeNext place items).2) := by
  unfold nextUnique
  rw [run_bind, run_cursorFor]
  dsimp only
  rw [run_modifyGet]
  unfold Pass.takeNext
  cases (pass.openCursor name items).2.cursors[(pass.openCursor name items).1]? <;> rfl

/-! ## Composed steps -/

/-- A tagged placeholder whose parameter is not defined: left in place or refused. -/
def leaveOrRefuse (text : String) : Resolve Json := do
  match (← get).policy with
  | .lenient => pure (.str text)
  | .strict => throw (.unresolvedPlaceholder text)

/-- The steps composed from the primitive ones. Only `leave` asks for the policy and refuses for an
unresolved placeholder, and what a step looks at is the same under both policies. -/
inductive Composed : {α : Type} → Resolve α → Prop where
  | answer {α : Type} (a : α) : Composed (pure a)
  | refuse {α : Type} {e : StudyError} (h : ¬ e.IsUnresolved) :
      Composed (throw e : Resolve α)
  | bind {α β : Type} {step : Resolve α} {next : α → Resolve β} (first : Composed step)
      (rest : ∀ a, Composed (next a)) : Composed (step >>= next)
  | look {α : Type} {next : Pass → Resolve α}
      (blind : ∀ (pass : Pass) (policy : PlaceholderPolicy), next (pass.under policy) = next pass)
      (rest : ∀ pass, Composed (next pass)) : Composed (get >>= next)
  | draw {α : Type} (f : Generator → α × Generator) : Composed (Resolve.draw f)
  | order (name : String) (items : List Json) : Composed (permutation name items)
  | take (name : String) {items : List Json} (h : items ≠ []) : Composed (nextUnique name items)
  | leave (text : String) : Composed (leaveOrRefuse text)

/-- A check that never refuses for an unresolved placeholder. -/
structure Settled (outcome : Except StudyError α) : Prop where
  not_isUnresolved : ∀ e, outcome = .error e → ¬ e.IsUnresolved

theorem Composed.check {outcome : Except StudyError α} (h : Settled outcome) :
    Composed (Resolve.check outcome) := by
  cases outcome with
  | ok a => exact .answer a
  | error e => exact .refuse (h.not_isUnresolved e rfl)

theorem Settled.ok (a : α) : Settled (.ok a) := ⟨fun _ h => by cases h⟩

theorem Settled.error {e : StudyError} (h : ¬ e.IsUnresolved) :
    Settled (.error e : Except StudyError α) := by
  constructor
  rintro e' ⟨⟩
  exact h

theorem Settled.bind {outcome : Except StudyError α} {next : α → Except StudyError β}
    (first : Settled outcome) (rest : ∀ a, Settled (next a)) : Settled (outcome >>= next) := by
  cases outcome with
  | ok a => exact rest a
  | error e => exact .error (first.not_isUnresolved e rfl)

theorem Settled.map {outcome : Except StudyError α} (first : Settled outcome) (f : α → β) :
    Settled (outcome.map f) := by
  cases outcome with
  | ok a => exact .ok _
  | error e => exact .error (first.not_isUnresolved e rfl)

theorem Settled.mapM {f : α → Except StudyError β} (h : ∀ a, Settled (f a)) (xs : List α) :
    Settled (xs.mapM f) := by
  induction xs with
  | nil => exact .ok []
  | cons x xs ih =>
      rw [List.mapM_cons]
      exact .bind (h x) fun b => .bind ih fun bs => .ok (b :: bs)

/-! ## Substitution -/

theorem composed_select (text : String) (placeholder : Placeholder) (items : List Json) :
    Composed (select text placeholder items) := by
  unfold select
  split
  · split
    · exact .answer _
    · exact .refuse (by simp [StudyError.IsUnresolved])
  · split
    · exact .refuse (by simp [StudyError.IsUnresolved])
    · exact .bind (.draw _) fun _ => .answer _
  · exact .bind (.order _ _) fun _ => .answer _
  · split
    · exact .refuse (by simp [StudyError.IsUnresolved])
    · next h => exact .take _ (by simpa using h)

theorem composed_substituteText (context : Fields) (text : String) :
    Composed (substituteText context text) := by
  unfold substituteText
  split
  · exact .answer _
  · split
    · exact .answer _
    · split
      · exact .leave text
      · exact composed_select ..
      · exact .refuse (by simp [StudyError.IsUnresolved])

mutual

theorem composed_substitute (context : Fields) : ∀ j : Json, Composed (substitute context j)
  | .str text => by
      rw [substitute]
      exact composed_substituteText context text
  | .arr items => by
      rw [substitute]
      exact .bind (composed_substituteItems context items) fun _ => .answer _
  | .obj fields => by
      rw [substitute]
      exact .bind (composed_substituteFields context fields) fun _ => .answer _
  | .null => .answer _
  | .bool _ => .answer _
  | .int _ => .answer _
  | .float _ => .answer _

theorem composed_substituteItems (context : Fields) :
    ∀ items : List Json, Composed (substituteItems context items)
  | [] => .answer _
  | x :: xs => by
      rw [substituteItems]
      exact .bind (composed_substitute context x) fun _ =>
        .bind (composed_substituteItems context xs) fun _ => .answer _

theorem composed_substituteFields (context : Fields) :
    ∀ fields : List (String × Json), Composed (substituteFields context fields)
  | [] => .answer _
  | (k, x) :: xs => by
      rw [substituteFields]
      exact .bind (composed_substitute context x) fun _ =>
        .bind (composed_substituteFields context xs) fun _ => .answer _

end

end Resolve

end StudySession

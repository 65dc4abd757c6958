import StudySession.Proofs.Study.Samplers
import StudySession.Study.Resolution

/-!
# The two policies

The strict policy differs from the lenient one in a single step, `Resolve.leaveOrRefuse`. So a strict
run keeps pace with the lenient run, draw by draw, until it refuses; `Resolve.Lockstep` is this
simulation, kept by every composed step. A study that resolves strictly resolves leniently to the
same, and what the strict policy adds are refusals of unresolved placeholders and nothing else.
-/

namespace StudySession

namespace Pass

variable (pass : Pass) (policy : PlaceholderPolicy)

theorem order_under (name : String) (items : List Json) :
    (pass.under policy).order name items =
      ((pass.order name items).1, (pass.order name items).2.under policy) := by
  unfold order under
  cases pass.permutations.find? fun p => p.name == name && Json.eqvItems p.source items <;> rfl

theorem openCursor_under (name : String) (items : List Json) :
    (pass.under policy).openCursor name items =
      ((pass.openCursor name items).1, (pass.openCursor name items).2.under policy) := by
  unfold openCursor under
  cases pass.cursors.findIdx? fun c => c.name == name && Json.eqvItems c.source items <;> rfl

theorem takeNext_under (place : Nat) (items : List Json) :
    (pass.under policy).takeNext place items =
      ((pass.takeNext place items).1, (pass.takeNext place items).2.under policy) := by
  unfold takeNext under
  cases pass.cursors[place]? <;> rfl

end Pass

namespace Resolve

variable {α β : Type}

/-- A strict run of a step that did not refuse ends as the lenient run does, with the pass the same
but for the policy; and the lenient run never refuses for an unresolved placeholder. -/
structure Lockstep (step : Resolve α) : Prop where
  keepsPace : ∀ pass : Pass, ∃ (outcome : Except StudyError α) (after : Pass),
    Settled outcome ∧
      Resolve.run step (pass.under .lenient) = (outcome, after.under .lenient) ∧
      (Resolve.run step (pass.under .strict) = (outcome, after.under .strict) ∨
        ∃ e rest, e.IsUnresolved ∧ Resolve.run step (pass.under .strict) = (.error e, rest))

/-- A step that treats both policies alike, and refuses for no unresolved placeholder. -/
theorem Lockstep.of_blind {step : Resolve α} (outcome : Pass → Except StudyError α)
    (after : Pass → Pass) (settled : ∀ pass, Settled (outcome pass))
    (run : ∀ (pass : Pass) (policy : PlaceholderPolicy),
      Resolve.run step (pass.under policy) = (outcome pass, (after pass).under policy)) :
    Lockstep step :=
  ⟨fun pass => ⟨outcome pass, after pass, settled pass, run pass .lenient, .inl (run pass .strict)⟩⟩

theorem Lockstep.bind {step : Resolve α} {next : α → Resolve β} (first : Lockstep step)
    (rest : ∀ a, Lockstep (next a)) : Lockstep (step >>= next) := by
  constructor
  intro pass
  obtain ⟨outcome, between, hsettled, hlenient, hstrict⟩ := first.keepsPace pass
  cases outcome with
  | error e =>
      refine ⟨.error e, between, .error (hsettled.not_isUnresolved e rfl), ?_, ?_⟩
      · rw [run_bind, hlenient]
      · rcases hstrict with hstrict | ⟨e', rest', he', hstrict⟩
        · exact .inl (by rw [run_bind, hstrict])
        · exact .inr ⟨e', rest', he', by rw [run_bind, hstrict]⟩
  | ok a =>
      obtain ⟨outcome, after, hsettled', hlenient', hstrict'⟩ := (rest a).keepsPace between
      refine ⟨outcome, after, hsettled', ?_, ?_⟩
      · rw [run_bind, hlenient]
        exact hlenient'
      · -- once the strict run has refused, it is over
        rcases hstrict with hstrict | ⟨e', rest', he', hstrict⟩
        · rw [run_bind, hstrict]
          exact hstrict'
        · exact .inr ⟨e', rest', he', by rw [run_bind, hstrict]⟩

/-- Every composed step keeps pace: the primitive ones do, and `leave` is where the strict run may
refuse. -/
theorem Composed.lockstep {step : Resolve α} (h : Composed step) : Lockstep step := by
  induction h with
  | answer a => exact .of_blind (fun _ => .ok a) id (fun _ => .ok a) fun _ _ => rfl
  | refuse he => exact .of_blind (fun _ => .error _) id (fun _ => .error he) fun _ _ => rfl
  | bind _ _ ihFirst ihRest => exact .bind ihFirst ihRest
  | look blind _ ih =>
      -- what is done with the pass that was looked at does not depend on its policy
      constructor
      intro pass
      obtain ⟨outcome, after, hsettled, hlenient, hstrict⟩ := (ih pass).keepsPace pass
      refine ⟨outcome, after, hsettled, ?_, ?_⟩
      · rw [run_get_bind, blind]
        exact hlenient
      · rw [run_get_bind, blind]
        exact hstrict
  | draw f =>
      exact .of_blind (fun pass => .ok (f pass.generator).1)
        (fun pass => { pass with generator := (f pass.generator).2 }) (fun _ => .ok _)
        fun _ _ => rfl
  | order name items =>
      refine .of_blind (fun pass => .ok (pass.order name items).1)
        (fun pass => (pass.order name items).2) (fun _ => .ok _) fun pass policy => ?_
      rw [run_permutation, Pass.order_under]
  | @take name items _ =>
      refine .of_blind (fun pass => (Resolve.run (nextUnique name items) pass).1)
        (fun pass => (Resolve.run (nextUnique name items) pass).2) (fun pass => ?_)
        fun pass policy => ?_
      · rw [run_nextUnique]
        exact .ok _
      · rw [run_nextUnique, run_nextUnique, Pass.openCursor_under]
        dsimp only
        rw [Pass.takeNext_under]
  | leave text =>
      -- here alone the policy has a say
      constructor
      intro pass
      exact ⟨.ok (.str text), pass, .ok _, rfl,
        .inr ⟨.unresolvedPlaceholder text, pass.under .strict, ⟨text, rfl⟩, rfl⟩⟩

end Resolve

namespace Study

/-- The study under another policy. -/
def under (study : Study) (policy : PlaceholderPolicy) : Study := { study with policy }

/-- How the strict outcome of resolving compares with the lenient one from the same generator: the
two are the same, or the strict one is the refusal of an unresolved placeholder. -/
structure KeepsPace {α : Type} (lenient strict : Except StudyError α × Generator) : Prop where
  settled : Resolve.Settled lenient.1
  paced : strict = lenient ∨ ∃ e, e.IsUnresolved ∧ strict.1 = .error e

theorem KeepsPace.refl {α : Type} {outcome : Except StudyError α × Generator}
    (h : Resolve.Settled outcome.1) : KeepsPace outcome outcome := ⟨h, .inl rfl⟩

variable {study : Study}

/-- The policy of a study is that of the pass in which an entry is expanded. -/
theorem expandEntry_under {index : Nat} {key : String} {node : Json}
    (h : study.protocol.frames.get? key = some node) (policy : PlaceholderPolicy) (g : Generator) :
    (study.under policy).expandEntry index key g =
      let (outcome, pass) := Resolve.run (study.resolver.expandValue key node [])
        ((Pass.start index (some key) study.policy g).under policy)
      (outcome, pass.generator) := by
  simp only [expandEntry, under, h]
  rfl

theorem expandEntry_keepsPace (h : study.resolver.registry.IsComposed) (index : Nat) (key : String)
    (g : Generator) :
    KeepsPace ((study.under .lenient).expandEntry index key g)
      ((study.under .strict).expandEntry index key g) := by
  cases hnode : study.protocol.frames.get? key with
  | none =>
      simp only [expandEntry, under, hnode]
      exact .refl (.error (by simp [StudyError.IsUnresolved]))
  | some node =>
      obtain ⟨outcome, after, hsettled, hlenient, hstrict⟩ :=
        (Resolver.composed_expandValue h key node []).lockstep.keepsPace
          (.start index (some key) study.policy g)
      rw [expandEntry_under hnode, expandEntry_under hnode, hlenient]
      rcases hstrict with hstrict | ⟨e, rest, he, hstrict⟩
      · rw [hstrict]
        exact .refl hsettled
      · rw [hstrict]
        exact ⟨hsettled, .inr ⟨e, he, rfl⟩⟩

theorem resolveFrom_keepsPace (h : study.resolver.registry.IsComposed) (keys : List String)
    (index : Nat) (sofar : Resolution) (g : Generator) :
    KeepsPace ((study.under .lenient).resolveFrom index keys sofar g)
      ((study.under .strict).resolveFrom index keys sofar g) := by
  induction keys generalizing index sofar g with
  | nil => exact .refl (.ok sofar)
  | cons key keys ih =>
      obtain ⟨hsettled, hpaced⟩ := expandEntry_keepsPace h index key g
      simp only [resolveFrom]
      rcases hlenient : (study.under .lenient).expandEntry index key g with ⟨outcome, after⟩
      rw [hlenient] at hsettled hpaced
      rcases hstrict : (study.under .strict).expandEntry index key g with ⟨outcome', after'⟩
      rw [hstrict] at hpaced
      rcases hpaced with heq | ⟨e, he, rfl⟩
      · -- both runs are at the same place, with the same generator
        obtain ⟨rfl, rfl⟩ := Prod.mk.inj heq
        cases outcome' with
        | error e => exact .refl (.error (hsettled.not_isUnresolved e rfl))
        | ok expansion => exact ih (index + 1) (addEntry index key expansion sofar) after'
      · -- the strict run has refused; where the lenient one goes does not matter
        cases outcome with
        | error e' => exact ⟨.error (hsettled.not_isUnresolved e' rfl), .inr ⟨e, he, rfl⟩⟩
        | ok expansion =>
            exact ⟨(ih (index + 1) (addEntry index key expansion sofar) after).settled,
              .inr ⟨e, he, rfl⟩⟩

/-- **Strict refines lenient.** From one generator, a study that resolves strictly resolves leniently
to the same, and leaves the same generator; where only the strict policy refuses, it is for an
unresolved placeholder; where the lenient policy refuses, so does the strict one, for the same reason
or for an unresolved placeholder; and the lenient policy never refuses for one. -/
theorem strict_refines_lenient (protocol : Protocol) (pastSessions : List PastSession)
    (ageInDays : Option Nat) (g : Generator) :
    let strict := resolve ⟨protocol, ⟨.builtins, pastSessions, ageInDays⟩, .strict⟩ g
    let lenient := resolve ⟨protocol, ⟨.builtins, pastSessions, ageInDays⟩, .lenient⟩ g
    (∀ r g', strict = (.ok r, g') → lenient = (.ok r, g')) ∧
      (∀ r e, lenient.1 = .ok r → strict.1 = .error e → ∃ text, e = .unresolvedPlaceholder text) ∧
      (∀ e, lenient.1 = .error e →
        strict.1 = .error e ∨ ∃ text, strict.1 = .error (.unresolvedPlaceholder text)) ∧
      ∀ text, lenient.1 ≠ .error (.unresolvedPlaceholder text) := by
  intro strict lenient
  obtain ⟨hsettled, hpaced⟩ : KeepsPace lenient strict :=
    @resolveFrom_keepsPace ⟨protocol, ⟨.builtins, pastSessions, ageInDays⟩, .lenient⟩
      Registry.isComposed_builtins protocol.sequence 0 ⟨[], []⟩ g
  refine ⟨?_, ?_, ?_, ?_⟩
  · intro r g' hr
    rcases hpaced with heq | ⟨e, -, he⟩
    · rw [← heq, hr]
    · rw [hr] at he
      cases he
  · intro r e hr he
    rcases hpaced with heq | ⟨e', ⟨text, rfl⟩, he'⟩
    · rw [heq, hr] at he
      cases he
    · rw [he] at he'
      exact ⟨text, Except.error.inj he'⟩
  · intro e he
    rcases hpaced with heq | ⟨e', ⟨text, rfl⟩, he'⟩
    · exact .inl (by rw [heq, he])
    · exact .inr ⟨text, he'⟩
  · intro text he
    exact hsettled.not_isUnresolved _ he ⟨text, rfl⟩

end Study

end StudySession

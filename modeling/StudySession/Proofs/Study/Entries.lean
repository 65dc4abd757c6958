import StudySession.Study.Resolution

/-!
# The entries of a resolved study

`Study.resolveFrom` runs through the sequence and adds up as it goes. Here the run is taken apart:
`Study.Expands` says which expansion each entry came to and which generator it left to the next, and
`Study.addEntries` is the sum. `Study.resolve_eq_ok_iff` joins the two, so what holds of the frames
or the recorded conditions of a study is proved about a list of expansions, entry by entry.
-/

namespace StudySession

namespace Study

/-- The entries from a place of the sequence on come to a list of expansions, one for each, the
generator going on from entry to entry. -/
inductive Expands (study : Study) :
    Nat → List String → Generator → List Expansion → Generator → Prop where
  | nil {index : Nat} {g : Generator} : Expands study index [] g [] g
  | cons {index : Nat} {key : String} {keys : List String} {e : Expansion} {es : List Expansion}
      {g g₁ g₂ : Generator} (first : study.expandEntry index key g = (.ok e, g₁))
      (rest : Expands study (index + 1) keys g₁ es g₂) :
      Expands study index (key :: keys) g (e :: es) g₂

/-- Adds the expansions of the entries from a place on to what the entries before them gave. -/
def addEntries (index : Nat) : List String → List Expansion → Resolution → Resolution
  | key :: keys, e :: es, sofar => addEntries (index + 1) keys es (addEntry index key e sofar)
  | _, _, sofar => sofar

theorem resolveFrom_eq_ok_iff {study : Study} {keys : List String} {index : Nat}
    {sofar r : Resolution} {g g' : Generator} :
    study.resolveFrom index keys sofar g = (.ok r, g') ↔
      ∃ es, study.Expands index keys g es g' ∧ r = addEntries index keys es sofar := by
  induction keys generalizing index sofar g with
  | nil =>
      constructor
      · intro h
        obtain ⟨rfl, rfl⟩ : sofar = r ∧ g = g' := by simpa [resolveFrom] using h
        exact ⟨[], .nil, rfl⟩
      · rintro ⟨es, hes, rfl⟩
        cases hes
        rfl
  | cons key keys ih =>
      simp only [resolveFrom]
      constructor
      · intro h
        split at h
        · simp at h
        · next e g₁ first =>
            obtain ⟨es, rest, rfl⟩ := ih.1 h
            exact ⟨e :: es, .cons first rest, rfl⟩
      · rintro ⟨es, hes, rfl⟩
        cases hes with
        | cons first rest =>
            rw [first]
            exact ih.2 ⟨_, rest, rfl⟩

/-- A study resolves exactly when each of its entries expands, and to the sum of these. -/
theorem resolve_eq_ok_iff {study : Study} {r : Resolution} {g g' : Generator} :
    study.resolve g = (.ok r, g') ↔
      ∃ es, study.Expands 0 study.protocol.sequence g es g' ∧
        r = addEntries 0 study.protocol.sequence es ⟨[], []⟩ :=
  resolveFrom_eq_ok_iff

/-- One expansion for each entry. -/
theorem Expands.length_eq {study : Study} {index : Nat} {keys : List String}
    {es : List Expansion} {g g' : Generator} (h : study.Expands index keys g es g') :
    es.length = keys.length := by
  induction h with
  | nil => rfl
  | cons _ _ ih => simp [ih]

/-- The entries before and after a place. -/
theorem Expands.split {study : Study} {index : Nat} {before after : List String}
    {es : List Expansion} {g g' : Generator}
    (h : study.Expands index (before ++ after) g es g') :
    ∃ es₁ es₂ g₁, es = es₁ ++ es₂ ∧ study.Expands index before g es₁ g₁ ∧
      study.Expands (index + before.length) after g₁ es₂ g' := by
  induction before generalizing index es g with
  | nil => exact ⟨[], es, g, rfl, .nil, by simpa using h⟩
  | cons key before ih =>
      cases h with
      | cons first rest =>
          obtain ⟨es₁, es₂, g₁, rfl, hbefore, hafter⟩ := ih rest
          refine ⟨_ :: es₁, es₂, g₁, rfl, .cons first hbefore, ?_⟩
          rw [List.length_cons, Nat.add_comm before.length, ← Nat.add_assoc]
          exact hafter

/-! ## The frames of the entries -/

/-- The frames of the entries from a place on, in order. -/
def framesFrom (index : Nat) : List String → List Expansion → List ResolvedFrame
  | key :: keys, e :: es => entryFrames index key e.frames ++ framesFrom (index + 1) keys es
  | _, _ => []

theorem addEntries_frames (keys : List String) (index : Nat) (es : List Expansion)
    (sofar : Resolution) :
    (addEntries index keys es sofar).frames = sofar.frames ++ framesFrom index keys es := by
  induction keys generalizing index es sofar with
  | nil => simp [addEntries, framesFrom]
  | cons key keys ih =>
      cases es with
      | nil => simp [addEntries, framesFrom]
      | cons e es => simp [addEntries, framesFrom, ih, addEntry]

end Study

end StudySession

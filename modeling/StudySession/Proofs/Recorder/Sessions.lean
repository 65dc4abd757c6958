import Mathlib.Computability.RegularExpressions

/-!
# Words of sessions

What a recorder goes through is told in words of one shape: something opens the device, and then
sessions follow each other, each started, paused and resumed any number of times, and ended. The
shape is a regular expression; a word that stops anywhere is on its way to one that matches it.
-/

namespace StudySession

open scoped Computability

/-- Some continuation of a word is in a language. -/
def Continues {α : Type} (l : Language α) (w : List α) : Prop := ∃ rest, w ++ rest ∈ l

/-- What happens in sessions, and how they end. -/
structure SessionWords (α : Type) where
  opening : α
  start : α
  pause : α
  resume : α
  ending : RegularExpression α

namespace SessionWords

variable {α : Type} (v : SessionWords α)

/-- A session: `start (pause resume)* pause? ending`. -/
def session : RegularExpression α :=
  .char v.start * (.star (.char v.pause * .char v.resume)) * (1 + .char v.pause) * v.ending

/-- Sessions one after the other: `opening session*`. -/
def sessions : RegularExpression α := .char v.opening * .star v.session

/-- The words up to the end of a session. -/
def resting : Language α := v.sessions.matches'

/-- The words that lead into a session that is not paused. -/
def running : Language α := v.resting * ({[v.start]} * ({[v.pause]} * {[v.resume]})∗)

/-- The words that lead into a session that is paused. -/
def held : Language α := v.running * {[v.pause]}

variable {v} {w e : List α}

/-- One word more of a star. -/
theorem append_mem_kstar {l : Language α} (hw : w ∈ l∗) (he : e ∈ l) : w ++ e ∈ l∗ :=
  Set.mem_of_mem_of_subset (Language.append_mem_mul hw he) (kstar_mul_le_kstar (a := l))

theorem opening_mem : [v.opening] ∈ v.resting :=
  Language.append_mem_mul (a := [v.opening]) (b := []) rfl (Language.nil_mem_kstar _)

theorem start_mem (h : w ∈ v.resting) : w ++ [v.start] ∈ v.running :=
  Language.append_mem_mul h
    (Language.append_mem_mul (a := [v.start]) (b := []) rfl (Language.nil_mem_kstar _))

theorem pause_mem (h : w ∈ v.running) : w ++ [v.pause] ∈ v.held :=
  Language.append_mem_mul h (rfl : [v.pause] = [v.pause])

theorem resume_mem (h : w ∈ v.held) : w ++ [v.resume] ∈ v.running := by
  obtain ⟨before, hbefore, last, hlast, rfl⟩ := Language.mem_mul.1 h
  obtain rfl : last = [v.pause] := hlast
  obtain ⟨rested, hrested, rest, hrest, rfl⟩ := Language.mem_mul.1 hbefore
  obtain ⟨first, hfirst, pauses, hpauses, rfl⟩ := Language.mem_mul.1 hrest
  have hround : [v.pause] ++ [v.resume] ∈ ({[v.pause]} * {[v.resume]} : Language α) :=
    Language.append_mem_mul (rfl : [v.pause] = [v.pause]) (rfl : [v.resume] = [v.resume])
  have hmem : rested ++ (first ++ (pauses ++ ([v.pause] ++ [v.resume]))) ∈ v.running :=
    Language.append_mem_mul hrested
      (Language.append_mem_mul hfirst (append_mem_kstar hpauses hround))
  simpa only [List.append_assoc] using hmem

/-- A session may end after it was resumed, or while it is paused. -/
theorem ending_mem (h : w ∈ v.running ∨ w ∈ v.held) (he : e ∈ v.ending.matches') :
    w ++ e ∈ v.resting := by
  obtain ⟨before, hbefore, last, hlast, rfl⟩ :
      ∃ before ∈ v.running, ∃ last ∈ (1 + .char v.pause : RegularExpression α).matches',
        before ++ last = w := by
    rcases h with h | h
    · exact ⟨w, h, [], .inl rfl, List.append_nil w⟩
    · obtain ⟨before, hbefore, last, hlast, rfl⟩ := Language.mem_mul.1 h
      exact ⟨before, hbefore, last, .inr hlast, rfl⟩
  obtain ⟨rested, hrested, rest, hrest, rfl⟩ := Language.mem_mul.1 hbefore
  obtain ⟨opening, hopening, ended, hended, rfl⟩ := Language.mem_mul.1 hrested
  have hsession : rest ++ last ++ e ∈ v.session.matches' :=
    Language.append_mem_mul (Language.append_mem_mul hrest hlast) he
  have hmem := Language.append_mem_mul hopening (append_mem_kstar hended hsession)
  rw [resting, sessions, RegularExpression.matches'_mul, RegularExpression.matches'_star]
  simpa only [List.append_assoc] using hmem

/-- Whatever a session has come to, it may end. -/
theorem continues_of_mem (he : e ∈ v.ending.matches')
    (h : w = [] ∨ w ∈ v.resting ∨ w ∈ v.running ∨ w ∈ v.held) : Continues v.resting w := by
  rcases h with rfl | h | h
  · exact ⟨_, opening_mem⟩
  · exact ⟨[], by rwa [List.append_nil]⟩
  · exact ⟨e, ending_mem h he⟩

end SessionWords

end StudySession

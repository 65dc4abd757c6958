import StudySession.Study.Sampler.Counterbalance
import StudySession.Study.Sampler.Options
import StudySession.Study.Sampler.ParameterSet
import StudySession.Text.Quoted

/-!
# Sampler registries

A `Registry` holds samplers under their names; registering a sampler replaces the one of its name.
-/

namespace StudySession

/-- Samplers by name. -/
structure Registry where
  samplers : Dict Sampler

namespace Registry

def empty : Registry := ⟨[]⟩

/-- Adds a sampler, in place of one of its name. -/
def register (r : Registry) (s : Sampler) : Registry := ⟨r.samplers.insert s.name s⟩

/-- The samplers that every study may use. -/
def builtins : Registry :=
  [Sampler.incrementConditions, Sampler.permute, Sampler.random, Sampler.randomParameterSet,
    Sampler.select].foldl register empty

def get? (r : Registry) (name : String) : Option Sampler := r.samplers.get? name

def names (r : Registry) : List String := r.samplers.keys

/-- A one-line description: the quoted names. -/
def describe (r : Registry) : String :=
  "RandomizerRegistry \x7b strategies: [" ++ ", ".intercalate (r.names.map Text.quoted) ++ "] \x7d"

end Registry

end StudySession

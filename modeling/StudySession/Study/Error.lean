/-!
# Errors of resolving a study

`StudyError` is the cause for which a study cannot be resolved; `StudyError.message` words it.
-/

namespace StudySession

/-- What is wrong with the form of a frame node. -/
inductive FrameFault where
  | notAnObject
  | memberNotAnObject
  | unclassified
  | samplerNotAString
  | propertyNotAnObject (property : String)
  | propertyNotAnArray (property : String)
  | choiceMissing
  | choiceNotAnIndex
  | modulusTableEmpty
  | modulusNotPositive (field : String)
  | parameterSetNotAnObject
  | bracketWithoutWeights
  | weightNegative
  | weightCount (expected found : Nat)
  deriving DecidableEq, Repr

namespace FrameFault

def message : FrameFault → String
  | notAnObject => "frame definition must be an object"
  | memberNotAnObject => "list members must be objects"
  | unclassified => "expected one of kind, frameList or sampler"
  | samplerNotAString => "sampler must be a string"
  | propertyNotAnObject property => property ++ " must be an object"
  | propertyNotAnArray property => property ++ " must be an array"
  | choiceMissing => "select requires whichFrames"
  | choiceNotAnIndex => "whichFrames must be a non-negative integer or a list of them"
  | modulusTableEmpty => "conditionModuli must be a non-empty object"
  | modulusNotPositive field =>
    "conditionModuli." ++ field ++ " must be a positive integer or list of them"
  | parameterSetNotAnObject => "parameter sets must be objects"
  | bracketWithoutWeights => "age bracket is missing its weights array"
  | weightNegative => "weights must be non-negative numbers"
  | weightCount expected found =>
    "expected " ++ toString expected ++ " weights, found " ++ toString found

end FrameFault

/-- Why there is nothing to choose from. -/
inductive Shortage where
  | noOptions
  | noFrames
  | emptyArray
  | noParameterSets
  | ageUnknown
  | ageNotCovered (age : Nat)
  | weightsZero
  deriving DecidableEq, Repr

namespace Shortage

def message : Shortage → String
  | noOptions => "frameOptions/frameList is missing or empty"
  | noFrames => "frameList is missing or empty"
  | emptyArray => "placeholder references an empty array"
  | noParameterSets => "parameterSets is missing or empty"
  | ageUnknown => "age-bracketed weights need the participant's age"
  | ageNotCovered age =>
    "no parameterSetWeights bracket covers age " ++ toString age ++ " days"
  | weightsZero => "all parameter set weights are zero"

end Shortage

/-- Why a study cannot be resolved. -/
inductive StudyError where
  /-- The sequence names a frame that is not defined. -/
  | unknownFrame (key : String)
  /-- A node names a sampler that is not registered. -/
  | unknownSampler (frame sampler : String)
  | malformedFrame (frame : String) (fault : FrameFault)
  | emptyOptions (frame : String) (shortage : Shortage)
  | indexOutOfRange (placeholder : String) (index length : Nat)
  /-- An indexed placeholder names a parameter that is not an array. -/
  | notIndexable (placeholder : String)
  /-- A tagged placeholder names no parameter, under the strict policy. -/
  | unresolvedPlaceholder (placeholder : String)
  /-- The document is not a study structure. -/
  | invalidStructure
  deriving DecidableEq, Repr

namespace StudyError

def message : StudyError → String
  | unknownFrame key =>
    "Frame '" ++ key ++ "' is referenced in the sequence but not defined in frames"
  | unknownSampler frame sampler =>
    "Frame '" ++ frame ++ "' uses unknown sampler '" ++ sampler ++ "'"
  | malformedFrame frame fault => "Frame '" ++ frame ++ "' is malformed: " ++ fault.message
  | emptyOptions frame shortage =>
    "Frame '" ++ frame ++ "' has no options to choose from: " ++ shortage.message
  | indexOutOfRange placeholder index length =>
    "Placeholder '" ++ placeholder ++ "' index " ++ toString index ++ " is out of range (length " ++
      toString length ++ ")"
  | notIndexable placeholder =>
    "Placeholder '" ++ placeholder ++ "' does not reference an array parameter"
  | unresolvedPlaceholder placeholder =>
    "Placeholder '" ++ placeholder ++ "' references a parameter that is not defined"
  | invalidStructure => "Invalid experiment structure"

end StudyError

end StudySession

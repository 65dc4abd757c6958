import StudySession.Dict
import StudySession.Number.Reading

/-!
# Options of a command line

`Options.gather` reads the arguments of one command up to a subcommand or the end. An option is
`--name value` or `--name=value`, a switch is `--name`, and each may be given once. The value of an
option is checked when the next option begins or the arguments end, so of two faults the earlier one
is not always the one that is told.
-/

namespace StudySession

/-- Why a command line is refused, or stands for a request of help. -/
inductive UsageFault where
  | unknownArgument
  /-- A value is not of the type of its option. -/
  | valueValidation
  /-- An option has no value, or an empty one that it cannot have. -/
  | invalidValue
  /-- An option is given twice, or beside one that excludes it. -/
  | argumentConflict
  | tooManyValues
  | missingSubcommand
  | missingRequiredArgument
  | invalidSubcommand
  | displayHelp
  /-- There are no arguments at all. -/
  | displayHelpOnMissingArgumentOrSubcommand
  deriving DecidableEq, Repr

namespace UsageFault

def message : UsageFault → String
  | unknownArgument => "unexpected argument found"
  | valueValidation => "invalid value for an option"
  | invalidValue => "a value is required for an option but none was supplied"
  | argumentConflict => "an argument cannot be used with another one or multiple times"
  | tooManyValues => "unexpected value for a switch"
  | missingSubcommand => "a subcommand is required but one was not provided"
  | missingRequiredArgument => "a required argument was not provided"
  | invalidSubcommand => "unrecognized subcommand"
  | displayHelp | displayHelpOnMissingArgumentOrSubcommand => "help"

def isHelp : UsageFault → Bool
  | displayHelp => true
  | _ => false

end UsageFault

/-- What an option takes. -/
inductive OptionShape where
  /-- Nothing: it is a switch. -/
  | switch
  | text
  /-- A path, which is not empty. -/
  | path
  /-- A number from `0` on below a bound. -/
  | number (bound : Nat)
  deriving DecidableEq, Repr

/-- An option. -/
structure OptionSpec where
  name : String
  shape : OptionShape
  required : Bool := false
  deriving DecidableEq, Repr

namespace OptionSpec

def check (spec : OptionSpec) (value : String) : Except UsageFault Unit :=
  match spec.shape with
  | .switch => .ok ()
  | .text => .ok ()
  | .path => if value.isEmpty then .error .invalidValue else .ok ()
  | .number bound => if (naturalBelow? bound value).isSome then .ok () else .error .valueValidation

end OptionSpec

/-- The options of a command and the words that may follow them. -/
structure OptionSet where
  specs : List OptionSpec
  subcommands : List String

/-- The options read so far. -/
structure Options where
  /-- The values, those of switches being empty. -/
  values : Dict String
  /-- The option whose value has not been checked, and its value where it has one. -/
  pending : Option (OptionSpec × Option String)
  deriving Repr

namespace Options

/-- No options yet. -/
def none : Options := ⟨[], .none⟩

def add (o : Options) (spec : OptionSpec) (value : String) : Except UsageFault Options :=
  if o.values.has spec.name then .error .argumentConflict
  else do
    spec.check value
    .ok { o with values := o.values.insert spec.name value }

/-- Checks the value that has not been checked. -/
def resolve (o : Options) : Except UsageFault Options :=
  match o.pending with
  | .none => .ok o
  | some (_, .none) => .error .invalidValue
  | some (spec, some value) => { o with pending := .none }.add spec value

/-- Whether the next word is the value of an option. -/
def wantsValue (o : Options) : Bool :=
  match o.pending with
  | some (_, .none) => true
  | _ => false

/-- Reads an argument that begins with two dashes. -/
def long (set : OptionSet) (o : Options) (argument : String) : Except UsageFault Options :=
  let body := (argument.toList).drop 2
  let name := body.takeWhile (· != '=')
  let attached : Option String :=
    match body.drop name.length with
    | _ :: value => some (String.ofList value)
    | [] => .none
  match set.specs.find? (·.name == String.ofList name) with
  | some spec =>
    match spec.shape, attached with
    | .switch, some _ => .error .tooManyValues
    | .switch, .none => do (← o.resolve).add spec ""
    | _, some value => do (← o.resolve).add spec value
    | _, .none => do .ok { (← o.resolve) with pending := some (spec, .none) }
  | .none =>
    if String.ofList name = "help" then
      if attached.isSome then .error .tooManyValues
      else do
        let _ ← o.resolve
        .error .displayHelp
    else .error .unknownArgument

/-- Reads an argument that begins with one dash. Of all letters only that of help is known. -/
def short (o : Options) (argument : String) : Except UsageFault Options :=
  if argument.startsWith "-h" then do
    let _ ← o.resolve
    .error .displayHelp
  else .error .unknownArgument

/-- The fault of a word that has no place. -/
def strayWord (set : OptionSet) (afterDashes : Bool) (word : String) : UsageFault :=
  if set.subcommands.isEmpty || (afterDashes && set.subcommands.contains word) then .unknownArgument
  else .invalidSubcommand

/-- Reads the arguments of a command up to a subcommand, which is given with the arguments after it,
or to the end. -/
def gather (set : OptionSet) (o : Options) :
    List String → Except UsageFault (Options × Option (String × List String))
  | [] => .ok (o, .none)
  | "--" :: rest =>
    match rest with
    | [] => .ok (o, .none)
    | word :: _ => .error (strayWord set true word)
  | argument :: rest =>
    if !o.wantsValue && set.subcommands.contains argument then .ok (o, some (argument, rest))
    else if argument.startsWith "--" then
      match long set o argument with
      | .ok o => gather set o rest
      | .error fault => .error fault
    else if argument.startsWith "-" ∧ argument ≠ "-" then
      match short o argument with
      | .ok o => gather set o rest
      | .error fault => .error fault
    else
      match o.pending with
      | some (spec, .none) => gather set { o with pending := some (spec, some argument) } rest
      | _ => .error (strayWord set false argument)

/-- Whether all options that have to be given are. -/
def isComplete (set : OptionSet) (o : Options) : Bool :=
  set.specs.all fun spec => !spec.required || o.values.has spec.name

def text? (o : Options) (name : String) : Option String := o.values.get? name

def number? (o : Options) (name : String) : Option Nat :=
  (o.values.get? name).bind fun value => (integer? value).map Int.toNat

end Options

end StudySession

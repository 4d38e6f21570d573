import DualPlaneVideo.Settings.Basic

/-!
# Settings from command arguments

Each setting is an option that takes one value, written `--name value` or `--name=value`. An option
that waits for its value, or has it in an argument of its own, takes effect when the next option
comes or the arguments end, so an unknown argument after it is reported first. Each option may be
given once. After a bare `--` no options follow, and nothing else is accepted.
-/

namespace DualPlaneVideo

inductive ArgumentError where
  /-- The value is missing, or is not one of the names to choose from. -/
  | invalidValue
  /-- The value is not a number in range. -/
  | invalidNumber
  | unknownArgument
  | repeatedOption
  deriving DecidableEq

inductive SettingsOption where
  | policy
  | initialBudget
  | lineBudget
  | interruptLine
  | aspect
  deriving DecidableEq

namespace SettingsOption

def all : List SettingsOption := [policy, initialBudget, lineBudget, interruptLine, aspect]

def name : SettingsOption → String
  | policy => "coding-method-policy"
  | initialBudget => "ica-instruction-limit"
  | lineBudget => "dca-instructions-per-line"
  | interruptLine => "interrupt-line"
  | aspect => "aspect-ratio"

def ofName? (text : String) : Option SettingsOption :=
  all.find? fun option ↦ option.name == text

end SettingsOption

namespace Arguments

/-- The number that a list of digits stands for; `none` for other characters and for no digits. -/
def digits? (text : List Char) : Option Nat :=
  if text.isEmpty || !text.all Char.isDigit then none
  else some (text.foldl (fun value digit ↦ value * 10 + (digit.toNat - '0'.toNat)) 0)

/-- A decimal number with an optional sign. -/
def integer? : List Char → Option Int
  | '+' :: text => (digits? text).map Int.ofNat
  | '-' :: text => (digits? text).map fun value ↦ -(value : Int)
  | text => (digits? text).map Int.ofNat

/-- A number from zero to `limit`. -/
def count (limit : Nat) (text : String) : Except ArgumentError Nat :=
  match integer? text.toList with
  | some value =>
    if 0 ≤ value ∧ value ≤ limit then .ok value.toNat else .error .invalidNumber
  | none => .error .invalidNumber

/-- A choice by its exact name. -/
def choice {α : Type} [NamedChoice α] (text : String) : Except ArgumentError α :=
  match NamedChoice.ofName? text with
  | some value => .ok value
  | none => .error .invalidValue

/-- Sets the setting of an option. -/
def assign (settings : Settings) (option : SettingsOption) (text : String) :
    Except ArgumentError Settings :=
  match option with
  | .policy => (choice text).map fun value ↦ { settings with policy := value }
  | .initialBudget =>
    (count 0xFFFFFFFF text).map fun value ↦ { settings with initialBudget := value.toUInt32 }
  | .lineBudget =>
    (count 0xFFFFFFFF text).map fun value ↦ { settings with lineBudget := value.toUInt32 }
  | .interruptLine =>
    (count 0xFF text).map fun value ↦ { settings with interruptLine := value.toUInt8 }
  | .aspect => (choice text).map fun value ↦ { settings with aspect := value }

/-- What has been read so far. -/
structure State where
  settings : Settings
  /-- The options that have taken effect. -/
  given : List SettingsOption
  /-- An option that has yet to take effect, with its value if that has come. -/
  pending : Option (SettingsOption × Option String)

namespace State

def start : State := ⟨.standard, [], none⟩

/-- Lets an option take effect. -/
def accept (state : State) (option : SettingsOption) (value : Option String) :
    Except ArgumentError State :=
  match value with
  | none => .error .invalidValue
  | some text =>
    if option ∈ state.given then .error .repeatedOption
    else
      (assign state.settings option text).map fun settings ↦
        { settings, given := option :: state.given, pending := none }

/-- Lets a pending option take effect. -/
def settle (state : State) : Except ArgumentError State :=
  match state.pending with
  | none => .ok state
  | some (option, value) => { state with pending := none }.accept option value

end State

/-- An argument by its form. -/
inductive Form where
  /-- A bare `--`. -/
  | separator
  | long (name : String) (value : Option String)
  | short
  | plain
  deriving DecidableEq

/-- Splits `name=value` at the first equals sign. -/
def splitValue (text : List Char) : String × Option String :=
  match text.dropWhile (· != '=') with
  | [] => (String.ofList text, none)
  | _ :: value => (String.ofList (text.takeWhile (· != '=')), some (String.ofList value))

def Form.ofArgument (argument : String) : Form :=
  match argument.toList with
  | ['-', '-'] => .separator
  | '-' :: '-' :: text => let (name, value) := splitValue text; .long name value
  | ['-'] => .plain
  | '-' :: _ => .short
  | _ => .plain

/-- Reads the arguments that follow. -/
def parseFrom (state : State) : List String → Except ArgumentError Settings
  | [] => state.settle.map (·.settings)
  | argument :: rest =>
    match Form.ofArgument argument with
    | .separator =>
      if rest.isEmpty then state.settle.map (·.settings) else .error .unknownArgument
    | .long name value =>
      match SettingsOption.ofName? name with
      | none => .error .unknownArgument
      | some option =>
        match state.settle with
        | .error error => .error error
        | .ok state =>
          match value with
          | none => parseFrom { state with pending := some (option, none) } rest
          | some _ =>
            match state.accept option value with
            | .error error => .error error
            | .ok state => parseFrom state rest
    | .short => .error .unknownArgument
    | .plain =>
      match state.pending with
      | some (option, none) =>
        parseFrom { state with pending := some (option, some argument) } rest
      | _ => .error .unknownArgument

/-- The settings that the arguments ask for; what they leave out has its standard value. -/
def parse (arguments : List String) : Except ArgumentError Settings :=
  parseFrom .start arguments

end Arguments

end DualPlaneVideo

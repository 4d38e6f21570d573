import DualPlaneVideo.Settings.Basic

/-!
# Settings as documents

Settings are kept in structured documents as a record of five fields. Reading needs all of them,
ignores others, and takes a list of the five values in order for a record. A choice is written as
its name, or as a record that holds nothing but that name.
-/

namespace DualPlaneVideo

/-- A structured document. A number is a mantissa with a count of decimals. -/
inductive Document where
  | null
  | bool (value : Bool)
  | number (mantissa : Int) (decimals : Nat)
  | text (value : String)
  | list (items : List Document)
  | record (fields : List (String × Document))

instance : Inhabited Document := ⟨.null⟩

namespace Document

/-- A whole number from zero to `limit`, written without decimals. -/
def toCount? (limit : Nat) : Document → Option Nat
  | number mantissa 0 =>
    if 0 ≤ mantissa ∧ mantissa ≤ limit then some mantissa.toNat else none
  | _ => none

def toChoice? {α : Type} [NamedChoice α] : Document → Option α
  | text name => NamedChoice.ofName? name
  | record [(name, null)] => NamedChoice.ofName? name
  | _ => none

end Document

namespace Settings

/-- The names of the fields, in the order of a list. -/
def fieldNames : List String :=
  ["coding_method_policy", "ica_instruction_limit", "dca_instructions_per_line", "interrupt_line",
    "aspect_ratio"]

def toDocument (settings : Settings) : Document :=
  .record (fieldNames.zip [
    .text (NamedChoice.name settings.policy),
    .number settings.initialBudget.toNat 0,
    .number settings.lineBudget.toNat 0,
    .number settings.interruptLine.toNat 0,
    .text (NamedChoice.name settings.aspect)])

/-- Reads the five field values in order. -/
def ofFields? : List Document → Option Settings
  | [policy, initialBudget, lineBudget, interruptLine, aspect] => do
    let policy ← policy.toChoice?
    let initialBudget ← initialBudget.toCount? 0xFFFFFFFF
    let lineBudget ← lineBudget.toCount? 0xFFFFFFFF
    let interruptLine ← interruptLine.toCount? 0xFF
    let aspect ← aspect.toChoice?
    return {
      policy, aspect
      initialBudget := initialBudget.toUInt32
      lineBudget := lineBudget.toUInt32
      interruptLine := interruptLine.toUInt8 }
  | _ => none

def ofDocument? : Document → Option Settings
  | .record fields => (fieldNames.mapM fun name ↦ fields.lookup name).bind ofFields?
  | .list items => ofFields? items
  | _ => none

end Settings

end DualPlaneVideo

import DualPlaneVideo.Settings.PixelAspect

/-!
# Settings

What a user of the display can set: how register writes that select a disallowed combination of
coding methods are treated, the instruction budgets of the control programs, the interrupt line and
the pixel aspect.
-/

namespace DualPlaneVideo

/-- Whether a register write that selects a disallowed combination takes effect. -/
inductive CodingPolicy where
  | permissive
  | strict
  deriving DecidableEq, Inhabited

namespace CodingPolicy

instance : NamedChoice CodingPolicy where
  title := "CodingMethodPolicy"
  all := [permissive, strict]
  name
    | permissive => "Permissive"
    | strict => "Strict"

def isStrict : CodingPolicy → Bool
  | permissive => false
  | strict => true

end CodingPolicy

structure Settings where
  policy : CodingPolicy
  /-- Instructions of each initial control area for a frame. -/
  initialBudget : UInt32
  /-- Instructions of each display control area for a line. -/
  lineBudget : UInt32
  /-- The line number that is passed on with an interrupt. -/
  interruptLine : UInt8
  aspect : AspectChoice
  deriving DecidableEq

namespace Settings

def standard : Settings where
  policy := .permissive
  initialBudget := 4096
  lineBudget := 16
  interruptLine := 4
  aspect := .auto

instance : Inhabited Settings := ⟨standard⟩

/-- The settings as text, one on each line and each line after a line break. -/
def describe (settings : Settings) : String :=
  String.join (([
    ("coding_method_policy", NamedChoice.name settings.policy),
    ("ica_instruction_limit", toString settings.initialBudget.toNat),
    ("dca_instructions_per_line", toString settings.lineBudget.toNat),
    ("interrupt_line", toString settings.interruptLine.toNat),
    ("aspect_ratio", NamedChoice.name settings.aspect)] : List (String × String)).map
      fun line ↦ "\n  " ++ line.1 ++ ": " ++ line.2)

end Settings

end DualPlaneVideo

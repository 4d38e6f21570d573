/-!
# Named choices

Some settings are a choice among a few named alternatives. A name is read either as it is written
or, by people, without regard to the case of ASCII letters.
-/

namespace DualPlaneVideo

/-- A type whose few values have names. -/
class NamedChoice (α : Type) where
  /-- What the choice is about, for messages. -/
  title : String
  all : List α
  name : α → String

/-- A text that names none of the alternatives. -/
structure UnknownName where
  title : String
  text : String
  deriving DecidableEq

def UnknownName.message (error : UnknownName) : String :=
  "invalid " ++ error.title ++ " string: '" ++ error.text ++ "'"

namespace NamedChoice

variable {α : Type} [NamedChoice α]

def ofName? (text : String) : Option α :=
  (all : List α).find? fun choice ↦ name choice == text

/-- Reads a name without regard to case. -/
def parse (text : String) : Except UnknownName α :=
  match (all : List α).find? fun choice ↦ (name choice).toLower == text.toLower with
  | some choice => .ok choice
  | none => .error ⟨title α, text⟩

end NamedChoice

end DualPlaneVideo

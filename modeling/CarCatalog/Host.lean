import CarCatalog.Text.Integer
import CarCatalog.Text.Quoted

/-!
# Where the host listens

The number comes from a setting that may be missing or blank; then it is the default.
-/

namespace CarCatalog.Host

def defaultNumber : Nat := 3000

/-- A setting that is no number of 16 bits. -/
structure Invalid where
  raw : String
  deriving DecidableEq, Repr

def Invalid.message (e : Invalid) : String := "invalid PORT " ++ Text.quote e.raw

/-- The number to listen on. -/
def number (setting : Option String) : Except Invalid Nat :=
  match setting with
  | none => .ok defaultNumber
  | some raw =>
    let trimmed := Text.trim raw
    if trimmed.isEmpty then .ok defaultNumber
    else
      match Text.readNatUpTo 65535 trimmed with
      | some n => .ok n
      | none => .error ⟨raw⟩

def address (number : Nat) : String := s!"0.0.0.0:{number}"

end CarCatalog.Host

import CarCatalog.Paging.Basic

/-!
# Values that are loaded

A value is loading, failed with a message, or ready.
-/

namespace CarCatalog

inductive Loadable (α : Type)
  | loading
  | failed (message : String)
  | ready (value : α)
  deriving DecidableEq, Repr

namespace Loadable

variable {α : Type}

def isLoading : Loadable α → Bool
  | .loading => true
  | _ => false

def error? : Loadable α → Option String
  | .failed message => some message
  | _ => none

def ready? : Loadable α → Option α
  | .ready value => some value
  | _ => none

/-- The items of a page that is ready, none before. -/
def items (p : Loadable (Page α)) : List α :=
  match p with
  | .ready page => page.data
  | _ => []

end Loadable

end CarCatalog

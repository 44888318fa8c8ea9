/-!
# Levels of the catalog

The catalog nests five deep.  A `Level` is one list in it: which kind of record it holds, and the
record it belongs to.
-/

namespace CarCatalog

inductive Level
  | brands
  | models (brand : Int64)
  | submodels (model : Int64)
  | generations (submodel : Int64)
  | specs (generation : Int64)
  deriving DecidableEq, Repr

namespace Level

def parent? : Level → Option Int64
  | .brands => none
  | .models id | .submodels id | .generations id | .specs id => some id

def title : Level → String
  | .brands => "Brands"
  | .models _ => "Models"
  | .submodels _ => "Submodels"
  | .generations _ => "Generations"
  | .specs _ => "Specs"

/-- The word for one record of the level. -/
def noun : Level → String
  | .brands => "brand"
  | .models _ => "model"
  | .submodels _ => "submodel"
  | .generations _ => "generation"
  | .specs _ => "spec"

def isLeaf : Level → Bool
  | .specs _ => true
  | _ => false

/-- Whether a name is all that a record of the level is given. -/
def takesNameOnly : Level → Bool
  | .brands | .models _ | .submodels _ => true
  | _ => false

def formTitle (l : Level) (editing : Bool) : String :=
  (if editing then "Edit " else "New ") ++ l.noun

end Level

end CarCatalog

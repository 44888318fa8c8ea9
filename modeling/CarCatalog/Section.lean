import CarCatalog.Identity

/-!
# Sections of the application

The four sections, their paths and labels, and what each role may see: the sections it is permitted,
the menu it is shown, and the section it lands on.
-/

namespace CarCatalog

inductive Section
  | users
  | carSpecs
  | catalog
  | myCars
  deriving DecidableEq, Repr

namespace Section

def all : List Section := [.users, .carSpecs, .catalog, .myCars]

def path : Section → String
  | .users => "/admin"
  | .carSpecs => "/car-spec"
  | .catalog => "/catalog"
  | .myCars => "/my-cars"

def label : Section → String
  | .users => "Users"
  | .carSpecs => "Car Specs"
  | .catalog => "Catalog"
  | .myCars => "My Cars"

def ofPath? (path : String) : Option Section := all.find? (·.path == path)

/-- Whether a role may see a section; everyone may see the catalog. -/
def permits : Section → Option Role → Bool
  | .users, role => role == some .admin
  | .carSpecs, role => role == some .admin || role == some .carSpec
  | .myCars, role => role == some .admin || role == some .user
  | .catalog, _ => true

end Section

def menuOf : Option Role → List Section
  | some .admin => [.users, .carSpecs, .catalog, .myCars]
  | some .carSpec => [.carSpecs, .catalog]
  | _ => [.catalog, .myCars]

def landingOf : Option Role → Section
  | some .admin => .users
  | some .carSpec => .carSpecs
  | _ => .catalog

/-! ## Lemmas -/

theorem Section.ofPath?_path (s : Section) : Section.ofPath? s.path = some s := by
  cases s <;> decide

end CarCatalog

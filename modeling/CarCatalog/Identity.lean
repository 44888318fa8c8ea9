/-!
# Who is signed in

A role is known by its exact label; any other label is kept as it is and grants nothing.

    (Role.ofLabel l).label = l          (Role.label_ofLabel)
-/

namespace CarCatalog

inductive Role
  | admin
  | carSpec
  | user
  | unknown (label : String)
  deriving DecidableEq, Repr

def Role.label : Role → String
  | .admin => "Admin"
  | .carSpec => "CarSpec"
  | .user => "User"
  | .unknown label => label

def Role.ofLabel (label : String) : Role :=
  if label = "Admin" then .admin
  else if label = "CarSpec" then .carSpec
  else if label = "User" then .user
  else .unknown label

structure Identity where
  id : Int64
  role : Option Role
  deriving DecidableEq, Repr

def Identity.isAdmin (who : Identity) : Bool := who.role == some .admin

/-- The text of the badge beside the user's name. -/
def Identity.badge (who : Identity) : Option String := who.role.map Role.label

/-- Administrators may change every record, others their own. -/
def Identity.canModify (who : Identity) (createdBy : Int64) : Bool :=
  who.isAdmin || who.id == createdBy

/-! ## Lemmas -/

theorem Role.label_ofLabel (label : String) : (Role.ofLabel label).label = label := by
  unfold Role.ofLabel
  split
  · next h => exact h.symm
  · split
    · next h => exact h.symm
    · split
      · next h => exact h.symm
      · rfl

end CarCatalog

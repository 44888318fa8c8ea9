import CarCatalog.Api.Browse

/-!
# Tasks

A task is a call under way together with what waits for its answer: a mounted page by its number,
and within it a form or panel by the number it was built under.
-/

namespace CarCatalog

/-- A record to be saved, new or under its id. -/
inductive Saving
  | name (level : Level) (id : Option Int64) (payload : NewName)
  | generation (parent : Int64) (id : Option Int64) (payload : NewGeneration)
  | spec (parent : Int64) (id : Option Int64) (payload : NewSpec)
  deriving DecidableEq, Repr

def Saving.call : Saving → Api.Call Unit
  | .name level id payload => Api.saveName level id payload
  | .generation parent id payload => Api.saveGeneration parent id payload
  | .spec parent id payload => Api.saveSpec parent id payload

/-- What a user does to the data; `remaining` counts the rows a page keeps after a deletion. -/
inductive Action
  | createUser (payload : NewUser)
  | deleteUser (user : Int64) (remaining : Nat)
  | updateUser (form : Nat) (user : Int64) (payload : UserUpdate)
  | assignRole (panel : Nat) (user : Int64) (role : String)
  | removeRole (panel : Nat) (user : Int64) (role : String)
  | saveRecord (form : Nat) (saving : Saving)
  | deleteRow (level : Level) (id : Int64) (remaining : Nat)
  | addMyCar (spec : Int64)
  | removeMyCar (spec : Int64) (remaining : Nat)
  deriving DecidableEq, Repr

def Action.call : Action → Api.Call Unit
  | .createUser payload => (Api.createUser payload).void
  | .deleteUser user _ => Api.deleteUser user
  | .updateUser _ user payload => (Api.updateUser user payload).void
  | .assignRole _ user role => Api.assignRole user role
  | .removeRole _ user role => Api.removeRole user role
  | .saveRecord _ saving => saving.call
  | .deleteRow level id _ => Api.deleteRow level id
  | .addMyCar spec => (Api.addMyCar spec).void
  | .removeMyCar spec _ => Api.removeMyCar spec

inductive Task
  | signIn (page : Nat) (credentials : SignIn)
  | users (page : Nat) (query : PageQuery)
  | overview (page : Nat)
  | rows (page : Nat) (level : Level) (query : PageQuery)
  | cars (page : Nat) (query : PageQuery)
  | heldRoles (page panel : Nat) (user : Int64)
  | allRoles (page panel : Nat)
  | spec (page form : Nat) (id : Int64)
  | act (page : Nat) (action : Action)
  deriving DecidableEq, Repr

/-- The request a task sends with the credential of that moment. -/
def Task.request (t : Task) (credential : Option String) : Api.Request :=
  match t with
  | .signIn _ credentials => (Api.signIn credentials).request credential
  | .users _ query => (Api.listUsers query).request credential
  | .overview _ => Api.listRoles.request credential
  | .rows _ level query => (Api.loadRows level query).request credential
  | .cars _ query => (Api.listMyCars query).request credential
  | .heldRoles _ _ user => (Api.listUserRoles user).request credential
  | .allRoles _ _ => Api.listRoles.request credential
  | .spec _ _ id => (Api.getSpec id).request credential
  | .act _ action => action.call.request credential

end CarCatalog

import CarCatalog.Api.Call
import CarCatalog.Wire.Cars
import CarCatalog.Wire.People

/-!
# What the service offers

One call for each thing that can be asked: signing in, users and roles, the five levels of the
catalog, and a user's own cars.
-/

namespace CarCatalog.Api

def withQuery (path : String) (q : PageQuery) : String := path ++ "?" ++ q.toQueryString

def get {α : Type} [Wire α] (path : String) : Call α := .json .get path none

def list {α : Type} [Wire α] (path : String) (q : PageQuery) : Call (Page α) :=
  get (withQuery path q)

/-- Sends a record and reads one back. -/
def send {α β : Type} [Wire α] [Wire β] (method : Method) (path : String) (payload : α) : Call β :=
  .json method path (some (Wire.toJson payload))

def delete (path : String) : Call Unit := .plain .delete path

def signIn (credentials : SignIn) : Call Token := send .post Path.signIn credentials

/-! ## Users and roles -/

def listUsers (q : PageQuery) : Call (Page User) := list Path.users q

def createUser (payload : NewUser) : Call User := send .post Path.users payload

def updateUser (user : Int64) (payload : UserUpdate) : Call User :=
  send .put (Path.user user) payload

def deleteUser (user : Int64) : Call Unit := delete (Path.user user)

def listUserRoles (user : Int64) : Call (List RoleRecord) := get (Path.userRoles user)

def assignRole (user : Int64) (role : String) : Call Unit :=
  .plain .post (Path.assignRole user role)

def removeRole (user : Int64) (role : String) : Call Unit := delete (Path.removeRole user role)

def listRoles : Call (List RoleRecord) := get Path.roles

def rolePermissions (role : Int64) : Call (List Permission) := get (Path.rolePermissions role)

/-! ## The catalog -/

def listBrands (q : PageQuery) : Call (Page Brand) := list Path.brands q

def createBrand (payload : NewName) : Call Brand := send .post Path.brands payload

def updateBrand (brand : Int64) (payload : NewName) : Call Brand :=
  send .put (Path.brand brand) payload

def deleteBrand (brand : Int64) : Call Unit := delete (Path.brand brand)

def listModels (brand : Int64) (q : PageQuery) : Call (Page Model) := list (Path.models brand) q

def createModel (brand : Int64) (payload : NewName) : Call Model :=
  send .post (Path.models brand) payload

def updateModel (brand model : Int64) (payload : NewName) : Call Model :=
  send .put (Path.model brand model) payload

def deleteModel (brand model : Int64) : Call Unit := delete (Path.model brand model)

def listSubmodels (model : Int64) (q : PageQuery) : Call (Page Submodel) :=
  list (Path.submodels model) q

def createSubmodel (model : Int64) (payload : NewName) : Call Submodel :=
  send .post (Path.submodels model) payload

def updateSubmodel (model submodel : Int64) (payload : NewName) : Call Submodel :=
  send .put (Path.submodel model submodel) payload

def deleteSubmodel (model submodel : Int64) : Call Unit := delete (Path.submodel model submodel)

def listGenerations (submodel : Int64) (q : PageQuery) : Call (Page Generation) :=
  list (Path.generations submodel) q

def createGeneration (submodel : Int64) (payload : NewGeneration) : Call Generation :=
  send .post (Path.generations submodel) payload

def updateGeneration (submodel generation : Int64) (payload : NewGeneration) : Call Generation :=
  send .put (Path.generation submodel generation) payload

def deleteGeneration (submodel generation : Int64) : Call Unit :=
  delete (Path.generation submodel generation)

def listSpecs (generation : Int64) (q : PageQuery) : Call (Page CarSpec) :=
  list (Path.specs generation) q

def getSpec (spec : Int64) : Call CarSpec := get (Path.spec spec)

def createSpec (generation : Int64) (payload : NewSpec) : Call CarSpec :=
  send .post (Path.specs generation) payload

def updateSpec (generation spec : Int64) (payload : NewSpec) : Call CarSpec :=
  send .put (Path.specIn generation spec) payload

def deleteSpec (generation spec : Int64) : Call Unit := delete (Path.specIn generation spec)

/-! ## A user's own cars -/

def listMyCars (q : PageQuery) : Call (Page CarSpec) := list Path.myCars q

def addMyCar (spec : Int64) : Call SavedCar := .json .post (Path.myCar spec) none

def removeMyCar (spec : Int64) : Call Unit := delete (Path.myCar spec)

end CarCatalog.Api

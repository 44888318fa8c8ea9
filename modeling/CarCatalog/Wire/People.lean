import CarCatalog.Wire.Basic

/-!
# Users, roles and permissions
-/

namespace CarCatalog

/-- A name and password to sign in with. -/
structure SignIn where
  username : String
  password : String
  deriving DecidableEq, Repr

/-- What the server gives to one who signed in. -/
structure Token where
  access : String
  kind : String
  deriving DecidableEq, Repr

structure User where
  id : Int64
  username : String
  isActive : Bool
  deriving DecidableEq, Repr

structure NewUser where
  username : String
  password : String
  deriving DecidableEq, Repr

/-- What is to change in a user; nothing is said of what stays. -/
structure UserUpdate where
  username : Option String
  password : Option String
  deriving DecidableEq, Repr

structure Permission where
  id : Int64
  name : String
  description : Option String
  deriving DecidableEq, Repr

structure RoleRecord where
  id : Int64
  name : String
  description : Option String
  permissions : List Permission
  deriving DecidableEq, Repr

/-! ## Written forms -/

instance : Wire SignIn where
  ofJson? j := do
    let field ← j.fields ["username", "password"]
    return { username := ← (field "username").get, password := ← (field "password").get }
  toJson v := .record [member "username" v.username, member "password" v.password]

instance : Wire Token where
  ofJson? j := do
    let field ← j.fields ["access_token", "token_type"]
    return {
      access := ← (field "access_token").get
      kind := ← (field "token_type").getD "bearer" }
  toJson v := .record [member "access_token" v.access, member "token_type" v.kind]

instance : Wire User where
  ofJson? j := do
    let field ← j.fields ["id", "username", "is_active"]
    return {
      id := ← (field "id").get
      username := ← (field "username").get
      isActive := ← (field "is_active").getD true }
  toJson v := .record [
    member "id" v.id, member "username" v.username, member "is_active" v.isActive]

instance : Wire NewUser where
  ofJson? j := do
    let field ← j.fields ["username", "password"]
    return { username := ← (field "username").get, password := ← (field "password").get }
  toJson v := .record [member "username" v.username, member "password" v.password]

instance : Wire UserUpdate where
  ofJson? j := do
    let field ← j.fields ["username", "password"]
    return { username := ← (field "username").get?, password := ← (field "password").get? }
  toJson v := .record (memberIfAny "username" v.username ++ memberIfAny "password" v.password)

instance : Wire Permission where
  ofJson? j := do
    let field ← j.fields ["id", "name", "description"]
    return {
      id := ← (field "id").get
      name := ← (field "name").get
      description := ← (field "description").get? }
  toJson v := .record [
    member "id" v.id, member "name" v.name, memberOrNull "description" v.description]

instance : Wire RoleRecord where
  ofJson? j := do
    let field ← j.fields ["id", "name", "description", "permissions"]
    return {
      id := ← (field "id").get
      name := ← (field "name").get
      description := ← (field "description").get?
      permissions := ← (field "permissions").getD [] }
  toJson v := .record [
    member "id" v.id, member "name" v.name, memberOrNull "description" v.description,
    member "permissions" v.permissions]

/-! ## What is shown of them -/

/-- An update that changes nothing. -/
def UserUpdate.isEmpty (u : UserUpdate) : Bool := u.username.isNone && u.password.isNone

/-- The roles of a list that a user does not hold yet, by name. -/
def assignable (all held : List RoleRecord) : List RoleRecord :=
  all.filter fun r => held.all fun h => h.name != r.name

def RoleRecord.permissionSummary (r : RoleRecord) : String :=
  if r.permissions.isEmpty then "none" else ", ".intercalate (r.permissions.map (·.name))

end CarCatalog

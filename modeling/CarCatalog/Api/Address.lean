import CarCatalog.Text.Blank
import CarCatalog.Text.Percent

/-!
# Addresses of the service

The path of every resource, and the base that stands before all of them.
-/

namespace CarCatalog.Api

def defaultBase : String := "http://localhost:8000"

/-- A base without white space around it and slashes after it; the default if nothing is left. -/
def normalizeBase (raw : String) : String :=
  let base := ((Text.trim raw).toList.reverse.dropWhile (· == '/')).reverse
  if base.isEmpty then defaultBase else String.ofList base

def base : String := normalizeBase defaultBase

def url (path : String) : String := base ++ path

namespace Path

def signIn : String := "/login/access-token"

def users : String := "/users"

def roles : String := "/roles"

def brands : String := "/brands"

def myCars : String := "/my-cars"

def user (id : Int64) : String := s!"/users/{id.toInt}"

def userRoles (user : Int64) : String := s!"/users/{user.toInt}/roles"

def rolePermissions (role : Int64) : String := s!"/roles/{role.toInt}/permissions"

def brand (id : Int64) : String := s!"/brands/{id.toInt}"

def models (brand : Int64) : String := s!"/brands/{brand.toInt}/models"

def model (brand id : Int64) : String := s!"/brands/{brand.toInt}/models/{id.toInt}"

def submodels (model : Int64) : String := s!"/models/{model.toInt}/submodels"

def submodel (model id : Int64) : String := s!"/models/{model.toInt}/submodels/{id.toInt}"

def generations (submodel : Int64) : String := s!"/submodels/{submodel.toInt}/generations"

def generation (submodel id : Int64) : String :=
  s!"/submodels/{submodel.toInt}/generations/{id.toInt}"

def specs (generation : Int64) : String := s!"/generations/{generation.toInt}/specs"

def specIn (generation id : Int64) : String := s!"/generations/{generation.toInt}/specs/{id.toInt}"

def spec (id : Int64) : String := s!"/specs/{id.toInt}"

def myCar (spec : Int64) : String := s!"/my-cars/{spec.toInt}"

def assignRole (user : Int64) (role : String) : String :=
  s!"/users/{user.toInt}/role?role_name=" ++ Text.Percent.encode role

def removeRole (user : Int64) (role : String) : String :=
  s!"/users/{user.toInt}/roles/" ++ Text.Percent.encode role

end Path

end CarCatalog.Api

import CarCatalog.Text.Integer
import CarCatalog.Wire.Cars
import CarCatalog.Wire.People

/-!
# Forms

A form turns the texts a user typed into what is sent, or names the first field that breaks a rule.
Texts are trimmed, but for passwords; lengths count characters.
-/

namespace CarCatalog

inductive FormField
  | username
  | password
  | name
  | engine
  | horsepower
  | torque
  | fuelType
  | year
  | yearStart
  | yearEnd
  deriving DecidableEq, Repr

namespace FormField

def key : FormField → String
  | .username => "username"
  | .password => "password"
  | .name => "name"
  | .engine => "engine"
  | .horsepower => "horsepower"
  | .torque => "torque"
  | .fuelType => "fuel_type"
  | .year => "year"
  | .yearStart => "year_start"
  | .yearEnd => "year_end"

def label : FormField → String
  | .username => "Username"
  | .password => "Password"
  | .name => "Name"
  | .engine => "Engine"
  | .horsepower => "Horsepower"
  | .torque => "Torque"
  | .fuelType => "Fuel type"
  | .year => "Year"
  | .yearStart => "Start year"
  | .yearEnd => "End year"

end FormField

/-- The rules a field may break. -/
inductive FormRule
  | required
  | atMost (characters : Nat)
  | atLeast (characters : Nat)
  | number
  | between (lo hi : Int)
  deriving DecidableEq, Repr

def FormRule.demand : FormRule → String
  | .required => "is required"
  | .atMost n => s!"must be at most {n} characters"
  | .atLeast n => s!"must be at least {n} characters"
  | .number => "must be a number"
  | .between lo hi => s!"must be between {lo} and {hi}"

structure FormError where
  field : FormField
  rule : FormRule
  deriving DecidableEq, Repr

def FormError.message (e : FormError) : String := e.field.label ++ " " ++ e.rule.demand

namespace Form

def nameLimit : Nat := 100

def fuelTypeLimit : Nat := 50

def passwordLeast : Nat := 6

def firstYear : Int := 1900

def lastYear : Int := 2100

/-! ## Single fields -/

def required (field : FormField) (text : String) : Except FormError String :=
  let trimmed := Text.trim text
  if trimmed.isEmpty then .error ⟨field, .required⟩ else .ok trimmed

def bounded (field : FormField) (limit : Nat) (text : String) : Except FormError String := do
  let trimmed ← required field text
  if limit < trimmed.length then .error ⟨field, .atMost limit⟩ else .ok trimmed

def password (text : String) : Except FormError String :=
  if text.length < passwordLeast then .error ⟨.password, .atLeast passwordLeast⟩ else .ok text

def integer (field : FormField) (text : String) : Except FormError Int32 :=
  match Text.readInt32 (Text.trim text) with
  | some i => .ok i
  | none => .error ⟨field, .number⟩

def year (field : FormField) (text : String) : Except FormError Int32 := do
  let i ← integer field text
  if firstYear ≤ i.toInt && i.toInt ≤ lastYear then .ok i
  else .error ⟨field, .between firstYear lastYear⟩

/-- A number below one counts as none given. -/
def atLeastOne (field : FormField) (text : String) : Except FormError Int32 := do
  let i ← integer field text
  if i.toInt < 1 then .error ⟨field, .required⟩ else .ok i

/-! ## Whole forms -/

def signIn (username passwordText : String) : Except FormError SignIn := do
  return { username := ← required .username username, password := ← password passwordText }

def newUser (username passwordText : String) : Except FormError NewUser := do
  return { username := ← required .username username, password := ← password passwordText }

/-- A blank name and an empty password are left as they are. -/
def userUpdate (username passwordText : String) : Except FormError UserUpdate := do
  let name := Text.trim username
  let newPassword ← if passwordText.isEmpty then pure none else some <$> password passwordText
  return { username := if name.isEmpty then none else some name, password := newPassword }

def newName (name : String) : Except FormError NewName := do
  return { name := ← bounded .name nameLimit name }

def newGeneration (name yearStart yearEnd : String) : Except FormError NewGeneration := do
  return {
    name := ← bounded .name nameLimit name
    yearStart := ← year .yearStart yearStart
    yearEnd := ← year .yearEnd yearEnd }

/-- The texts of the form of a spec. -/
structure SpecFields where
  name : String
  engine : String
  horsepower : String
  torque : String
  fuelType : String
  year : String
  deriving DecidableEq, Repr

def SpecFields.blank : SpecFields := ⟨"", "", "", "", "", ""⟩

def SpecFields.ofSpec (s : CarSpec) : SpecFields where
  name := s.name
  engine := s.engine
  horsepower := toString s.horsepower.toInt
  torque := toString s.torque.toInt
  fuelType := s.fuelType
  year := toString s.year.toInt

def newSpec (f : SpecFields) : Except FormError NewSpec := do
  return {
    name := ← bounded .name nameLimit f.name
    engine := ← bounded .engine nameLimit f.engine
    horsepower := ← atLeastOne .horsepower f.horsepower
    torque := ← atLeastOne .torque f.torque
    fuelType := ← bounded .fuelType fuelTypeLimit f.fuelType
    year := ← year .year f.year }

end Form

end CarCatalog

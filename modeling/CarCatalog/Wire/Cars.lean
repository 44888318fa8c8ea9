import CarCatalog.Wire.Basic

/-!
# Cars: brands, models, submodels, generations and specs
-/

namespace CarCatalog

structure Brand where
  id : Int64
  name : String
  createdBy : Int64
  deriving DecidableEq, Repr

structure Model where
  id : Int64
  name : String
  brandId : Int64
  createdBy : Int64
  deriving DecidableEq, Repr

structure Submodel where
  id : Int64
  name : String
  modelId : Int64
  createdBy : Int64
  deriving DecidableEq, Repr

structure Generation where
  id : Int64
  name : String
  yearStart : Int32
  yearEnd : Int32
  submodelId : Int64
  createdBy : Int64
  deriving DecidableEq, Repr

structure CarSpec where
  id : Int64
  name : String
  engine : String
  horsepower : Int32
  torque : Int32
  fuelType : String
  year : Int32
  generationId : Int64
  createdBy : Int64
  deriving DecidableEq, Repr

/-- A spec that a user saved among their cars. -/
structure SavedCar where
  id : Int64
  userId : Int64
  specId : Int64
  deriving DecidableEq, Repr

/-! ## What is sent to create or change one -/

/-- A brand, model or submodel. -/
structure NewName where
  name : String
  deriving DecidableEq, Repr

structure NewGeneration where
  name : String
  yearStart : Int32
  yearEnd : Int32
  deriving DecidableEq, Repr

structure NewSpec where
  name : String
  engine : String
  horsepower : Int32
  torque : Int32
  fuelType : String
  year : Int32
  deriving DecidableEq, Repr

/-! ## Written forms -/

instance : Wire Brand where
  ofJson? j := do
    let field ← j.fields ["id", "name", "created_by"]
    return {
      id := ← (field "id").get
      name := ← (field "name").get
      createdBy := ← (field "created_by").get }
  toJson v := .record [member "id" v.id, member "name" v.name, member "created_by" v.createdBy]

instance : Wire Model where
  ofJson? j := do
    let field ← j.fields ["id", "name", "brand_id", "created_by"]
    return {
      id := ← (field "id").get
      name := ← (field "name").get
      brandId := ← (field "brand_id").get
      createdBy := ← (field "created_by").get }
  toJson v := .record [
    member "id" v.id, member "name" v.name, member "brand_id" v.brandId,
    member "created_by" v.createdBy]

instance : Wire Submodel where
  ofJson? j := do
    let field ← j.fields ["id", "name", "model_id", "created_by"]
    return {
      id := ← (field "id").get
      name := ← (field "name").get
      modelId := ← (field "model_id").get
      createdBy := ← (field "created_by").get }
  toJson v := .record [
    member "id" v.id, member "name" v.name, member "model_id" v.modelId,
    member "created_by" v.createdBy]

instance : Wire Generation where
  ofJson? j := do
    let field ← j.fields ["id", "name", "year_start", "year_end", "submodel_id", "created_by"]
    return {
      id := ← (field "id").get
      name := ← (field "name").get
      yearStart := ← (field "year_start").get
      yearEnd := ← (field "year_end").get
      submodelId := ← (field "submodel_id").get
      createdBy := ← (field "created_by").get }
  toJson v := .record [
    member "id" v.id, member "name" v.name, member "year_start" v.yearStart,
    member "year_end" v.yearEnd, member "submodel_id" v.submodelId,
    member "created_by" v.createdBy]

instance : Wire CarSpec where
  ofJson? j := do
    let field ← j.fields ["id", "name", "engine", "horsepower", "torque", "fuel_type", "year",
      "generation_id", "created_by"]
    return {
      id := ← (field "id").get
      name := ← (field "name").get
      engine := ← (field "engine").get
      horsepower := ← (field "horsepower").get
      torque := ← (field "torque").get
      fuelType := ← (field "fuel_type").get
      year := ← (field "year").get
      generationId := ← (field "generation_id").get
      createdBy := ← (field "created_by").get }
  toJson v := .record [
    member "id" v.id, member "name" v.name, member "engine" v.engine,
    member "horsepower" v.horsepower, member "torque" v.torque, member "fuel_type" v.fuelType,
    member "year" v.year, member "generation_id" v.generationId, member "created_by" v.createdBy]

instance : Wire SavedCar where
  ofJson? j := do
    let field ← j.fields ["id", "user_id", "car_spec_id"]
    return {
      id := ← (field "id").get
      userId := ← (field "user_id").get
      specId := ← (field "car_spec_id").get }
  toJson v := .record [
    member "id" v.id, member "user_id" v.userId, member "car_spec_id" v.specId]

instance : Wire NewName where
  ofJson? j := do
    let field ← j.fields ["name"]
    return { name := ← (field "name").get }
  toJson v := .record [member "name" v.name]

instance : Wire NewGeneration where
  ofJson? j := do
    let field ← j.fields ["name", "year_start", "year_end"]
    return {
      name := ← (field "name").get
      yearStart := ← (field "year_start").get
      yearEnd := ← (field "year_end").get }
  toJson v := .record [
    member "name" v.name, member "year_start" v.yearStart, member "year_end" v.yearEnd]

instance : Wire NewSpec where
  ofJson? j := do
    let field ← j.fields ["name", "engine", "horsepower", "torque", "fuel_type", "year"]
    return {
      name := ← (field "name").get
      engine := ← (field "engine").get
      horsepower := ← (field "horsepower").get
      torque := ← (field "torque").get
      fuelType := ← (field "fuel_type").get
      year := ← (field "year").get }
  toJson v := .record [
    member "name" v.name, member "engine" v.engine, member "horsepower" v.horsepower,
    member "torque" v.torque, member "fuel_type" v.fuelType, member "year" v.year]

/-! ## What is shown of them -/

def Generation.displayName (g : Generation) : String :=
  s!"{g.name} ({g.yearStart.toInt}-{g.yearEnd.toInt})"

def CarSpec.detail (s : CarSpec) : String :=
  s!"{s.engine}, {s.horsepower.toInt} hp, {s.torque.toInt} Nm, {s.fuelType}, {s.year.toInt}"

end CarCatalog

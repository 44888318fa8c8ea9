import CarCatalog.Api.Service
import CarCatalog.Catalog.Level
import CarCatalog.Catalog.Row

/-!
# Calls by level

Lists, deletes and saves a record of the catalog at whichever level it stands.
-/

namespace CarCatalog.Api

def loadRows (l : Level) (q : PageQuery) : Call (Page Row) :=
  match l with
  | .brands => (listBrands q).map (.map Brand.row)
  | .models brand => (listModels brand q).map (.map Model.row)
  | .submodels model => (listSubmodels model q).map (.map Submodel.row)
  | .generations submodel => (listGenerations submodel q).map (.map Generation.row)
  | .specs generation => (listSpecs generation q).map (.map CarSpec.row)

def deleteRow (l : Level) (id : Int64) : Call Unit :=
  match l with
  | .brands => deleteBrand id
  | .models brand => deleteModel brand id
  | .submodels model => deleteSubmodel model id
  | .generations submodel => deleteGeneration submodel id
  | .specs generation => deleteSpec generation id

/-- Creates a named record, or changes the one with the given id.  Levels that take more than a name
fall back to brands. -/
def saveName (l : Level) (id : Option Int64) (payload : NewName) : Call Unit :=
  match l, id with
  | .models brand, none => (createModel brand payload).void
  | .models brand, some id => (updateModel brand id payload).void
  | .submodels model, none => (createSubmodel model payload).void
  | .submodels model, some id => (updateSubmodel model id payload).void
  | _, none => (createBrand payload).void
  | _, some id => (updateBrand id payload).void

def saveGeneration (submodel : Int64) (id : Option Int64) (payload : NewGeneration) : Call Unit :=
  match id with
  | none => (createGeneration submodel payload).void
  | some id => (updateGeneration submodel id payload).void

def saveSpec (generation : Int64) (id : Option Int64) (payload : NewSpec) : Call Unit :=
  match id with
  | none => (createSpec generation payload).void
  | some id => (updateSpec generation id payload).void

end CarCatalog.Api

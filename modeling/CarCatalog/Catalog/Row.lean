import CarCatalog.Paging.Basic
import CarCatalog.Wire.Cars

/-!
# Rows of the catalog's tables

A row is what a table shows of a record, whatever its level: the name as stored, and the label,
which for a generation also tells its years.
-/

namespace CarCatalog

structure Row where
  id : Int64
  name : String
  label : String
  detail : Option String
  years : Option (Int32 × Int32)
  createdBy : Int64
  deriving DecidableEq, Repr

def Row.named (id : Int64) (name : String) (createdBy : Int64) : Row where
  id := id
  name := name
  label := name
  detail := none
  years := none
  createdBy := createdBy

def Brand.row (b : Brand) : Row := .named b.id b.name b.createdBy

def Model.row (m : Model) : Row := .named m.id m.name m.createdBy

def Submodel.row (s : Submodel) : Row := .named s.id s.name s.createdBy

def Generation.row (g : Generation) : Row :=
  { Row.named g.id g.name g.createdBy with
    label := g.displayName
    years := some (g.yearStart, g.yearEnd) }

def CarSpec.row (s : CarSpec) : Row :=
  { Row.named s.id s.name s.createdBy with detail := some s.detail }

/-- The first row of an id. -/
def Row.find? (rows : List Row) (id : Int64) : Option Row := List.find? (fun r => r.id == id) rows

/-- The labels of the records opened so far. -/
def breadcrumb (labels : List String) : String := " / ".intercalate labels

end CarCatalog

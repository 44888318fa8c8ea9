import CarCatalog.Catalog.Level

/-!
# The way down the catalog

A `Trail` is the records opened from the root on, at most four.

    (t.descend id).toList = if t.toList.length < 4 then t.toList ++ [id] else t.toList
    t.ascend.toList = t.toList.dropLast
-/

namespace CarCatalog

inductive Trail
  | root
  | brand (brand : Int64)
  | model (brand model : Int64)
  | submodel (brand model submodel : Int64)
  | generation (brand model submodel generation : Int64)
  deriving DecidableEq, Repr

namespace Trail

/-- The list that the last opened record leads to. -/
def level : Trail → Level
  | .root => .brands
  | .brand b => .models b
  | .model _ m => .submodels m
  | .submodel _ _ s => .generations s
  | .generation _ _ _ g => .specs g

/-- Opens a record of the level; below a generation there is nothing to open. -/
def descend : Trail → Int64 → Trail
  | .root, id => .brand id
  | .brand b, id => .model b id
  | .model b m, id => .submodel b m id
  | .submodel b m s, id => .generation b m s id
  | .generation b m s g, _ => .generation b m s g

def ascend : Trail → Trail
  | .root => .root
  | .brand _ => .root
  | .model b _ => .brand b
  | .submodel b m _ => .model b m
  | .generation b m s _ => .submodel b m s

def isRoot : Trail → Bool
  | .root => true
  | _ => false

def toList : Trail → List Int64
  | .root => []
  | .brand b => [b]
  | .model b m => [b, m]
  | .submodel b m s => [b, m, s]
  | .generation b m s g => [b, m, s, g]

/-! ## Lemmas -/

theorem toList_descend (t : Trail) (id : Int64) :
    (t.descend id).toList = if t.toList.length < 4 then t.toList ++ [id] else t.toList := by
  cases t <;> rfl

theorem toList_ascend (t : Trail) : t.ascend.toList = t.toList.dropLast := by
  cases t <;> rfl

end Trail

end CarCatalog

import CarCatalog.Json.Basic

/-!
# Reading records from JSON values

A record is read from an object by its field names, or from an array that holds the fields in order.
Members of other names are skipped, whatever they hold; a field that is given twice, an item too
many, and a name that is no text are refused.
-/

namespace CarCatalog

/-- What a record has for a field: a value, no member of that name, or an array that ends before. -/
inductive Field
  | found (value : Json)
  | absent
  | beyond

namespace Json

/-- The field of a name among an object's members. -/
def memberField (members : List (Option String × Json)) (name : String) : Option Field :=
  match members.filter fun m => m.1 == some name with
  | [] => some .absent
  | [m] => some (.found m.2)
  | _ => none

def itemField (items : List Json) (i : Nat) : Field :=
  match items[i]? with
  | some j => .found j
  | none => .beyond

/-- The fields of a record, by name. -/
def fields (names : List String) : Json → Option (String → Field)
  | .object members =>
    if members.all (·.1.isSome) && names.all fun n => (memberField members n).isSome then
      some fun name => (memberField members name).getD .absent
    else none
  | .array items =>
    if items.length ≤ names.length then some fun name => itemField items (names.idxOf name)
    else none
  | _ => none

/-! ## Values of fields -/

/-- An integer, written without fraction and exponent. -/
def integer? : Json → Option Int
  | .number n => n.toInt?
  | _ => none

def int64? (j : Json) : Option Int64 := j.integer?.bind CarCatalog.int64?

def int32? (j : Json) : Option Int32 := j.integer?.bind CarCatalog.int32?

def uint32? (j : Json) : Option UInt32 := j.integer?.bind CarCatalog.uint32?

def uint64? (j : Json) : Option UInt64 := j.integer?.bind CarCatalog.uint64?

def bool? : Json → Option Bool
  | .bool b => some b
  | _ => none

def text? : Json → Option String
  | .string s => s
  | _ => none

def option? {α : Type} (read : Json → Option α) : Json → Option (Option α)
  | .null => some none
  | j => (read j).map some

def list? {α : Type} (read : Json → Option α) : Json → Option (List α)
  | .array items => items.mapM read
  | _ => none

end Json

namespace Field

variable {α : Type}

/-- A field that has to be there. -/
def required (read : Json → Option α) : Field → Option α
  | .found j => read j
  | _ => none

/-- A field that an object may leave out, and that may be null. -/
def optional (read : Json → Option α) : Field → Option (Option α)
  | .found j => j.option? read
  | .absent => some none
  | .beyond => none

/-- A field with a value of its own when it is left out. -/
def orElse (default : α) (read : Json → Option α) : Field → Option α
  | .found j => read j
  | _ => some default

end Field

end CarCatalog

import CarCatalog.Json.Record
import CarCatalog.Session.Record

/-!
# Types that travel as JSON

`Wire α` gives the written form of a type and what is read as one.
-/

namespace CarCatalog

class Wire (α : Type) where
  ofJson? : Json → Option α
  toJson : α → Json

/-- What reading a value and writing the result gives. -/
def Wire.normalize? (α : Type) [Wire α] (j : Json) : Option Json :=
  (Wire.ofJson? (α := α) j).map Wire.toJson

instance : Wire Int64 := ⟨Json.int64?, fun i => .int i.toInt⟩

instance : Wire Int32 := ⟨Json.int32?, fun i => .int i.toInt⟩

instance : Wire UInt32 := ⟨Json.uint32?, fun n => .int n.toNat⟩

instance : Wire UInt64 := ⟨Json.uint64?, fun n => .int n.toNat⟩

instance : Wire String := ⟨Json.text?, .text⟩

instance : Wire Bool := ⟨Json.bool?, .bool⟩

instance {α : Type} [Wire α] : Wire (List α) := ⟨Json.list? Wire.ofJson?, .list Wire.toJson⟩

instance : Wire Role := ⟨Role.ofJson?, Role.toJson⟩

instance : Wire Identity := ⟨Identity.ofJson?, Identity.toJson⟩

instance : Wire Session := ⟨Session.ofJson?, Session.toJson⟩

instance : Wire MalformedPolicy := ⟨MalformedPolicy.ofJson?, MalformedPolicy.toJson⟩

instance : Wire SessionConfig := ⟨SessionConfig.ofJson?, SessionConfig.toJson⟩

namespace Field

variable {α : Type} [Wire α]

/-- A field that has to be there. -/
def get (f : Field) : Option α := f.required Wire.ofJson?

/-- A field that an object may leave out, and that may be null. -/
def get? (f : Field) : Option (Option α) := f.optional Wire.ofJson?

def getD (f : Field) (default : α) : Option α := f.orElse default Wire.ofJson?

end Field

/-- A member of an object. -/
def member {α : Type} [Wire α] (name : String) (value : α) : String × Json :=
  (name, Wire.toJson value)

/-- A member that is null without a value. -/
def memberOrNull {α : Type} [Wire α] (name : String) (value : Option α) : String × Json :=
  (name, .ofOption Wire.toJson value)

/-- A member that is left out without a value. -/
def memberIfAny {α : Type} [Wire α] (name : String) (value : Option α) : List (String × Json) :=
  (value.map (member name)).toList

end CarCatalog

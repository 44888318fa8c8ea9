import CarCatalog.App.Task
import CarCatalog.Form
import CarCatalog.View.Parts

/-!
# The form of a catalog record

One form for all levels: a name, a name and two years, or the six fields of a spec.  It creates a
record of its level, or edits the one it was opened for; a spec to be edited is loaded first.
-/

namespace CarCatalog

structure RecordForm where
  level : Level
  id : Option Int64
  name : String
  yearStart : String
  yearEnd : String
  spec : Form.SpecFields
  /-- A loaded spec, or why it failed, that the fields have not taken over yet. -/
  arrived : Option (Except String CarSpec)
  notice : String

namespace RecordForm

/-- A blank form, or one with the values of a row. -/
def new (level : Level) (editing : Option Row) : RecordForm where
  level := level
  id := editing.map (·.id)
  name := (editing.map (·.name)).getD ""
  yearStart := ((editing.bind (·.years)).map fun y => toString y.1.toInt).getD ""
  yearEnd := ((editing.bind (·.years)).map fun y => toString y.2.toInt).getD ""
  spec := .blank
  arrived := none
  notice := ""

/-- The spec that has to be loaded before it can be edited. -/
def wanted? (f : RecordForm) : Option Int64 := if f.level.isLeaf then f.id else none

inductive Msg
  | typed (field : FormField) (value : String)
  | submit
  | cancel
  deriving DecidableEq, Repr

def setSpec (s : Form.SpecFields) (field : FormField) (value : String) : Form.SpecFields :=
  match field with
  | .name => { s with name := value }
  | .engine => { s with engine := value }
  | .horsepower => { s with horsepower := value }
  | .torque => { s with torque := value }
  | .fuelType => { s with fuelType := value }
  | .year => { s with year := value }
  | _ => s

def set (f : RecordForm) (field : FormField) (value : String) : RecordForm :=
  if f.level.isLeaf then { f with spec := setSpec f.spec field value }
  else
    match field with
    | .name => { f with name := value }
    | .yearStart => { f with yearStart := value }
    | .yearEnd => { f with yearEnd := value }
    | _ => f

/-- What the form would save. -/
def saving (f : RecordForm) : Except FormError Saving :=
  match f.level with
  | .generations parent =>
    (Form.newGeneration f.name f.yearStart f.yearEnd).map (.generation parent f.id)
  | .specs parent => (Form.newSpec f.spec).map (.spec parent f.id)
  | level => (Form.newName f.name).map (.name level f.id)

/-- The form after a submit, and what to save if it was accepted. -/
def submit (f : RecordForm) : RecordForm × Option Saving :=
  match f.saving with
  | .error e => ({ f with notice := e.message }, none)
  | .ok saving => ({ f with notice := "" }, some saving)

/-- Takes over a spec that has arrived. -/
def settle (f : RecordForm) : RecordForm :=
  match f.arrived with
  | none => f
  | some (.ok spec) => { f with spec := .ofSpec spec, arrived := none }
  | some (.error message) => { f with notice := message, arrived := none }

/-- The form after its record was saved. -/
def saved (f : RecordForm) : RecordForm :=
  { f with name := "", yearStart := "", yearEnd := "", spec := .blank }

/-! ## View -/

def input (field : FormField) (value : String) : Node Msg :=
  .field "form-input" [] field.label value (.typed field)

def inputs (f : RecordForm) : List (Node Msg) :=
  match f.level with
  | .generations _ =>
    [input .name f.name, input .yearStart f.yearStart, input .yearEnd f.yearEnd]
  | .specs _ =>
    [input .name f.spec.name, input .engine f.spec.engine, input .horsepower f.spec.horsepower,
      input .torque f.spec.torque, input .fuelType f.spec.fuelType, input .year f.spec.year]
  | _ => [input .name f.name]

def view (f : RecordForm) : Node Msg :=
  .form "create-form" .submit (
    [.plain "h2" [.text (f.level.formTitle f.id.isSome)]] ++
    f.inputs ++
    [.submitButton "btn btn--primary" (if f.id.isSome then "Save" else "Create")] ++
    Node.shownIf f.id.isSome (.sideButton "btn btn--secondary" "Cancel" .cancel) ++
    Node.notice "form-error" f.notice)

end RecordForm

end CarCatalog

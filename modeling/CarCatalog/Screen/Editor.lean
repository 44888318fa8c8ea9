import CarCatalog.Catalog.Trail
import CarCatalog.Screen.RecordForm

/-!
# The catalog editor

A table of the records of one level, a way down and back, and the form to create or edit a record.
The form is built anew whenever the level or the record to edit is set, even to what it was.
-/

namespace CarCatalog

structure EditorPage where
  trail : Trail
  pager : Pager
  rows : Loadable (Page Row)
  editing : Option Row
  notice : String
  form : RecordForm
  formNumber : Nat
  formStale : Bool

namespace EditorPage

def firstPage : Pager := .sorted tablePageSize "name"

def blank : EditorPage where
  trail := .root
  pager := firstPage
  rows := .loading
  editing := none
  notice := ""
  form := .new .brands none
  formNumber := 0
  formStale := false

inductive Msg
  | enter (id : Int64)
  | back
  | edit (id : Int64)
  | delete (id : Int64)
  | previous
  | next
  | retry
  | form (msg : RecordForm.Msg)
  deriving DecidableEq, Repr

variable (number : Nat)

def reload (p : EditorPage) : EditorPage × List Task :=
  ({ p with rows := .loading }, [.rows number p.trail.level p.pager.query])

def edit (p : EditorPage) (row : Option Row) : EditorPage :=
  { p with editing := row, formStale := true }

def moveTo (p : EditorPage) (trail : Trail) : EditorPage × List Task :=
  { p.edit none with trail, pager := firstPage, notice := "" }.reload number

def turn (p : EditorPage) (step : Bool × Pager) : EditorPage × List Task :=
  let p := { p with pager := step.2 }
  if step.1 then p.reload number else (p, [])

def updateForm (p : EditorPage) : RecordForm.Msg → EditorPage × List Task
  | .typed field value => ({ p with form := p.form.set field value }, [])
  | .submit =>
    let (form, saving) := p.form.submit
    ({ p with form }, saving.toList.map fun s => .act number (.saveRecord p.formNumber s))
  | .cancel => (p.edit none, [])

def update (p : EditorPage) : Msg → EditorPage × List Task
  | .enter id => p.moveTo number (p.trail.descend id)
  | .back => p.moveTo number p.trail.ascend
  | .edit id => (p.edit (Row.find? p.rows.items id), [])
  | .delete id =>
    ({ p with notice := "" },
      [.act number (.deleteRow p.trail.level id (p.rows.items.length - 1))])
  | .previous => p.turn number p.pager.previous
  | .next => p.turn number p.pager.next
  | .retry => p.reload number
  | .form msg => p.updateForm number msg

/-- Builds the form anew if it is stale; one for a spec loads it. -/
def rebuild (p : EditorPage) : EditorPage × List Task :=
  if p.formStale then
    let form := RecordForm.new p.trail.level p.editing
    ({ p with form, formNumber := p.formNumber + 1, formStale := false },
      form.wanted?.toList.map fun id => .spec number (p.formNumber + 1) id)
  else ({ p with form := p.form.settle }, [])

/-- Changes the form of a number, if it still stands. -/
def modifyForm (p : EditorPage) (form : Nat) (f : RecordForm → RecordForm) : EditorPage :=
  if p.formNumber = form then { p with form := f p.form } else p

/-! ### Successes -/

def saved (p : EditorPage) (form : Nat) : EditorPage × List Task :=
  ((p.modifyForm form RecordForm.saved).edit none).reload number

def deleted (p : EditorPage) (id : Int64) (remaining : Nat) : EditorPage × List Task :=
  let p := if p.editing.any (·.id == id) then p.edit none else p
  { p with pager := p.pager.settle remaining }.reload number

/-! ### View -/

/-- What can be done with the rows: a spec has nothing below it to open. -/
def actions (mayChange : Int64 → Bool) (p : EditorPage) : View.RowActions Msg where
  enter := if p.trail.level.isLeaf then none else some .enter
  edit := some .edit
  delete := some .delete
  save := none
  mayChange := mayChange

def view (mayChange : Int64 → Bool) (p : EditorPage) : Node Msg :=
  .el "section" "page page--car-spec" (
    [.el "header" "page__header" (
      .plain "h1" [.text p.trail.level.title] ::
      Node.shownIf (!p.trail.isRoot) (.button "btn btn--secondary" "Back" .back))] ++
    Node.notice "form-error" p.notice ++
    View.loaded p.rows .retry (fun page => [View.rowTable (p.actions mayChange) page.data]) ++
    View.pagerBar p.pager .previous .next ++
    [p.form.view.map .form])

end EditorPage

end CarCatalog

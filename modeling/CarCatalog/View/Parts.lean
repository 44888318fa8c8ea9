import CarCatalog.Catalog.Row
import CarCatalog.Paging.Loadable
import CarCatalog.View.Node

/-!
# Parts that several pages show

A spinner, a failure with a way to try again, the bar of a pager, and the table of catalog rows.
-/

namespace CarCatalog.View

variable {α : Type}

def spinner (label : String) : Node α :=
  .element "div"
    [("class", .text "spinner"), ("role", .text "status"), ("aria-live", .text "polite")] .none
    [.el "span" "spinner__wheel" [], .el "span" "spinner__label" [.text label]]

/-- What a spinner says that is given no label of its own. -/
def waitingLabel : String := "Loading..."

def waiting : Node α := spinner waitingLabel

def errorNotice (message : String) (retry : α) : Node α :=
  .element "div" [("class", .text "error-notice"), ("role", .text "alert")] .none
    [.el "p" "error-notice__message" [.text message], .button "btn btn--secondary" "Retry" retry]

/-- A value once it is ready; before, a spinner or the failure. -/
def loaded {β : Type} (value : Loadable β) (retry : α) (ready : β → List (Node α)) :
    List (Node α) :=
  match value with
  | .loading => [waiting]
  | .failed message => [errorNotice message retry]
  | .ready value => ready value

/-- Nothing while there is but one page. -/
def pagerBar (pager : Pager) (previous next : α) : List (Node α) :=
  Node.shownIf (!pager.isSinglePage) (.el "nav" "pager-bar" [
    .switch "btn btn--secondary" "Previous" (!pager.hasPrevious) previous,
    .el "span" "pager-bar__summary" [.text pager.summary],
    .switch "btn btn--secondary" "Next" (!pager.hasNext) next])

/-! ## The table of rows -/

/-- What can be done with the rows of a table; a user may change only some of them. -/
structure RowActions (α : Type) where
  enter : Option (Int64 → α)
  edit : Option (Int64 → α)
  delete : Option (Int64 → α)
  save : Option (Int64 → α)
  mayChange : Int64 → Bool

def RowActions.none : RowActions α := ⟨.none, .none, .none, .none, fun _ => false⟩

/-- The button of an action, if the action is offered. -/
def actionButton (className label : String) (action : Option (Int64 → α)) (id : Int64) :
    List (Node α) :=
  match action with
  | some f => [.button className label (f id)]
  | .none => []

def rowLabel (actions : RowActions α) (r : Row) : Node α :=
  match actions.enter with
  | some f => .button "link-button" r.label (f r.id)
  | .none => .plain "span" [.text r.label]

def tableRow (actions : RowActions α) (r : Row) : Node α :=
  let mine := actions.mayChange r.createdBy
  .plain "tr" [
    .el "td" "row-table__label" [rowLabel actions r],
    .el "td" "row-table__detail" [.text (r.detail.getD "")],
    .el "td" "row-table__actions" (
      actionButton "btn btn--secondary" "Add to My Cars" actions.save r.id ++
      (if mine then actionButton "btn btn--secondary" "Edit" actions.edit r.id else []) ++
      (if mine then actionButton "btn btn--danger" "Delete" actions.delete r.id else []))]

def rowTable (actions : RowActions α) (rows : List Row) : Node α :=
  if rows.isEmpty then .el "p" "empty-state" [.text "Nothing here yet."]
  else .el "table" "row-table" [.plain "tbody" (rows.map (tableRow actions))]

end CarCatalog.View

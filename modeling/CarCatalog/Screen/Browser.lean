import CarCatalog.App.Task
import CarCatalog.Catalog.Trail
import CarCatalog.View.Parts

/-!
# The catalog browser

A table of the records of one level, a way down and back with the labels of what was opened, and at
the specs a button to save one among the user's cars.
-/

namespace CarCatalog

structure BrowserPage where
  trail : Trail
  picked : List String
  pager : Pager
  rows : Loadable (Page Row)
  notice : String
  deriving DecidableEq, Repr

namespace BrowserPage

def firstPage : Pager := .sorted tablePageSize "name"

def blank : BrowserPage where
  trail := .root
  picked := []
  pager := firstPage
  rows := .loading
  notice := ""

inductive Msg
  | enter (id : Int64)
  | back
  | save (spec : Int64)
  | previous
  | next
  | retry
  deriving DecidableEq, Repr

variable (number : Nat)

def reload (p : BrowserPage) : BrowserPage × List Task :=
  ({ p with rows := .loading }, [.rows number p.trail.level p.pager.query])

def moveTo (p : BrowserPage) (trail : Trail) (picked : List String) : BrowserPage × List Task :=
  { p with trail, picked, pager := firstPage, notice := "" }.reload number

def turn (p : BrowserPage) (step : Bool × Pager) : BrowserPage × List Task :=
  let p := { p with pager := step.2 }
  if step.1 then p.reload number else (p, [])

/-- The label of the row of an id. -/
def labelOf (p : BrowserPage) (id : Int64) : String :=
  ((Row.find? p.rows.items id).map (·.label)).getD ""

def update (p : BrowserPage) : Msg → BrowserPage × List Task
  | .enter id => p.moveTo number (p.trail.descend id) (p.picked ++ [p.labelOf id])
  | .back => p.moveTo number p.trail.ascend p.picked.dropLast
  | .save spec => ({ p with notice := "" }, [.act number (.addMyCar spec)])
  | .previous => p.turn number p.pager.previous
  | .next => p.turn number p.pager.next
  | .retry => p.reload number

/-- The page after a spec was saved. -/
def added (p : BrowserPage) : BrowserPage := { p with notice := "Saved to My Cars." }

/-! ### View -/

/-- What can be done with the rows: open them, or at the specs save them. -/
def actions (maySave : Bool) (p : BrowserPage) : View.RowActions Msg :=
  if p.trail.level.isLeaf then
    if maySave then { View.RowActions.none with save := some .save } else .none
  else { View.RowActions.none with enter := some .enter }

def view (maySave : Bool) (p : BrowserPage) : Node Msg :=
  .el "section" "page page--catalog" (
    [.el "header" "page__header" (
      [.plain "h1" [.text p.trail.level.title],
        .el "p" "page__breadcrumb" [.text (breadcrumb p.picked)]] ++
      Node.shownIf (!p.trail.isRoot) (.button "btn btn--secondary" "Back" .back))] ++
    Node.notice "form-notice" p.notice ++
    View.loaded p.rows .retry (fun page => [View.rowTable (p.actions maySave) page.data]) ++
    View.pagerBar p.pager .previous .next)

end BrowserPage

end CarCatalog

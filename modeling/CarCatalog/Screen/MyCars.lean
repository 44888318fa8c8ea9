import CarCatalog.App.Task
import CarCatalog.View.Parts

/-!
# The page of a user's own cars
-/

namespace CarCatalog

structure MyCarsPage where
  pager : Pager
  cars : Loadable (Page CarSpec)
  notice : String
  deriving DecidableEq, Repr

namespace MyCarsPage

def blank : MyCarsPage := ⟨.new cardPageSize, .loading, ""⟩

inductive Msg
  | remove (spec : Int64)
  | previous
  | next
  | retry
  deriving DecidableEq, Repr

variable (number : Nat)

def reload (p : MyCarsPage) : MyCarsPage × List Task :=
  ({ p with cars := .loading }, [.cars number p.pager.query])

def turn (p : MyCarsPage) (step : Bool × Pager) : MyCarsPage × List Task :=
  let p := { p with pager := step.2 }
  if step.1 then p.reload number else (p, [])

def update (p : MyCarsPage) : Msg → MyCarsPage × List Task
  | .remove spec =>
    ({ p with notice := "" }, [.act number (.removeMyCar spec (p.cars.items.length - 1))])
  | .previous => p.turn number p.pager.previous
  | .next => p.turn number p.pager.next
  | .retry => p.reload number

/-- The page after a car was removed. -/
def removed (p : MyCarsPage) (remaining : Nat) : MyCarsPage × List Task :=
  { p with pager := p.pager.settle remaining }.reload number

/-! ### View -/

def card (s : CarSpec) : Node Msg :=
  .el "article" "car-card" [
    .el "h2" "car-card__name" [.text s.name],
    .el "p" "car-card__detail" [.text s.detail],
    .button "btn btn--danger" "Remove" (.remove s.id)]

def cards (page : Page CarSpec) : List (Node Msg) :=
  if page.data.isEmpty then
    [.el "p" "empty-state" [.text "No saved cars yet. Add some from the catalog."]]
  else [.el "div" "card-grid" (page.data.map card)]

/-- How many cars there are, once they are known. -/
def summary (p : MyCarsPage) : String :=
  match p.cars with
  | .ready page => countLabel page.info.totalItems "car saved" "cars saved"
  | _ => ""

def view (p : MyCarsPage) : Node Msg :=
  .el "section" "page page--my-cars" (
    [.el "header" "page__header" [
      .plain "h1" [.text "My Cars"], .el "span" "page__summary" [.text p.summary]]] ++
    Node.notice "form-error" p.notice ++
    View.loaded p.cars .retry cards ++
    View.pagerBar p.pager .previous .next)

end MyCarsPage

end CarCatalog

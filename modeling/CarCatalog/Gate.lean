import CarCatalog.Section
import CarCatalog.Session.Basic

/-!
# Gates

A gate says of a session whether a part of the application is shown, waits, or sends the user to
another path.  The layout gate stands before every section, a section's own gate asks its
permission.
-/

namespace CarCatalog

def loginPath : String := "/login"

def homePath : String := "/"

inductive LayoutGate
  | loading
  | toLogin
  | render (menu : List Section)
  deriving DecidableEq, Repr

inductive ViewGate
  | loading
  | redirect (path : String)
  | allow
  deriving DecidableEq, Repr

namespace ViewGate

def target? : ViewGate → Option String
  | .redirect path => some path
  | _ => none

def isAllowed (g : ViewGate) : Bool := g == .allow

/-- What the spinner says while a gate does not allow. -/
def message : ViewGate → String
  | .loading => "Loading..."
  | .redirect _ => "Redirecting..."
  | .allow => ""

end ViewGate

def LayoutGate.menu : LayoutGate → List Section
  | .render menu => menu
  | _ => []

/-- How the browser goes to another path: whether the entry of its history is replaced, whether the
path is resolved against the application's, and whether it scrolls to the top. -/
structure NavigationOptions where
  replace : Bool
  resolve : Bool
  scroll : Bool
  deriving DecidableEq, Repr

/-- A redirect replaces the entry, so that going back does not return to the gate. -/
def NavigationOptions.redirect : NavigationOptions := ⟨true, true, true⟩

/-- The layout gate as a gate on a view. -/
def LayoutGate.asView : LayoutGate → ViewGate
  | .loading => .loading
  | .toLogin => .redirect loginPath
  | .render _ => .allow

namespace Session

def layoutGate (s : Session) : LayoutGate :=
  if s.loading then .loading
  else if !s.isAuthenticated then .toLogin
  else .render (menuOf s.role)

def sectionGate (s : Session) (part : Section) : ViewGate :=
  match s.layoutGate with
  | .loading => .loading
  | .toLogin => .redirect loginPath
  | .render _ => if part.permits s.role then .allow else .redirect (landingOf s.role).path

def indexGate (s : Session) : ViewGate :=
  match s.layoutGate with
  | .loading => .loading
  | .toLogin => .redirect loginPath
  | .render _ => .redirect (landingOf s.role).path

def loginGate (s : Session) : ViewGate :=
  if s.loading then .loading else if s.isAuthenticated then .redirect homePath else .allow

end Session

end CarCatalog

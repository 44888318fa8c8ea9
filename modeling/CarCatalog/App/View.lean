import CarCatalog.App.Basic

/-!
# What the application shows

The view is computed from the session, the path and the mounted page alone.  A page's content is in
it only while the gates of its route allow it.
-/

namespace CarCatalog

namespace App

/-- A link of the menu; the one to the current path is marked. -/
def link (path : String) (part : Section) : Node Msg :=
  .element "a"
    (("href", .text part.path) ::
      if Route.bare path = part.path then [("aria-current", .text "page")] else [])
    .none [.text part.label]

/-- The frame around every section: the user, the way out, the menu. -/
def shell (s : Session) (menu : List Section) (path : String) (content : List (Node Msg)) :
    Node Msg :=
  .el "div" "shell" [
    .el "header" "shell__header" (
      [.el "span" "shell__title" [.text "Car Catalog"],
        .el "span" "shell__user"
          [.text ((s.identity.map fun who => s!"User #{who.id.toInt}").getD "")]] ++
      (s.identity.bind Identity.badge).toList.map
        (fun role => .el "span" "role-badge" [.text role]) ++
      [.button "btn btn--secondary" "Log out" .logout]),
    .el "div" "shell__body" [
      .el "nav" "shell__menu" (menu.map (link path)),
      .el "main" "shell__content" content]]

/-- The frame while the session may see it. -/
def layout (s : Session) (path : String) (content : List (Node Msg)) : Node Msg :=
  match s.layoutGate with
  | .render menu => shell s menu path content
  | _ => View.waiting

/-- The content of a page as the user of a session sees it. -/
def content (s : Session) : Screen → List (Node Msg)
  | .blank => []
  | .login f => [f.view.map .login]
  | .users p => [(p.view (s.identity.map Identity.id)).map .users]
  | .editor p => [(p.view fun author => s.identity.any (·.canModify author)).map .editor]
  | .browser p => [(p.view (s.sectionGate .myCars).isAllowed).map .browser]
  | .myCars p => [p.view.map .myCars]

/-- The sign-in page while its gate allows it. -/
def loginPage (s : Session) (screen : Screen) : List (Node Msg) :=
  if s.loginGate.isAllowed then content s screen else [View.waiting]

def homePage (s : Session) : List (Node Msg) := [View.spinner s.indexGate.message]

/-- A section's page while its gate allows it. -/
def sectionPage (s : Session) (part : Section) (screen : Screen) : List (Node Msg) :=
  let gate := s.sectionGate part
  if gate.isAllowed then content s screen else [View.spinner gate.message]

/-- All that is shown. -/
def view (a : App) : List (Node Msg) :=
  let s := a.account.session
  match Route.ofPath a.path with
  | .login => loginPage s a.screen
  | .home => [layout s a.path (homePage s)]
  | .part p => [layout s a.path (sectionPage s p a.screen)]
  | .unknown => [.text "Page not found."]

end App

end CarCatalog

import CarCatalog.App.Task
import CarCatalog.Form
import CarCatalog.Screen.Part
import CarCatalog.View.Parts

/-!
# The users page

A paged table of users, a form for a new one, a form to edit the chosen one, a panel with the roles
of the chosen one, and an overview of all roles.
-/

namespace CarCatalog

/-! ## The form to edit a user -/

structure UserForm where
  user : User
  username : String
  password : String
  notice : String
  deriving DecidableEq, Repr

namespace UserForm

def ofUser (user : User) : UserForm := ⟨user, user.username, "", ""⟩

inductive Msg
  | username (value : String)
  | password (value : String)
  | submit
  | cancel
  deriving DecidableEq, Repr

/-- The form after a submit, and what to change if it was accepted. -/
def submit (f : UserForm) : UserForm × Option UserUpdate :=
  match Form.userUpdate f.username f.password with
  | .error e => ({ f with notice := e.message }, none)
  | .ok update =>
    if update.isEmpty then ({ f with notice := "Nothing to change." }, none)
    else ({ f with notice := "" }, some update)

def view (f : UserForm) : Node Msg :=
  .form "create-form" .submit (
    [.plain "h2" [.text ("Edit " ++ f.user.username)],
      .field "form-input" [] "Username" f.username .username,
      .field "form-input" [("type", .text "password")] "New password (leave blank to keep)"
        f.password .password,
      .submitButton "btn btn--primary" "Save",
      .sideButton "btn btn--secondary" "Cancel" .cancel] ++
    Node.notice "form-error" f.notice)

end UserForm

/-! ## The panel of a user's roles -/

structure RolesPanel where
  user : User
  held : Loadable (List RoleRecord)
  all : Loadable (List RoleRecord)
  choice : String
  notice : String
  deriving DecidableEq, Repr

namespace RolesPanel

def ofUser (user : User) : RolesPanel := ⟨user, .loading, .loading, "", ""⟩

inductive Msg
  | close
  | choose (role : String)
  | assign
  | remove (role : String)
  | retry
  deriving DecidableEq, Repr

def reload (p : RolesPanel) : RolesPanel := { p with held := .loading, all := .loading }

/-- The panel after a request to assign the chosen role, and the role if one is chosen. -/
def assign (p : RolesPanel) : RolesPanel × Option String :=
  if p.choice.isEmpty then ({ p with notice := "Pick a role first." }, none)
  else ({ p with notice := "" }, some p.choice)

def heldRole (r : RoleRecord) : Node Msg :=
  .plain "li" [
    .el "span" "role-badge" [.text r.name],
    .button "btn btn--danger" "Remove" (.remove r.name)]

def option (name : String) : Node Msg :=
  .element "option" [("value", .text name)] .none [.text name]

/-- The roles that can still be assigned, once all roles are known. -/
def options (p : RolesPanel) (held : List RoleRecord) : List String :=
  match p.all with
  | .ready all => (assignable all held).map (·.name)
  | _ => []

def roles (p : RolesPanel) (held : List RoleRecord) : List (Node Msg) := [
  .el "ul" "role-list" (held.map heldRole),
  .el "div" "role-assign" [
    .element "select" [("class", .text "form-input"), ("value", .property p.choice)]
      ⟨none, none, some .choose⟩
      (.element "option" [("value", .text "")] .none [.text "Select a role"] ::
        (p.options held).map option),
    .button "btn btn--primary" "Assign" .assign]]

def view (p : RolesPanel) : Node Msg :=
  .el "aside" "side-panel" (
    [.el "header" "side-panel__header" [
      .plain "h2" [.text ("Roles of " ++ p.user.username)],
      .button "btn btn--secondary" "Close" .close]] ++
    Node.notice "form-error" p.notice ++ View.loaded p.held .retry p.roles)

end RolesPanel

/-! ## The page -/

structure UsersPage where
  pager : Pager
  users : Loadable (Page User)
  notice : String
  username : String
  password : String
  form : Part User UserForm
  panel : Part User RolesPanel
  overview : Loadable (List RoleRecord)
  deriving DecidableEq, Repr

namespace UsersPage

def blank : UsersPage where
  pager := .sorted tablePageSize "username"
  users := .loading
  notice := ""
  username := ""
  password := ""
  form := .empty
  panel := .empty
  overview := .loading

inductive Msg
  | username (value : String)
  | password (value : String)
  | create
  | roles (user : User)
  | edit (user : User)
  | delete (user : Int64)
  | previous
  | next
  | retry
  | form (msg : UserForm.Msg)
  | panel (msg : RolesPanel.Msg)
  | retryOverview
  deriving DecidableEq, Repr

variable (number : Nat)

/-- Asks for the current page of users again. -/
def reload (p : UsersPage) : UsersPage × List Task :=
  ({ p with users := .loading }, [.users number p.pager.query])

def reloadOverview (p : UsersPage) : UsersPage × List Task :=
  ({ p with overview := .loading }, [.overview number])

/-- The tasks of a panel that loads the roles held and all roles. -/
def panelTasks (panel : Nat) (user : Int64) : List Task :=
  [.heldRoles number panel user, .allRoles number panel]

def turn (p : UsersPage) (step : Bool × Pager) : UsersPage × List Task :=
  let p := { p with pager := step.2 }
  if step.1 then p.reload number else (p, [])

def updateForm (p : UsersPage) (f : UserForm) : UserForm.Msg → UsersPage × List Task
  | .username value => ({ p with form := p.form.modify ({ · with username := value }) }, [])
  | .password value => ({ p with form := p.form.modify ({ · with password := value }) }, [])
  | .submit =>
    let (f, update) := f.submit
    ({ p with form := p.form.modify fun _ => f },
      update.toList.map fun u => .act number (.updateUser p.form.number f.user.id u))
  | .cancel => ({ p with form := p.form.choose none }, [])

def updatePanel (p : UsersPage) (r : RolesPanel) : RolesPanel.Msg → UsersPage × List Task
  | .close => ({ p with panel := p.panel.choose none }, [])
  | .choose role => ({ p with panel := p.panel.modify ({ · with choice := role }) }, [])
  | .assign =>
    let (r, role) := r.assign
    ({ p with panel := p.panel.modify fun _ => r },
      role.toList.map fun name => .act number (.assignRole p.panel.number r.user.id name))
  | .remove role =>
    ({ p with panel := p.panel.modify ({ · with notice := "" }) },
      [.act number (.removeRole p.panel.number r.user.id role)])
  | .retry =>
    ({ p with panel := p.panel.modify RolesPanel.reload },
      panelTasks number p.panel.number r.user.id)

def update (p : UsersPage) : Msg → UsersPage × List Task
  | .username value => ({ p with username := value }, [])
  | .password value => ({ p with password := value }, [])
  | .create =>
    match Form.newUser p.username p.password with
    | .error e => ({ p with notice := e.message }, [])
    | .ok payload => ({ p with notice := "" }, [.act number (.createUser payload)])
  | .roles user => ({ p with panel := p.panel.choose (some user) }, [])
  | .edit user => ({ p with form := p.form.choose (some user) }, [])
  | .delete user =>
    ({ p with notice := "" }, [.act number (.deleteUser user (p.users.items.length - 1))])
  | .previous => p.turn number p.pager.previous
  | .next => p.turn number p.pager.next
  | .retry => p.reload number
  | .form msg =>
    match p.form.built with
    | some f => p.updateForm number f msg
    | none => (p, [])
  | .panel msg =>
    match p.panel.built with
    | some r => p.updatePanel number r msg
    | none => (p, [])
  | .retryOverview => p.reloadOverview number

/-- Builds the parts whose choice was set; a new panel loads its roles. -/
def rebuild (p : UsersPage) : UsersPage × List Task :=
  let panel := p.panel.rebuild RolesPanel.ofUser
  ({ p with form := p.form.rebuild UserForm.ofUser, panel },
    match p.panel.stale, panel.choice with
    | true, some user => panelTasks number panel.number user.id
    | _, _ => [])

/-! ### Successes -/

def created (p : UsersPage) : UsersPage × List Task :=
  { p with username := "", password := "" }.reload number

/-- A part of the deleted user is closed. -/
def closeIf {π : Type} (user : Int64) (part : Part User π) : Part User π :=
  if part.choice.any (·.id == user) then part.choose none else part

def deleted (p : UsersPage) (user : Int64) (remaining : Nat) : UsersPage × List Task :=
  { p with
    panel := closeIf user p.panel
    form := closeIf user p.form
    pager := p.pager.settle remaining }.reload number

def updated (p : UsersPage) : UsersPage × List Task :=
  { p with form := p.form.choose none }.reload number

/-! ### View -/

def userRow (self : Option Int64) (u : User) : Node Msg :=
  .plain "tr" [
    .plain "td" [.text (toString u.id.toInt)],
    .plain "td" [.text u.username],
    .plain "td" [.text (if u.isActive then "yes" else "no")],
    .el "td" "row-table__actions" (
      [.button "btn btn--secondary" "Roles" (.roles u),
        .button "btn btn--secondary" "Edit" (.edit u)] ++
      Node.shownIf (self != some u.id) (.button "btn btn--danger" "Delete" (.delete u.id)))]

def heading : Node Msg :=
  .plain "thead" [.plain "tr" [
    .plain "th" [.text "ID"], .plain "th" [.text "Username"], .plain "th" [.text "Active"],
    .plain "th" []]]

def table (self : Option Int64) (users : Page User) : List (Node Msg) :=
  [.el "table" "row-table" [heading, .plain "tbody" (users.data.map (userRow self))]]

def createForm (p : UsersPage) : Node Msg :=
  .form "create-form" .create [
    .plain "h2" [.text "New user"],
    .field "form-input" [] "Username" p.username .username,
    .field "form-input" [("type", .text "password")] "Password" p.password .password,
    .submitButton "btn btn--primary" "Create"]

def roleEntry (r : RoleRecord) : List (Node Msg) :=
  [.plain "dt" [.text r.name], .plain "dd" [.text r.permissionSummary]]

def rolesOverview (p : UsersPage) : Node Msg :=
  .el "section" "roles-overview" (
    .plain "h2" [.text "Roles"] ::
    View.loaded p.overview .retryOverview fun roles =>
      [.el "dl" "roles-overview__list" (roles.flatMap roleEntry)])

/-- The page as the user of an id sees it. -/
def view (self : Option Int64) (p : UsersPage) : Node Msg :=
  .el "section" "page page--admin" (
    [.el "header" "page__header" [.plain "h1" [.text "Users"]]] ++
    Node.notice "form-error" p.notice ++
    View.loaded p.users .retry (table self) ++
    View.pagerBar p.pager .previous .next ++
    [createForm p] ++
    p.form.built.toList.map (fun f => f.view.map .form) ++
    p.panel.built.toList.map (fun r => r.view.map .panel) ++
    [rolesOverview p])

end UsersPage

end CarCatalog

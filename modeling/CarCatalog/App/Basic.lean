import CarCatalog.App.Route
import CarCatalog.Screen.Browser
import CarCatalog.Screen.Editor
import CarCatalog.Screen.Login
import CarCatalog.Screen.MyCars
import CarCatalog.Screen.Users

/-!
# The application

`App` is the whole running application: the account, the path, the page mounted there, the tasks
that are to be sent and those that wait for their answers.  It changes by events, each a small step
of its own: a handler that fires, a visit to a path, a task that is sent, an answer that arrives,
and a refresh, which follows the gates and builds what has to be built anew.

An answer may come when its page is gone.  What it would write there is dropped; what it would read
there is gone too, and the application has crashed.
-/

namespace CarCatalog

/-- The page that is mounted, with the number it was mounted under kept beside it. -/
inductive Screen
  | blank
  | login (form : LoginForm)
  | users (page : UsersPage)
  | editor (page : EditorPage)
  | browser (page : BrowserPage)
  | myCars (page : MyCarsPage)

/-- Which page is mounted. -/
inductive ScreenKind
  | blank
  | login
  | users
  | editor
  | browser
  | myCars
  deriving DecidableEq, Repr

def Screen.kind : Screen → ScreenKind
  | .blank => .blank
  | .login _ => .login
  | .users _ => .users
  | .editor _ => .editor
  | .browser _ => .browser
  | .myCars _ => .myCars

/-- A new page under a number, and what it loads. -/
def ScreenKind.build (number : Nat) : ScreenKind → Screen × List Task
  | .blank => (.blank, [])
  | .login => (.login .blank, [])
  | .users =>
    let (p, tasks) := UsersPage.blank.reload number
    let (p, more) := p.reloadOverview number
    (.users p, tasks ++ more)
  | .editor =>
    let (p, tasks) := EditorPage.blank.reload number
    (.editor p, tasks)
  | .browser =>
    let (p, tasks) := BrowserPage.blank.reload number
    (.browser p, tasks)
  | .myCars =>
    let (p, tasks) := MyCarsPage.blank.reload number
    (.myCars p, tasks)

def Section.screen : Section → ScreenKind
  | .users => .users
  | .carSpecs => .editor
  | .catalog => .browser
  | .myCars => .myCars

/-- The page that a path has in a session: a section's only while its gates allow it. -/
def Route.screen (r : Route) (s : Session) : ScreenKind :=
  match r with
  | .login => .login
  | .part p => if (r.gates s).all ViewGate.isAllowed then p.screen else .blank
  | _ => .blank

/-- What the handlers of a view mean. -/
inductive Msg
  | login (msg : LoginForm.Msg)
  | users (msg : UsersPage.Msg)
  | editor (msg : EditorPage.Msg)
  | browser (msg : BrowserPage.Msg)
  | myCars (msg : MyCarsPage.Msg)
  | logout
  deriving DecidableEq, Repr

/-- The application between two events. -/
structure App where
  account : Account
  path : String
  screen : Screen
  /-- The number under which the screen is mounted; every mount takes the next one. -/
  number : Nat
  /-- The tasks to be sent, first come first. -/
  queue : List Task
  /-- The tasks that were sent and are not answered yet, in the order of their requests. -/
  waiting : List Task
  crashed : Bool

namespace App

/-- The application at a path, before its session is opened. -/
def start (account : Account) (path : String) : App where
  account := account
  path := Route.withoutQuery path
  screen := (((Route.ofPath (Route.withoutQuery path)).screen account.session).build 0).1
  number := 0
  queue := []
  waiting := []
  crashed := false

/-- Puts a page in the place of the one that is mounted, and queues its tasks. -/
def put {π : Type} (a : App) (screen : π → Screen) (step : π × List Task) : App :=
  { a with screen := screen step.1, queue := a.queue ++ step.2 }

/-! ## Handlers -/

/-- A handler fires; one of a page that is not mounted does nothing. -/
def press (a : App) (msg : Msg) : App :=
  match msg, a.screen with
  | .logout, _ => { a with account := a.account.logout }
  | .login m, .login f =>
    let (f, credentials) := f.update m
    a.put .login (f, credentials.toList.map (.signIn a.number))
  | .users m, .users p => a.put .users (p.update a.number m)
  | .editor m, .editor p => a.put .editor (p.update a.number m)
  | .browser m, .browser p => a.put .browser (p.update a.number m)
  | .myCars m, .myCars p => a.put .myCars (p.update a.number m)
  | _, _ => a

/-! ## Navigation and rebuilding -/

/-- Mounts a new page of a kind. -/
def mount (a : App) (kind : ScreenKind) : App :=
  let number := a.number + 1
  { a with number }.put id (kind.build number)

/-- Visiting the path one is at does nothing; any other is built anew. -/
def visit (a : App) (path : String) : App :=
  if path = a.path then a
  else { a with path }.mount ((Route.ofPath path).screen a.account.session)

/-- Builds the parts of the mounted page that are stale. -/
def rebuild (a : App) : App :=
  match a.screen with
  | .users p => a.put .users (p.rebuild a.number)
  | .editor p => a.put .editor (p.rebuild a.number)
  | _ => a

/-- Follows the gates, mounts what they now show, and builds what is stale. -/
def refresh (a : App) : App :=
  let path := Route.follow a.account.session 3 a.path
  if path ≠ a.path then a.visit path
  else
    let kind := (Route.ofPath path).screen a.account.session
    if kind = a.screen.kind then a.rebuild else a.mount kind

/-! ## Answers -/

/-- The page of a number, if it is still mounted. -/
def screenAt (a : App) (number : Nat) : Screen := if a.number = number then a.screen else .blank

def crash (a : App) : App := { a with crashed := true }

/-- An answer to a load of a page of a list. -/
def receivePage {α : Type} (a : App) (pager : Pager) (outcome : Except Api.Failure (Page α))
    (place : Pager → Loadable (Page α) → Screen) : App :=
  let (account, pager, value) := a.account.receivePage pager outcome
  { a with account, screen := place pager value }

def receiveValue {α : Type} (a : App) (outcome : Except Api.Failure α)
    (place : Loadable α → Screen) : App :=
  let (account, value) := a.account.receiveValue outcome
  { a with account, screen := place value }

/-- An answer to a load whose page is gone: only the account takes notice. -/
def receiveNothing {α : Type} (a : App) (outcome : Except Api.Failure α) : App :=
  { a with account := (a.account.receiveValue outcome).1 }

/-- A form's place for a loaded spec. -/
def specPlace (p : EditorPage) (form : Nat) (value : Loadable CarSpec) : EditorPage :=
  p.modifyForm form fun f =>
    { f with arrived := match value with
      | .loading => none
      | .failed message => some (.error message)
      | .ready spec => some (.ok spec) }

/-- What follows a successful action. -/
def succeed (a : App) (page : Nat) (action : Action) : App :=
  match action, a.screenAt page with
  | .createUser _, .users p => a.put .users (p.created page)
  | .deleteUser user remaining, .users p => a.put .users (p.deleted page user remaining)
  | .updateUser form _ _, .users p =>
    if p.form.has form then a.put .users (p.updated page) else a.crash
  | .assignRole panel user _, .users p =>
    let reset (r : RolesPanel) : RolesPanel := { r with choice := "" }.reload
    a.put .users ({ p with panel := p.panel.modifyAt panel reset },
      UsersPage.panelTasks page panel user)
  | .assignRole panel user _, _ =>
    { a with queue := a.queue ++ UsersPage.panelTasks page panel user }
  | .removeRole panel user _, .users p =>
    a.put .users ({ p with panel := p.panel.modifyAt panel RolesPanel.reload },
      UsersPage.panelTasks page panel user)
  | .removeRole panel user _, _ =>
    { a with queue := a.queue ++ UsersPage.panelTasks page panel user }
  | .saveRecord form _, .editor p => a.put .editor (p.saved page form)
  | .deleteRow _ id remaining, .editor p => a.put .editor (p.deleted page id remaining)
  | .addMyCar _, .browser p => { a with screen := .browser p.added }
  | .addMyCar _, _ => a
  | .removeMyCar _ remaining, .myCars p => a.put .myCars (p.removed page remaining)
  | _, _ => a.crash

/-- Where a refused action says why, if that place is still there. -/
def complain (a : App) (page : Nat) (action : Action) (message : String) : App :=
  match action, a.screenAt page with
  | .createUser _, .users p => { a with screen := .users { p with notice := message } }
  | .deleteUser _ _, .users p => { a with screen := .users { p with notice := message } }
  | .updateUser form _ _, .users p =>
    { a with screen := .users { p with
      form := p.form.modifyAt form fun f => { f with notice := message } } }
  | .assignRole panel _ _, .users p =>
    { a with screen := .users { p with
      panel := p.panel.modifyAt panel fun r => { r with notice := message } } }
  | .removeRole panel _ _, .users p =>
    { a with screen := .users { p with
      panel := p.panel.modifyAt panel fun r => { r with notice := message } } }
  | .saveRecord form _, .editor p =>
    { a with screen := .editor (p.modifyForm form fun f => { f with notice := message }) }
  | .deleteRow _ _ _, .editor p => { a with screen := .editor { p with notice := message } }
  | .addMyCar _, .browser p => { a with screen := .browser { p with notice := message } }
  | .removeMyCar _ _, .myCars p => { a with screen := .myCars { p with notice := message } }
  | _, _ => a

/-- The arrival of an answer. -/
def receive (a : App) (t : Task) (reply : Api.Reply) : App :=
  match t with
  | .signIn page credentials =>
    let (result, account) := a.account.signIn ((Api.signIn credentials).outcome reply)
    let a := { a with account }
    match a.screenAt page with
    | .login f => { a with screen := .login (f.answered result) }
    | _ => a
  | .users page query =>
    let outcome := (Api.listUsers query).outcome reply
    match a.screenAt page with
    | .users p => a.receivePage p.pager outcome fun pager users => .users { p with pager, users }
    | _ => a.receiveNothing outcome
  | .overview page =>
    let outcome := Api.listRoles.outcome reply
    match a.screenAt page with
    | .users p => a.receiveValue outcome fun overview => .users { p with overview }
    | _ => a.receiveNothing outcome
  | .rows page level query =>
    let outcome := (Api.loadRows level query).outcome reply
    match a.screenAt page with
    | .editor p => a.receivePage p.pager outcome fun pager rows => .editor { p with pager, rows }
    | .browser p => a.receivePage p.pager outcome fun pager rows => .browser { p with pager, rows }
    | _ => a.receiveNothing outcome
  | .cars page query =>
    let outcome := (Api.listMyCars query).outcome reply
    match a.screenAt page with
    | .myCars p => a.receivePage p.pager outcome fun pager cars => .myCars { p with pager, cars }
    | _ => a.receiveNothing outcome
  | .heldRoles page panel user =>
    let outcome := (Api.listUserRoles user).outcome reply
    match a.screenAt page with
    | .users p => a.receiveValue outcome fun held =>
        .users { p with panel := p.panel.modifyAt panel fun r => { r with held } }
    | _ => a.receiveNothing outcome
  | .allRoles page panel =>
    let outcome := Api.listRoles.outcome reply
    match a.screenAt page with
    | .users p => a.receiveValue outcome fun all =>
        .users { p with panel := p.panel.modifyAt panel fun r => { r with all } }
    | _ => a.receiveNothing outcome
  | .spec page form id =>
    let outcome := (Api.getSpec id).outcome reply
    match a.screenAt page with
    | .editor p => a.receiveValue outcome fun value => .editor (specPlace p form value)
    | _ => a.receiveNothing outcome
  | .act page action =>
    let (account, refusal) := a.account.receiveDone (action.call.outcome reply)
    let a := { a with account }
    match refusal with
    | none => a.succeed page action
    | some message => a.complain page action message

/-! ## Events -/

/-- Sends the first task of the queue; it then waits for its answer. -/
def send? (a : App) : Option (Api.Request × App) :=
  match a.queue with
  | [] => none
  | t :: queue =>
    some (t.request a.account.credential, { a with queue, waiting := a.waiting ++ [t] })

/-- What happens to the application; `world` is a change of storage or clock behind its back. -/
inductive Event
  | bootstrap
  | press (msg : Msg)
  | visit (path : String)
  | send
  | answer (i : Nat) (reply : Api.Reply)
  | refresh
  | world (storage : Storage) (now : Binary64)

def step (a : App) : Event → App
  | .bootstrap => { a with account := a.account.bootstrap }
  | .press msg => a.press msg
  | .visit path => a.visit (Route.resolve path)
  | .send =>
    match a.send? with
    | some (_, a) => a
    | none => a
  | .answer i reply =>
    match a.waiting[i]? with
    | some t => { a with waiting := a.waiting.eraseIdx i }.receive t reply
    | none => a
  | .refresh => a.refresh
  | .world storage now => { a with account := { a.account with storage, now } }

def run (a : App) (events : List Event) : App := events.foldl step a

end App

end CarCatalog

import CarCatalog.Account
import CarCatalog.Gate
import CarCatalog.Session.Tabs

/-!
# Watched gates

Redirects can be installed on the gates of a session.  A watcher looks at its gate when it is
installed and after every step that may have changed its session, whether or not it did, and
navigates whenever the gate redirects.  Sessions that were replaced keep their watchers; a disposed
owner loses all.
-/

namespace CarCatalog

inductive GateName
  | layout
  | index
  | login
  | part (part : Section)
  deriving DecidableEq, Repr

def GateName.view (g : GateName) (s : Session) : ViewGate :=
  match g with
  | .layout => s.layoutGate.asView
  | .index => s.indexGate
  | .login => s.loginGate
  | .part p => s.sectionGate p

structure Watcher where
  tab : Nat
  gate : GateName
  deriving DecidableEq, Repr

/-- A redirect that a watcher made. -/
structure Navigation where
  gate : GateName
  path : String
  deriving DecidableEq, Repr

structure Watched where
  storage : Storage
  now : Binary64
  tabs : List Tab
  current : Option Nat
  provided : Option Nat
  watchers : List Watcher
  deriving DecidableEq, Repr

namespace Watched

def start (policy : MalformedPolicy) (storage : Storage) (now : Binary64) : Watched :=
  ⟨storage, now, [.fresh policy], some 0, none, []⟩

def session? (w : Watched) (tab : Nat) : Option Session := w.tabs[tab]?.map Tab.session

/-- The account in use, unless it is disposed. -/
def account? (w : Watched) : Option Account := do
  let tab ← w.tabs[← w.current]?
  return ⟨tab.policy, tab.session, w.storage, w.now⟩

/-- Puts a changed account back. -/
def put (w : Watched) (a : Account) : Watched :=
  match w.current with
  | some i =>
    { w with
      storage := a.storage
      tabs := w.tabs.modify i fun t => { t with session := a.session } }
  | none => w

/-- Begins to use a new session. -/
def renew (w : Watched) (policy : MalformedPolicy) : Watched :=
  { w with tabs := w.tabs ++ [.fresh policy], current := some w.tabs.length }

def navigate (w : Watched) (x : Watcher) : Option Navigation := do
  let s ← w.session? x.tab
  return ⟨x.gate, ← (x.gate.view s).target?⟩

/-- The redirects made when the session in use was touched. -/
def notify (w : Watched) : List Navigation :=
  (w.watchers.filter fun x => some x.tab == w.current).filterMap w.navigate

/-! ## Steps -/

inductive Command
  | bootstrap
  | login (credential : String)
  | logout
  | fail (failure : Api.Failure)
  | canModify (createdBy : Int64)
  | watch (gate : GateName)
  | reload (policy : MalformedPolicy)
  | provide
  | use
  | dispose
  | look
  deriving DecidableEq, Repr

/-- What a step says besides the redirects. -/
inductive Outcome
  | nothing
  | signedIn (who : Identity)
  | refused (error : LoginError)
  | said (message : String)
  | allowed (yes : Bool)
  | user (id : Option Int64)
  deriving DecidableEq, Repr

/-- Changes the account in use, if there is one, and lets its watchers look. -/
def touch (w : Watched) (f : Account → Account) : Watched × List Navigation :=
  match w.account? with
  | some a =>
    let w := w.put (f a)
    (w, w.notify)
  | none => (w, [])

def step (w : Watched) : Command → Watched × Outcome × List Navigation
  | .bootstrap =>
    let (w, moves) := w.touch Account.bootstrap
    (w, .nothing, moves)
  | .login credential =>
    match w.account? with
    | none => (w, .refused .disposed, [])
    | some a =>
      let (result, a) := a.login credential
      let w := w.put a
      match result with
      | .ok who => (w, .signedIn who, w.notify)
      | .error fault => (w, .refused (.rejected fault), w.notify)
  | .logout =>
    let (w, moves) := w.touch Account.logout
    (w, .nothing, moves)
  | .fail failure =>
    if failure.isUnauthorized then
      let (w, moves) := w.touch Account.logout
      (w, .said Account.expiredMessage, moves)
    else (w, .said failure.message, [])
  | .canModify createdBy =>
    (w, .allowed (w.account?.any (·.canModify createdBy)), [])
  | .watch gate =>
    match w.current with
    | none => (w, .nothing, [])
    | some i =>
      let x : Watcher := ⟨i, gate⟩
      let w := { w with watchers := w.watchers ++ [x] }
      (w, .nothing, (w.navigate x).toList)
  | .reload policy => (w.renew policy, .nothing, [])
  | .provide =>
    let w := w.renew .retain
    let (w, moves) := { w with provided := w.current }.touch Account.bootstrap
    (w, .nothing, moves)
  | .use =>
    let who := (w.provided.bind w.session?).bind Session.identity
    (w, .user (who.map Identity.id), [])
  | .dispose => ({ w with current := none, provided := none, watchers := [] }, .nothing, [])
  | .look => (w, .nothing, [])

end Watched

end CarCatalog

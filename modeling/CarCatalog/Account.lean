import CarCatalog.Api.Call
import CarCatalog.Paging.Loadable
import CarCatalog.Slot.Browser

/-!
# The user's account in the browser

An `Account` keeps a session over the browser's local storage and clock.  Requests carry the stored
credential, read anew for each of them.  A reply of status 401 signs out.
-/

namespace CarCatalog

structure Account where
  policy : MalformedPolicy
  session : Session
  storage : Storage
  now : Binary64
  deriving DecidableEq, Repr

/-- Why a login does not take place. -/
inductive LoginError
  | rejected (fault : Fault)
  | disposed
  deriving DecidableEq, Repr

namespace LoginError

def message : LoginError → String
  | .rejected fault => "credential rejected: " ++ fault.message
  | .disposed => "session context disposed"

/-- What the sign-in form says of it. -/
def formMessage : LoginError → String
  | .rejected _ => "The server issued an unreadable credential."
  | .disposed => message .disposed

end LoginError

namespace Account

def fresh (policy : MalformedPolicy) (storage : Storage) (now : Binary64) : Account :=
  ⟨policy, .bootstrapping, storage, now⟩

/-- Takes over a session step and lets its write reach the storage. -/
def commit (a : Account) (step : Session × Write) : Account :=
  { a with session := step.1, storage := a.storage.write tokenKey step.2 }

def bootstrap (a : Account) : Account :=
  a.commit (a.session.bootstrap a.policy a.now.clampInt64 (a.storage.read tokenKey))

def login (a : Account) (credential : String) : Except Fault Identity × Account :=
  let (result, step) := a.session.login credential
  (result, a.commit step)

def logout (a : Account) : Account := a.commit a.session.logout

def canModify (a : Account) (createdBy : Int64) : Bool :=
  a.session.identity.any (·.canModify createdBy)

/-- The credential that requests carry. -/
def credential (a : Account) : Option String := a.storage.read tokenKey

/-! ## Replies -/

def expiredMessage : String := "Session expired. Please sign in again."

/-- What a failure says to the user, and what it makes of the account. -/
def refuse (a : Account) (f : Api.Failure) : String × Account :=
  if f.isUnauthorized then (expiredMessage, a.logout) else (f.message, a)

/-- The outcome of loading a page: the pager follows what the server says of the list. -/
def receivePage {α : Type} (a : Account) (pager : Pager) :
    Except Api.Failure (Page α) → Account × Pager × Loadable (Page α)
  | .ok page => (a, pager.observe page.info, .ready page)
  | .error f =>
    let (message, a) := a.refuse f
    (a, pager, .failed message)

def receiveValue {α : Type} (a : Account) : Except Api.Failure α → Account × Loadable α
  | .ok value => (a, .ready value)
  | .error f =>
    let (message, a) := a.refuse f
    (a, .failed message)

/-- The outcome of an action: nothing on success, else what to say. -/
def receiveDone (a : Account) : Except Api.Failure Unit → Account × Option String
  | .ok _ => (a, none)
  | .error f =>
    let (message, a) := a.refuse f
    (a, some message)

end Account

end CarCatalog

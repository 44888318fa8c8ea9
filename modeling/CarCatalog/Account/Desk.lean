import CarCatalog.Account
import CarCatalog.Api.Browse
import CarCatalog.Api.Network
import CarCatalog.Catalog.Trail

/-!
# An account at work

A `Desk` holds an account with the lists it loads, and takes one command at a time: a load shows its
outcome in its own place, an action that fails says why in the notice.
-/

namespace CarCatalog

structure Desk where
  account : Account
  network : Api.Network
  trail : Trail
  pager : Pager
  rows : Loadable (Page Row)
  cars : Loadable (Page CarSpec)
  roles : Loadable (List RoleRecord)
  permissions : Loadable (List Permission)
  spec : Loadable CarSpec
  notice : String

namespace Desk

def start (account : Account) (network : Api.Network) (pager : Pager) : Desk where
  account := account
  network := network
  trail := .root
  pager := pager
  rows := .loading
  cars := .loading
  roles := .loading
  permissions := .loading
  spec := .loading
  notice := ""

inductive Command
  | descend (id : Int64)
  | ascend
  | newPager (pager : Pager)
  | next
  | previous
  | settle (remaining : Nat)
  | loadRows
  | loadCars
  | loadRoles
  | loadUserRoles (user : Int64)
  | loadPermissions (role : Int64)
  | loadSpec (spec : Int64)
  | deleteRow (id : Int64)
  | deleteUser (user : Int64)
  | removeMyCar (spec : Int64)
  | addMyCar (spec : Int64)
  | saveName (id : Option Int64) (payload : NewName)
  | saveGeneration (submodel : Int64) (id : Option Int64) (payload : NewGeneration)
  | saveSpec (generation : Int64) (id : Option Int64) (payload : NewSpec)
  | look

/-- What a command shows besides the desk it leaves. -/
structure Outcome where
  moved : Option Bool
  requests : List Api.Request
  succeeded : Bool

def Outcome.quiet : Outcome := ⟨none, [], false⟩

def send {α : Type} (d : Desk) (c : Api.Call α) :
    Desk × Api.Request × Except Api.Failure α :=
  let (request, outcome, network) := d.network.run d.account c
  ({ d with network }, request, outcome)

/-- Loads a page into one of the lists that share the pager. -/
def loadPage {α : Type} (d : Desk) (call : PageQuery → Api.Call (Page α))
    (place : Loadable (Page α) → Desk → Desk) : Desk × Outcome :=
  let (d, request, outcome) := d.send (call d.pager.query)
  let (account, pager, value) := d.account.receivePage d.pager outcome
  (place value { d with account, pager }, { Outcome.quiet with requests := [request] })

def loadValue {α : Type} (d : Desk) (call : Api.Call α) (place : Loadable α → Desk → Desk) :
    Desk × Outcome :=
  let (d, request, outcome) := d.send call
  let (account, value) := d.account.receiveValue outcome
  (place value { d with account }, { Outcome.quiet with requests := [request] })

def act (d : Desk) (call : Api.Call Unit) : Desk × Outcome :=
  let (d, request, outcome) := d.send call
  let (account, refusal) := d.account.receiveDone outcome
  ({ d with account, notice := refusal.getD "" }, ⟨none, [request], refusal.isNone⟩)

def step (d : Desk) : Command → Desk × Outcome
  | .descend id => ({ d with trail := d.trail.descend id }, .quiet)
  | .ascend => ({ d with trail := d.trail.ascend }, .quiet)
  | .newPager pager => ({ d with pager }, .quiet)
  | .next =>
    let (moved, pager) := d.pager.next
    ({ d with pager }, { Outcome.quiet with moved := some moved })
  | .previous =>
    let (moved, pager) := d.pager.previous
    ({ d with pager }, { Outcome.quiet with moved := some moved })
  | .settle remaining => ({ d with pager := d.pager.settle remaining }, .quiet)
  | .loadRows => d.loadPage (Api.loadRows d.trail.level) fun rows d => { d with rows }
  | .loadCars => d.loadPage Api.listMyCars fun cars d => { d with cars }
  | .loadRoles => d.loadValue Api.listRoles fun roles d => { d with roles }
  | .loadUserRoles user => d.loadValue (Api.listUserRoles user) fun roles d => { d with roles }
  | .loadPermissions role =>
    d.loadValue (Api.rolePermissions role) fun permissions d => { d with permissions }
  | .loadSpec spec => d.loadValue (Api.getSpec spec) fun spec d => { d with spec }
  | .deleteRow id => d.act (Api.deleteRow d.trail.level id)
  | .deleteUser user => d.act (Api.deleteUser user)
  | .removeMyCar spec => d.act (Api.removeMyCar spec)
  | .addMyCar spec => d.act (Api.addMyCar spec).void
  | .saveName id payload => d.act (Api.saveName d.trail.level id payload)
  | .saveGeneration submodel id payload => d.act (Api.saveGeneration submodel id payload)
  | .saveSpec generation id payload => d.act (Api.saveSpec generation id payload)
  | .look => (d, .quiet)

end Desk

end CarCatalog

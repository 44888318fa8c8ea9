import CarCatalog.Session.Record
import CarCatalog.Slot.Basic

/-!
# Sessions over a slot

An `Owner` is a session together with the state of the slot it reads and writes.  Nobody else writes
to it, unless the slot itself is one that others change.
-/

namespace CarCatalog

structure Owner (σ : Type) where
  config : SessionConfig
  session : Session
  store : σ

namespace Owner

variable {σ : Type} (slot : Slot σ)

def fresh (config : SessionConfig) (store : σ) : Owner σ := ⟨config, .bootstrapping, store⟩

/-- Takes over a session step and lets its write reach the slot. -/
def commit (o : Owner σ) (step : Session × Write) : Owner σ :=
  { o with session := step.1, store := slot.write step.2 o.store }

/-- The slot is read only while the session loads. -/
def bootstrap (now : Int64) (o : Owner σ) : Owner σ :=
  if o.session.loading then
    let (stored, store) := slot.load o.store
    { o with store }.commit slot (o.session.bootstrap o.config.malformed now stored)
  else o

def login (credential : String) (o : Owner σ) : Except Fault Identity × Owner σ :=
  let (result, step) := o.session.login credential
  (result, o.commit slot step)

def logout (o : Owner σ) : Owner σ := o.commit slot o.session.logout

inductive Step
  | bootstrap (now : Int64)
  | login (credential : String)
  | logout
  deriving DecidableEq, Repr

def step (o : Owner σ) : Step → Owner σ
  | .bootstrap now => o.bootstrap slot now
  | .login credential => (o.login slot credential).2
  | .logout => o.logout slot

def run (o : Owner σ) (steps : List Step) : Owner σ := steps.foldl (step slot) o

end Owner

end CarCatalog

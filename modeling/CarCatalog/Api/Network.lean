import CarCatalog.Account

/-!
# A network with known replies

`Network` answers requests from a table of routes; one reply may stand by for the first request that
has no route.  Where neither answers, the request is lost.
-/

namespace CarCatalog.Api

structure Network where
  routes : List (String × Reply)
  standby : Option Reply
  deriving DecidableEq, Repr

namespace Network

def empty : Network := ⟨[], none⟩

/-- The name a request is looked up by: its method and path. -/
def key (r : Request) : String := r.method.name ++ " " ++ r.path

def silence : Reply := .lost "no response"

/-- Routes given later win over those of the same name. -/
def add (n : Network) (routes : List (String × Reply)) : Network :=
  { n with routes := routes.reverse ++ n.routes }

def answer (n : Network) (r : Request) : Reply × Network :=
  match n.routes.find? (·.1 == key r) with
  | some (_, reply) => (reply, n)
  | none =>
    match n.standby with
    | some reply => (reply, { n with standby := none })
    | none => (silence, n)

/-- Sends a call with an account's credential: the request, the outcome, the network after it. -/
def run {α : Type} (n : Network) (a : Account) (c : Call α) :
    Request × Except Failure α × Network :=
  let request := c.request a.credential
  let (reply, n) := n.answer request
  (request, c.outcome reply, n)

end Network

end CarCatalog.Api

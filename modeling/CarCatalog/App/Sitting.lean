import CarCatalog.Api.Network
import CarCatalog.App.View

/-!
# A user at the running application

A `Sitting` is the application on a network, with the requests it has sent so far.  A `Gesture` is
what a user does: an element is sought in what is shown, and its handler fires.  After every gesture
the application settles: it refreshes and sends what is queued, round after round, until nothing is
left to do.  While the network is paused answers wait.
-/

namespace CarCatalog

/-- What a user does at the browser; `nth` counts the elements that fit, in document order. -/
inductive Gesture
  | click (text : String) (nth : Nat)
  | enter (placeholder tag : Option String) (nth : Nat) (value : String)
  | submit (nth : Nat)
  | follow (text : String)
  | visit (path : String)
  deriving DecidableEq, Repr

namespace Gesture

/-- The element that is meant, and what its handler means. -/
def target? {α : Type} (shown : List (Element α)) : Gesture → Option (Element α × α)
  | .click text nth =>
    (shown.filterMap fun e =>
      if e.inner = text then e.on.click.map fun m => (e, m) else none)[nth]?
  | .enter placeholder tag nth value =>
    (shown.filterMap fun e =>
      if placeholder.all (fun p => e.attribute? "placeholder" = some (.text p)) &&
          tag.all (· = e.tag)
      then e.on.input.map fun f => (e, f value) else none)[nth]?
  | .submit nth => (shown.filterMap fun e => e.on.submit.map fun m => (e, m))[nth]?
  | _ => none

/-- The path that a gesture leads to: of the first link of its text, or its own. -/
def path? {α : Type} (shown : List (Element α)) : Gesture → Option String
  | .follow text =>
    (shown.find? fun e => e.tag = "a" && e.inner = text).bind fun e =>
      match e.attribute? "href" with
      | some (.text path) => some path
      | _ => none
  | .visit path => some path
  | _ => none

/-- What a gesture makes happen; nothing if it finds no element, or a disabled one. -/
def event? (shown : List (Element Msg)) (g : Gesture) : Option App.Event :=
  match g.path? shown with
  | some path => some (.visit path)
  | none =>
    match g.target? shown with
    | some (e, msg) => if e.isDisabled then none else some (.press msg)
    | none => none

end Gesture

/-- The application on a network. -/
structure Sitting where
  app : App
  network : Api.Network
  /-- Whether answers wait. -/
  paused : Bool
  /-- The requests that were sent, in their order. -/
  requests : List Api.Request

namespace Sitting

/-- Answers the waiting task of an index. -/
def answer (s : Sitting) (i : Nat) : Sitting :=
  match s.app.waiting[i]? with
  | none => s
  | some t =>
    let (reply, network) := s.network.answer (t.request s.app.account.credential)
    { s with app := s.app.step (.answer i reply), network }

/-- Sends the first task that is queued; unless the network is paused it is answered at once. -/
def send (s : Sitting) : Sitting :=
  match s.app.send? with
  | none => s
  | some (request, app) =>
    let s := { s with app, requests := s.requests ++ [request] }
    if s.paused then s else s.answer (s.app.waiting.length - 1)

def repeatedly (f : Sitting → Sitting) : Nat → Sitting → Sitting
  | 0, s => s
  | n + 1, s => repeatedly f n (f s)

/-- Rounds until nothing is queued, at most so many: a refresh, then every task queued by then. -/
def settleWithin : Nat → Sitting → Sitting
  | 0, s => s
  | n + 1, s =>
    let s := { s with app := s.app.refresh }
    if s.app.queue.isEmpty then s
    else settleWithin n (repeatedly send s.app.queue.length s)

/-- An action loads lists, a list that is refused signs out, and the sign-in page loads nothing: so
few rounds are enough. -/
def settle (s : Sitting) : Sitting := s.settleWithin 8

/-- The application mounted at a path, settled. -/
def start (account : Account) (network : Api.Network) (path : String) : Sitting :=
  settle ⟨(App.start account path).step .bootstrap, network, false, []⟩

/-- A gesture with all that follows, and whether it made anything happen. -/
def perform (s : Sitting) (g : Gesture) : Bool × Sitting :=
  match g.event? (Node.elementsAll s.app.view) with
  | none => (false, s.settle)
  | some event => (true, { s with app := s.app.step event }.settle)

/-- From now on answers wait. -/
def pause (s : Sitting) : Sitting := { s with paused := true }

/-- The storage is emptied behind the application's back. -/
def forget (s : Sitting) : Sitting :=
  let account := s.app.account
  { s with app := s.app.step (.world { account.storage with entries := [] } account.now) }

/-- All answers that wait arrive, in the order of their requests. -/
def release (s : Sitting) : Sitting :=
  (repeatedly (answer · 0) s.app.waiting.length { s with paused := false }).settle

end Sitting

end CarCatalog

import CarCatalog.Slot.Memory

/-!
# Tabs over one slot

Several sessions share one slot in memory; each sees what the others have written there only when it
reads the slot, which `bootstrap` does once.
-/

namespace CarCatalog

structure Tab where
  policy : MalformedPolicy
  session : Session
  deriving DecidableEq, Repr

def Tab.fresh (policy : MalformedPolicy) : Tab := ⟨policy, .bootstrapping⟩

structure Tabs where
  key : String
  entries : Entries
  tabs : List Tab
  deriving DecidableEq, Repr

namespace Tabs

def stored (t : Tabs) : Option String := t.entries.get? t.key

inductive Command
  | add (policy : MalformedPolicy)
  | reload (tab : Nat) (policy : MalformedPolicy)
  | bootstrap (tab : Nat) (now : Int64)
  | login (tab : Nat) (credential : String)
  | logout (tab : Nat)
  | save (credential : String)
  | clear
  deriving DecidableEq, Repr

/-- Replaces a tab's session and lets its write reach the slot. -/
def put (t : Tabs) (i : Nat) (session : Session) (w : Write) : Tabs :=
  { t with
    entries := t.entries.write t.key w
    tabs := t.tabs.modify i fun tab => { tab with session } }

def step (t : Tabs) : Command → Tabs
  | .add policy => { t with tabs := t.tabs ++ [.fresh policy] }
  | .reload i policy => { t with tabs := t.tabs.modify i fun _ => .fresh policy }
  | .bootstrap i now =>
    match t.tabs[i]? with
    | some tab =>
      let (s, w) := tab.session.bootstrap tab.policy now t.stored
      t.put i s w
    | none => t
  | .login i credential =>
    match t.tabs[i]? with
    | some tab =>
      let (_, s, w) := tab.session.login credential
      t.put i s w
    | none => t
  | .logout i =>
    match t.tabs[i]? with
    | some tab =>
      let (s, w) := tab.session.logout
      t.put i s w
    | none => t
  | .save credential => { t with entries := t.entries.write t.key (.save credential) }
  | .clear => { t with entries := t.entries.write t.key .clear }

end Tabs

end CarCatalog

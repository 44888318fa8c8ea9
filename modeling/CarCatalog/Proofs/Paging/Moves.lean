import CarCatalog.Proofs.Paging.Slices
import CarCatalog.Proofs.View.Parts
import Mathlib.Data.List.Induction

/-!
# Where a pager is taken

A pager starts on the first page.  An answer takes it to the page that the answer names; a click, or a
deletion that empties the page, to a page next to it.  It believes the answer: one that names a page behind
the last that it counts takes the pager there, where no bar is shown if the count is one.  Nothing else takes
it behind the last page.

    p.next.2.page = p.page + 1            if there is a next page                        (page_next)
    p.settle 0 = p.previous.2                                                         (settle_eq)
    (p.run moves).info = lastTold moves   if p is fresh                               (info_run)
    p.totalPages < p.page → p.page ≤ the page that the last answer named        (Bounded.run)
-/

namespace CarCatalog

/-- The page that an answer names is one of those that it counts; an empty list has one as well. -/
def PageMeta.Consistent (info : PageMeta) : Prop := info.page ≤ max info.totalPages 1

instance (info : PageMeta) : Decidable info.Consistent := inferInstanceAs (Decidable (_ ≤ _))

namespace Pager

/-- What can happen to a pager. -/
inductive Move
  | observed (info : PageMeta)
  | next
  | previous
  | settled (remaining : Nat)
  deriving DecidableEq, Repr

def move (p : Pager) : Move → Pager
  | .observed info => p.observe info
  | .next => p.next.2
  | .previous => p.previous.2
  | .settled remaining => p.settle remaining

def run (p : Pager) (moves : List Move) : Pager := moves.foldl move p

/-- A pager to which nothing has happened. -/
inductive Fresh : Pager → Prop
  | new (perPage : UInt32) : Fresh (new perPage)
  | sorted (perPage : UInt32) (key : String) : Fresh (sorted perPage key)

def Move.told? : Move → Option PageMeta
  | .observed info => some info
  | _ => none

/-- What the last answer said. -/
def lastTold (moves : List Move) : Option PageMeta := (moves.filterMap Move.told?).getLast?

/-- Behind the last page there is only what the last answer named. -/
def Bounded (p : Pager) : Prop :=
  p.page.toNat ≤ max p.totalPages.toNat (p.info.elim 1 fun info => info.page.toNat)

/-! ## Single moves -/

variable {p : Pager}

theorem run_concat (p : Pager) (moves : List Move) (m : Move) :
    p.run (moves ++ [m]) = (p.run moves).move m := by
  rw [run, List.foldl_append]
  rfl

theorem lt_of_hasNext (h : p.hasNext = true) : p.page.toNat < p.totalPages.toNat :=
  UInt32.lt_iff_toNat_lt.mp (of_decide_eq_true h)

theorem lt_of_hasPrevious (h : p.hasPrevious = true) : 1 < p.page.toNat :=
  UInt32.lt_iff_toNat_lt.mp (of_decide_eq_true h)

/-- The number of the page does not wrap around, since that of all pages is above it. -/
theorem page_next (h : p.hasNext = true) : p.next.2.page.toNat = p.page.toNat + 1 := by
  have below := lt_of_hasNext h
  have small := p.totalPages.toNat_lt
  rw [next, if_pos h]
  show (p.page + 1).toNat = _
  rw [UInt32.toNat_add]
  show (p.page.toNat + 1) % _ = _
  omega

theorem page_previous (h : p.hasPrevious = true) : p.previous.2.page.toNat + 1 = p.page.toNat := by
  have above := lt_of_hasPrevious h
  have one : (1 : UInt32) ≤ p.page := UInt32.le_iff_toNat_le.mpr (Nat.le_of_lt above)
  rw [previous, if_pos h]
  show (p.page - 1).toNat + 1 = _
  rw [UInt32.toNat_sub_of_le _ _ one]
  show p.page.toNat - 1 + 1 = _
  omega

/-- A deletion that empties the page is a move back. -/
theorem settle_eq (p : Pager) (remaining : Nat) :
    p.settle remaining = if remaining = 0 then p.previous.2 else p := by
  unfold settle previous
  by_cases empty : remaining = 0
  · cases p.hasPrevious <;> simp [empty]
  · simp [empty]

theorem info_next (p : Pager) : p.next.2.info = p.info := by
  unfold next
  split <;> rfl

theorem info_previous (p : Pager) : p.previous.2.info = p.info := by
  unfold previous
  split <;> rfl

theorem page_previous_le (p : Pager) : p.previous.2.page.toNat ≤ p.page.toNat := by
  by_cases h : p.hasPrevious = true
  · have := page_previous h
    omega
  · have stays : p.previous.2 = p := by rw [previous, if_neg h]
    exact Nat.le_of_eq (by rw [stays])

theorem totalPages_of_info {p q : Pager} (h : q.info = p.info) : q.totalPages = p.totalPages := by
  rw [totalPages, h, totalPages]

/-- Of all moves only an answer tells of the list. -/
theorem info_move (p : Pager) (m : Move) : (p.move m).info = m.told?.or p.info := by
  cases m with
  | observed info => rfl
  | next => exact p.info_next
  | previous => exact p.info_previous
  | settled remaining =>
    show (p.settle remaining).info = p.info
    rw [settle_eq]
    split
    · exact p.info_previous
    · rfl

/-! ## Runs -/

theorem Fresh.info_eq (fresh : Fresh p) : p.info = none := by
  cases fresh <;> rfl

theorem Fresh.page_eq (fresh : Fresh p) : p.page = 1 := by
  cases fresh <;> rfl

theorem lastTold_concat (moves : List Move) (m : Move) :
    lastTold (moves ++ [m]) = m.told?.or (lastTold moves) := by
  rw [lastTold, List.filterMap_append, List.getLast?_append]
  cases m <;> rfl

theorem info_run (fresh : Fresh p) (moves : List Move) : (p.run moves).info = lastTold moves := by
  induction moves using List.reverseRecOn with
  | nil => exact fresh.info_eq
  | append_singleton moves m ih => rw [run_concat, info_move, ih, lastTold_concat]

theorem Fresh.bounded (fresh : Fresh p) : p.Bounded := by
  rw [Bounded, fresh.page_eq, fresh.info_eq]
  exact Nat.le_max_right _ _

theorem Bounded.of_le {q : Pager} (h : p.Bounded) (info : q.info = p.info)
    (le : q.page.toNat ≤ p.page.toNat) : q.Bounded := by
  unfold Bounded at h ⊢
  rw [totalPages_of_info info, info]
  omega

/-- Only to pages that are counted does a pager move on, and only to pages that are named is it taken. -/
theorem Bounded.move (h : p.Bounded) (m : Move) : (p.move m).Bounded := by
  cases m with
  | observed info =>
    -- whatever count the answer gives, the page is the one that it names
    show (max info.page 1).toNat ≤ max (max info.totalPages 1).toNat info.page.toNat
    rw [UInt32.toNat_max, UInt32.toNat_max]
    show max info.page.toNat 1 ≤ max (max info.totalPages.toNat 1) info.page.toNat
    omega
  | next =>
    show p.next.2.Bounded
    by_cases more : p.hasNext = true
    · have below := lt_of_hasNext more
      unfold Bounded
      rw [page_next more, totalPages_of_info p.info_next]
      omega
    · rw [next, if_neg more]
      exact h
  | previous => exact h.of_le p.info_previous p.page_previous_le
  | settled remaining =>
    show (p.settle remaining).Bounded
    rw [settle_eq]
    split
    · exact h.of_le p.info_previous p.page_previous_le
    · exact h

theorem Bounded.run (h : p.Bounded) (moves : List Move) : (p.run moves).Bounded := by
  induction moves using List.reverseRecOn with
  | nil => exact h
  | append_singleton moves m ih =>
    rw [run_concat]
    exact ih.move m

theorem Bounded.page_le (h : p.Bounded) (consistent : ∀ info ∈ p.info, info.Consistent) :
    p.page ≤ p.totalPages := by
  rw [UInt32.le_iff_toNat_le]
  unfold Bounded totalPages at *
  cases told : p.info with
  | none => simpa [told] using h
  | some info =>
    have named := UInt32.le_iff_toNat_le.mp (consistent info told)
    rw [told] at h
    exact Nat.le_trans h (Nat.max_le.mpr ⟨Nat.le_refl _, named⟩)

/-! ## The bar -/

theorem not_isSinglePage (h : p.page ≤ p.totalPages) (back : p.hasPrevious = true) :
    p.isSinglePage = false := by
  have above : 1 < p.page := of_decide_eq_true back
  apply decide_eq_false
  intro single
  exact absurd above (UInt32.not_lt.mpr (UInt32.le_trans h single))

/-- From a page that is counted the bar leads back to the one before it. -/
theorem previous_mem_pagerBar {α : Type} (h : p.page ≤ p.totalPages) (back : p.hasPrevious = true)
    (previous next : α) : Node.switch "btn btn--secondary" "Previous" false previous ∈
      Node.nodes (View.pagerBar p previous next) := by
  rw [View.pagerBar, not_isSinglePage h back, back]
  exact Node.mem_nodes_inside List.mem_cons_self (Node.mem_nodes_of_mem List.mem_cons_self)

/-! ## Top theorem -/

/-- **A page is shown among the pages that are counted.**  Where the last answer that a pager was told of names
a page that it counts, the pager is on no page behind the last one, whatever was told and clicked and deleted
before and since.  So the summary's first number is not above its second, and from every page but the first the
bar leads back. -/
theorem page_le_totalPages {p : Pager} (fresh : Fresh p) (moves : List Move)
    (consistent : ∀ info ∈ lastTold moves, info.Consistent) :
    (p.run moves).page ≤ (p.run moves).totalPages ∧
    (∃ n m : Nat, n ≤ m ∧ (p.run moves).summary = s!"Page {n} of {m}") ∧
    ((p.run moves).hasPrevious = true → (p.run moves).isSinglePage = false ∧
      ∀ (α : Type) (previous next : α), Node.switch "btn btn--secondary" "Previous" false previous ∈
        Node.nodes (View.pagerBar (p.run moves) previous next)) := by
  rw [← info_run fresh moves] at consistent
  have within := (fresh.bounded.run moves).page_le consistent
  refine ⟨within, ⟨_, _, UInt32.le_iff_toNat_le.mp within, rfl⟩, fun back => ⟨?_, ?_⟩⟩
  · exact not_isSinglePage within back
  · intro α previous next
    exact previous_mem_pagerBar within back previous next

/-- Told of two pages and moved on, told of three and moved on, and moved back by a deletion. -/
theorem page_le_totalPages_three :
    let moves := [.observed ⟨1, 10, 20, 2⟩, .next, .observed ⟨2, 10, 30, 3⟩, .next, .settled 0]
    (∀ info ∈ lastTold moves, info.Consistent) ∧ ((new 10).run moves).hasPrevious = true ∧
      ((new 10).run moves).page ≤ ((new 10).run moves).totalPages ∧
      ((new 10).run moves).isSinglePage = false := by
  intro moves
  have consistent : ∀ info ∈ lastTold moves, info.Consistent := by decide
  have back : ((new 10).run moves).hasPrevious = true := by decide
  obtain ⟨within, -, several⟩ := page_le_totalPages (.new 10) moves consistent
  exact ⟨consistent, back, within, (several back).1⟩

/-- **A page that no bar leads back from.**  Of two pages the second is asked for, and the answer names it but
counts one. -/
theorem page_behind_last :
    let moves := [.observed ⟨1, 10, 20, 2⟩, .next, .observed ⟨2, 10, 10, 1⟩]
    ((new 10).run moves).totalPages < ((new 10).run moves).page ∧
      ((new 10).run moves).summary = "Page 2 of 1" ∧ ((new 10).run moves).hasPrevious = true ∧
      View.pagerBar ((new 10).run moves) Move.previous Move.next = [] := by
  intro moves
  have summary : ((new 10).run moves).summary = "Page 2 of 1" := by decide +kernel
  exact ⟨by decide, summary, rfl, rfl⟩

end Pager

end CarCatalog

import CarCatalog.Slot.Memory
import Mathlib.Data.List.Find
import Mathlib.Logic.Relation

/-!
# The history of slots

What becomes of slots in memory is told without maps and keys: `n` handles are made, each anew or as a copy of
one there is, and texts are left and taken away through them.  Handles are akin (`Kin`) if they come by copying
from one handle, and then from the one that was made anew (`root`); a text is that of all handles akin.

    past.Kin a b ↔ past.root a = past.root b                                                  (kin_iff)
    (past.written on left).text b = if past.Kin on b then left else past.text b           (text_written)
-/

namespace CarCatalog.Memory

/-- What was done to `n` handles, the latest outermost. -/
inductive History : Nat → Type
  | start : History 0
  | made {n : Nat} (past : History n) : History (n + 1)
  | copied {n : Nat} (past : History n) (source : Fin n) : History (n + 1)
  | written {n : Nat} (past : History n) (on : Fin n) (left : Option String) : History n

namespace History

/-- The handle that a handle is a copy of. -/
def source? : {n : Nat} → History n → Nat → Option Nat
  | _, start, _ => none
  | _, made past, on => past.source? on
  | _, @copied n past source, on => if on = n then some source else past.source? on
  | _, written past _ _, on => past.source? on

/-- The handle made anew that a handle comes from. -/
def root : {n : Nat} → History n → Nat → Nat
  | _, start, on => on
  | _, made past, on => past.root on
  | _, @copied n past source, on => past.root (if on = n then source else on)
  | _, written past _ _, on => past.root on

/-- All that was left, and through which handle, the latest first. -/
def writes : {n : Nat} → History n → List (Nat × Option String)
  | _, start => []
  | _, made past => past.writes
  | _, copied past _ => past.writes
  | _, written past on left => (on.val, left) :: past.writes

variable {n : Nat}

def CopyOf (past : History n) (copy source : Nat) : Prop := past.source? copy = some source

/-- Both come by copying from one handle, which may be one of them. -/
def Kin (past : History n) : Nat → Nat → Prop := Relation.Join (Relation.ReflTransGen past.CopyOf)

/-! ## Roots -/

theorem root_of_le (past : History n) {on : Nat} (h : n ≤ on) : past.root on = on := by
  induction past with
  | start => rfl
  | made past ih => exact ih (Nat.le_of_succ_le h)
  | @copied n past source ih =>
    rw [root, if_neg (Nat.ne_of_gt h)]
    exact ih (Nat.le_of_succ_le h)
  | written past through left ih => exact ih h

theorem root_lt (past : History n) {on : Nat} (h : on < n) : past.root on < n := by
  induction past generalizing on with
  | start => exact absurd h (Nat.not_lt_zero on)
  | @made n past ih =>
    rcases Nat.lt_or_eq_of_le (Nat.le_of_lt_succ h) with old | rfl
    · exact Nat.lt_succ_of_lt (ih old)
    · rw [root, past.root_of_le (Nat.le_refl _)]
      exact Nat.lt_succ_self _
  | @copied n past source ih =>
    rw [root]
    split
    · exact Nat.lt_succ_of_lt (ih source.isLt)
    · exact Nat.lt_succ_of_lt (ih (by omega))
  | written past through left ih => exact ih h

theorem root_ne (past : History n) {on : Nat} (h : on ≠ n) : past.root on ≠ n := by
  rcases Nat.lt_or_ge on n with old | beyond
  · exact Nat.ne_of_lt (past.root_lt old)
  · rwa [past.root_of_le beyond]

theorem lt_of_source? {past : History n} {copy source : Nat} (h : past.source? copy = some source) :
    copy < n ∧ source < n := by
  induction past with
  | start => cases h
  | made past ih =>
    obtain ⟨copy_lt, source_lt⟩ := ih h
    exact ⟨Nat.lt_succ_of_lt copy_lt, Nat.lt_succ_of_lt source_lt⟩
  | @copied n past origin ih =>
    rw [source?] at h
    split at h
    · next new =>
      cases h
      exact ⟨new ▸ Nat.lt_succ_self _, Nat.lt_succ_of_lt origin.isLt⟩
    · obtain ⟨copy_lt, source_lt⟩ := ih h
      exact ⟨Nat.lt_succ_of_lt copy_lt, Nat.lt_succ_of_lt source_lt⟩
  | written past through left ih => exact ih h

theorem CopyOf.copied {past : History n} {copy source : Nat} (h : past.CopyOf copy source)
    (later : Fin n) : (past.copied later).CopyOf copy source := by
  rw [CopyOf, source?, if_neg (Nat.ne_of_lt (lt_of_source? h).1)]
  exact h

/-- A copy comes from where its source comes from. -/
theorem CopyOf.root_eq {past : History n} {copy source : Nat} (h : past.CopyOf copy source) :
    past.root copy = past.root source := by
  induction past with
  | start => cases h
  | made past ih => exact ih h
  | @copied n past origin ih =>
    rw [CopyOf, source?] at h
    rw [root, root]
    split at h
    · next new =>
      cases h
      rw [if_pos new, if_neg (Nat.ne_of_lt origin.isLt)]
    · next old =>
      rw [if_neg old, if_neg (Nat.ne_of_lt (lt_of_source? h).2)]
      exact ih h
  | written past through left ih => exact ih h

theorem copies_root (past : History n) (on : Nat) :
    Relation.ReflTransGen past.CopyOf on (past.root on) := by
  induction past generalizing on with
  | start => exact .refl
  | made past ih => exact ih on
  | @copied n past source ih =>
    have kept : past.CopyOf ≤ (past.copied source).CopyOf := fun _ _ copy => copy.copied source
    have still : ∀ on, Relation.ReflTransGen (past.copied source).CopyOf on (past.root on) :=
      fun on => Relation.ReflTransGen.mono kept on _ (ih on)
    rw [root]
    split
    · next new =>
      have copy : (past.copied source).CopyOf on source := by rw [CopyOf, source?, if_pos new]
      exact .head copy (still source)
    · exact still on
  | written past through left ih => exact ih on

theorem root_of_copies {past : History n} {on origin : Nat}
    (copies : Relation.ReflTransGen past.CopyOf on origin) : past.root on = past.root origin := by
  induction copies with
  | refl => rfl
  | tail _ copy ih => exact ih.trans (CopyOf.root_eq copy)

theorem kin_iff {past : History n} {a b : Nat} : past.Kin a b ↔ past.root a = past.root b := by
  constructor
  · rintro ⟨common, ha, hb⟩
    exact (root_of_copies ha).trans (root_of_copies hb).symm
  · intro same
    exact ⟨past.root a, past.copies_root a, same ▸ past.copies_root b⟩

instance (past : History n) (a b : Nat) : Decidable (past.Kin a b) := decidable_of_iff _ kin_iff.symm

/-! ## Texts -/

/-- What the last write through a handle akin left; none without one. -/
def text (past : History n) (on : Nat) : Option String :=
  (past.writes.find? fun write => past.Kin write.1 on).bind Prod.snd

theorem lt_of_mem_writes {past : History n} {write : Nat × Option String} (h : write ∈ past.writes) :
    write.1 < n := by
  induction past with
  | start => cases h
  | made past ih => exact Nat.lt_succ_of_lt (ih h)
  | copied past source ih => exact Nat.lt_succ_of_lt (ih h)
  | written past through left ih =>
    rcases List.mem_cons.mp h with rfl | earlier
    · exact through.isLt
    · exact ih earlier

/-- Of two histories with the same writes, handles have one text if the same handles are akin to them. -/
theorem text_congr {m : Nat} {past : History n} {other : History m} {a b : Nat}
    (writes : other.writes = past.writes)
    (kin : ∀ through < n, other.Kin through b ↔ past.Kin through a) : other.text b = past.text a := by
  rw [text, text, writes, List.find?_congr fun write h => decide_eq_decide.mpr (kin _ (lt_of_mem_writes h))]

theorem text_of_le (past : History n) {on : Nat} (h : n ≤ on) : past.text on = none := by
  have strangers : past.writes.find? (fun write => past.Kin write.1 on) = none := by
    rw [List.find?_eq_none]
    intro write member akin
    have root := kin_iff.mp (of_decide_eq_true akin)
    have := past.root_lt (lt_of_mem_writes member)
    rw [root, past.root_of_le h] at this
    omega
  rw [text, strangers]
  rfl

theorem text_made (past : History n) (on : Nat) : past.made.text on = past.text on :=
  text_congr rfl fun through _ => by rw [kin_iff, kin_iff]; rfl

theorem text_copied (past : History n) (source : Fin n) (on : Nat) :
    (past.copied source).text on = past.text (if on = n then source else on) :=
  text_congr rfl fun through h => by
    rw [kin_iff, kin_iff, root, if_neg (Nat.ne_of_lt h)]
    rfl

theorem text_written (past : History n) (through : Fin n) (left : Option String) (on : Nat) :
    (past.written through left).text on = if past.Kin through on then left else past.text on := by
  have same : ∀ a b, (past.written through left).Kin a b ↔ past.Kin a b := fun a b => by
    rw [kin_iff, kin_iff]
    rfl
  have earlier : past.writes.find? (fun write => (past.written through left).Kin write.1 on) =
      past.writes.find? fun write => past.Kin write.1 on :=
    List.find?_congr fun write _ => decide_eq_decide.mpr (same _ _)
  rw [text, writes, List.find?_cons, earlier, text]
  by_cases akin : past.Kin through on
  · simp [akin, (same _ _).mpr akin]
  · simp [akin, (same _ _).not.mpr akin]

end History

end CarCatalog.Memory

import CarCatalog.Text.Integer
import Mathlib.Data.List.DropRight

/-!
# Texts that are trimmed, and integers as they are written

A text is trimmed where no white space is left at its ends (`Trims`), and an integer is a sign or none and
one or more digits, any number of zeros first (`WritesInt`).

    Trims s core ↔ trim s = core                                                  (trims_iff)
    readInt cs = some i ↔ WritesInt cs i                                          (readInt_iff)
-/

namespace CarCatalog.Text

/-- Neither the first character nor the last is white space. -/
structure Tight (cs : List Char) : Prop where
  first : ∀ c ∈ cs.head?, isBlank c = false
  last : ∀ c ∈ cs.getLast?, isBlank c = false

/-- A text is what is left of another once the white space is off both its ends. -/
def Trims (s core : String) : Prop :=
  ∃ before after : List Char, (∀ c ∈ before, isBlank c = true) ∧ (∀ c ∈ after, isBlank c = true) ∧
    Tight core.toList ∧ s.toList = before ++ (core.toList ++ after)

/-- One or more digits, and the number that they write in base ten. -/
inductive WritesNat : List Char → Nat → Prop
  | one (d : Fin 10) : WritesNat [Nat.digitChar d] d
  | more {cs : List Char} {n : Nat} (front : WritesNat cs n) (d : Fin 10) :
    WritesNat (cs ++ [Nat.digitChar d]) (10 * n + d)

/-- Digits, with a sign before them or none. -/
inductive WritesInt : List Char → Int → Prop
  | plain {cs : List Char} {n : Nat} (digits : WritesNat cs n) : WritesInt cs n
  | plus {cs : List Char} {n : Nat} (digits : WritesNat cs n) : WritesInt ('+' :: cs) n
  | minus {cs : List Char} {n : Nat} (digits : WritesNat cs n) : WritesInt ('-' :: cs) (-n)

/-! ## Trimming -/

theorem dropWhile_blanks {before cs : List Char} (blank : ∀ c ∈ before, isBlank c = true)
    (first : ∀ c ∈ cs.head?, isBlank c = false) : (before ++ cs).dropWhile isBlank = cs := by
  rw [List.dropWhile_append_of_pos blank]
  cases cs with
  | nil => rfl
  | cons c cs => exact List.dropWhile_cons_of_neg (by simp [first c rfl])

theorem trimChars_of_tight {before cs after : List Char} (hb : ∀ c ∈ before, isBlank c = true)
    (ha : ∀ c ∈ after, isBlank c = true) (tight : Tight cs) :
    trimChars (before ++ (cs ++ after)) = cs := by
  cases cs with
  | nil =>
    -- nothing but white space
    have all : ∀ c ∈ before ++ after, isBlank c = true := by
      intro c hc
      rcases List.mem_append.mp hc with hc | hc
      · exact hb c hc
      · exact ha c hc
    have dropped : (before ++ after).dropWhile isBlank = [] := List.dropWhile_eq_nil_iff.mpr all
    rw [trimChars, List.nil_append, dropped]
    rfl
  | cons c cs =>
    have front : ∀ d ∈ (c :: cs ++ after).head?, isBlank d = false := tight.first
    have back : ∀ d ∈ (c :: cs).reverse.head?, isBlank d = false := by
      rw [List.head?_reverse]
      exact tight.last
    have ha' : ∀ d ∈ after.reverse, isBlank d = true := fun d hd => ha d (List.mem_reverse.mp hd)
    rw [trimChars, dropWhile_blanks hb front, List.reverse_append, dropWhile_blanks ha' back,
      List.reverse_reverse]

theorem tight_trimChars (cs : List Char) : Tight (trimChars cs) where
  first c hc := by
    -- the first character is that of what the front was taken off
    have from_front : trimChars cs <+: cs.dropWhile isBlank := List.rdropWhile_prefix isBlank _
    obtain ⟨rest, hrest⟩ := from_front
    cases h : trimChars cs with
    | nil => simp [h] at hc
    | cons d ds =>
      rw [h] at hc hrest
      obtain rfl : d = c := by simpa using hc
      have nonempty : cs.dropWhile isBlank ≠ [] := by simp [← hrest]
      have head := List.head_dropWhile_not isBlank nonempty
      simpa [← hrest] using head
  last c hc := by
    have nonempty : trimChars cs ≠ [] := by
      intro h
      simp [h] at hc
    have kept := List.rdropWhile_last_not isBlank (cs.dropWhile isBlank) nonempty
    rw [List.getLast?_eq_some_getLast nonempty] at hc
    rw [← Option.some.inj hc]
    exact Bool.eq_false_iff.mpr kept

theorem exists_trimChars (cs : List Char) : ∃ before after : List Char,
    (∀ c ∈ before, isBlank c = true) ∧ (∀ c ∈ after, isBlank c = true) ∧
      cs = before ++ (trimChars cs ++ after) := by
  refine ⟨cs.takeWhile isBlank, ((cs.dropWhile isBlank).reverse.takeWhile isBlank).reverse,
    fun c hc => List.mem_takeWhile_imp hc,
    fun c hc => List.mem_takeWhile_imp (List.mem_reverse.mp hc), ?_⟩
  rw [trimChars, ← List.reverse_append, List.takeWhile_append_dropWhile, List.reverse_reverse,
    List.takeWhile_append_dropWhile]

theorem trims_iff {s core : String} : Trims s core ↔ trim s = core := by
  constructor
  · rintro ⟨before, after, hb, ha, tight, hs⟩
    rw [trim, hs, trimChars_of_tight hb ha tight, String.ofList_toList]
  · rintro rfl
    obtain ⟨before, after, hb, ha, hs⟩ := exists_trimChars s.toList
    refine ⟨before, after, hb, ha, ?_, ?_⟩
    · rw [trim, String.toList_ofList]
      exact tight_trimChars s.toList
    · rw [trim, String.toList_ofList]
      exact hs

/-! ## Integers -/

theorem isDigit_iff_digitChar {c : Char} : isDigit c = true ↔ ∃ d : Fin 10, c = Nat.digitChar d := by
  constructor
  · intro h
    rw [isDigit, Bool.and_eq_true, decide_eq_true_eq, decide_eq_true_eq] at h
    have lo : 48 ≤ c.toNat := h.1
    have hi : c.toNat ≤ 57 := h.2
    have table : ∀ n < 58, 48 ≤ n → ∃ d : Fin 10, Char.ofNat n = Nat.digitChar d := by decide
    have := table c.toNat (Nat.lt_succ_of_le hi) lo
    rwa [Char.ofNat_toNat] at this
  · rintro ⟨d, rfl⟩
    revert d
    decide

theorem digitChar_sub (d : Fin 10) : (Nat.digitChar d).toNat - '0'.toNat = d := by
  revert d
  decide

/-- Reading goes through the digits from the first to the last. -/
theorem WritesNat.read {cs : List Char} {n : Nat} (h : WritesNat cs n) :
    cs ≠ [] ∧ (∀ c ∈ cs, isDigit c = true) ∧ Nat.ofDigitChars 10 cs 0 = n := by
  induction h with
  | one d =>
    refine ⟨List.cons_ne_nil _ _, fun c hc => ?_, ?_⟩
    · rw [List.mem_singleton.mp hc]
      exact isDigit_iff_digitChar.mpr ⟨d, rfl⟩
    · rw [Nat.ofDigitChars_cons, digitChar_sub]
      exact Nat.zero_add _
  | @more cs n front d ih =>
    obtain ⟨nonempty, digits, read⟩ := ih
    refine ⟨by simp, fun c hc => ?_, ?_⟩
    · rcases List.mem_append.mp hc with hc | hc
      · exact digits c hc
      · rw [List.mem_singleton.mp hc]
        exact isDigit_iff_digitChar.mpr ⟨d, rfl⟩
    · rw [Nat.ofDigitChars_append, read, Nat.ofDigitChars_cons, digitChar_sub]
      rfl

theorem writesNat_ofDigitChars {cs : List Char} (nonempty : cs ≠ [])
    (digits : ∀ c ∈ cs, isDigit c = true) : WritesNat cs (Nat.ofDigitChars 10 cs 0) := by
  induction cs using List.reverseRecOn with
  | nil => exact absurd rfl nonempty
  | append_singleton cs c ih =>
    obtain ⟨d, rfl⟩ := isDigit_iff_digitChar.mp (digits c (by simp))
    rw [Nat.ofDigitChars_append, Nat.ofDigitChars_cons, digitChar_sub]
    by_cases first : cs = []
    · subst first
      rw [show 10 * Nat.ofDigitChars 10 [] 0 + (d : Nat) = d from Nat.zero_add _]
      exact .one d
    · exact .more (ih first fun c hc => digits c (by simp [hc])) d

theorem readNat_iff {cs : List Char} {n : Nat} : readNat cs = some n ↔ WritesNat cs n := by
  unfold readNat
  constructor
  · intro h
    split at h
    · cases h
    · next valid =>
      rw [Bool.or_eq_true, not_or, Bool.not_eq_true, Bool.not_eq_true, Bool.not_eq_false',
        List.isEmpty_eq_false_iff, List.all_eq_true] at valid
      cases h
      exact writesNat_ofDigitChars valid.1 valid.2
  · intro h
    obtain ⟨nonempty, digits, rfl⟩ := h.read
    rw [if_neg]
    rw [Bool.or_eq_true, not_or, Bool.not_eq_true, Bool.not_eq_true, Bool.not_eq_false',
      List.isEmpty_eq_false_iff, List.all_eq_true]
    exact ⟨nonempty, digits⟩

theorem readInt_iff {cs : List Char} {i : Int} : readInt cs = some i ↔ WritesInt cs i := by
  constructor
  · intro h
    unfold readInt at h
    split at h
    · next cs =>
      cases hn : readNat cs with
      | none =>
        rw [hn] at h
        cases h
      | some n =>
        rw [hn] at h
        cases h
        exact .minus (readNat_iff.mp hn)
    · obtain ⟨n, hn, rfl⟩ := Option.map_eq_some_iff.mp h
      exact .plus (readNat_iff.mp hn)
    · obtain ⟨n, hn, rfl⟩ := Option.map_eq_some_iff.mp h
      exact .plain (readNat_iff.mp hn)
  · intro h
    cases h with
    | plain digits =>
      rw [readInt_of_digits digits.read.2.1, readNat_iff.mpr digits]
      rfl
    | plus digits =>
      rw [readInt, readNat_iff.mpr digits]
      rfl
    | minus digits =>
      rw [readInt, readNat_iff.mpr digits]
      rfl

end CarCatalog.Text

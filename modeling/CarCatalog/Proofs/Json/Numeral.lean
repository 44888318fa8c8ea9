import CarCatalog.Proofs.Binary64
import CarCatalog.Proofs.Json.Writer
import Mathlib.Algebra.Order.Ring.Abs
import Mathlib.Data.Rat.Cast.Order
import Mathlib.Tactic.NormNum

/-!
# What a number literal is worth

A literal stands for a decimal number, `n.value`.  It is worked with as an integer where it is written
as one of 64 bits, and as a double otherwise: the digits that 64 bits hold are rounded, and then scaled
by a rounded power of ten.  The double may thus be another number, even another integer.

    n.IsInteger → (n.toInt64? = some i ↔ n.int = i ∨ i = -2^63 ∧ -2^63 - 1024 ≤ n.int < -2^63)
                                                                     (toInt64?_of_isInteger)
    n.IsShort   → (n.toInt64? = some i ↔ n.value = i)                (toInt64?_of_isShort)

The same digits as a text are the integer and nothing else:

    n.IsInteger → Text.readInt64 (Text.trim s) = int64? n.int        (readInt64_of_spelled)
-/

namespace CarCatalog

/-- The integer of 64 bits that a number is. -/
def Number.toInt64? : Number → Option Int64
  | .int i => int64? i
  | .real x => x.toInt64?

namespace Numeral

def toInt64? (n : Numeral) : Option Int64 := n.toNumber?.bind Number.toInt64?

/-- All digits as a number, without the point. -/
def significand (n : Numeral) : Nat := natValue (n.whole ++ n.fraction)

/-- The power of ten by which that number is to be multiplied. -/
def scale (n : Numeral) : Int := n.exponent.getD 0 - n.fraction.length

/-- The number that is meant. -/
def value (n : Numeral) : ℚ :=
  (if n.negative then -1 else 1) * (n.significand * (10 : ℚ) ^ n.scale)

/-- Written without fraction and exponent. -/
def IsInteger (n : Numeral) : Prop := n.fraction = [] ∧ n.exponent = none

/-- The integer that such a literal writes. -/
def int (n : Numeral) : Int := if n.negative then -(natValue n.whole : Int) else natValue n.whole

/-- Few digits, and neither too large nor too small a power of ten: an integer is kept by rounding, and
what is none does not become one. -/
structure IsShort (n : Numeral) : Prop where
  significand : n.significand < 2 ^ 53
  scale : -308 ≤ n.scale
  value : |n.value| < 2 ^ 53

/-! ## Digits -/

/-- The number that digits make when they follow others. -/
def follow (w : Nat) (ds : List Digit) : Nat := ds.foldl (fun n d => n * 10 + d.val) w

theorem natValue_eq (ds : List Digit) : natValue ds = follow 0 ds := rfl

theorem follow_cons (w : Nat) (d : Digit) (ds : List Digit) :
    follow w (d :: ds) = follow (w * 10 + d.val) ds := rfl

theorem le_follow (w : Nat) (ds : List Digit) : w ≤ follow w ds := by
  induction ds generalizing w with
  | nil => exact Nat.le_refl w
  | cons d ds ih =>
    have := ih (w * 10 + d.val)
    rw [follow_cons]
    omega

theorem absorb_of_lt {w : Nat} {ds : List Digit} (small : follow w ds < UInt64.size) :
    absorb w ds = (follow w ds, 0) := by
  induction ds generalizing w with
  | nil => rfl
  | cons d ds ih =>
    rw [follow_cons] at small ⊢
    have room : w * 10 + d.val < UInt64.size := Nat.lt_of_le_of_lt (le_follow _ ds) small
    rw [absorb, if_pos room, ih small]

/-- Digits are dropped only once one more would not fit. -/
theorem absorb_of_ge {w : Nat} {ds : List Digit} (fits : w < UInt64.size)
    (large : UInt64.size ≤ follow w ds) :
    0 < (absorb w ds).2 ∧ UInt64.size ≤ (absorb w ds).1 * 10 + 9 := by
  induction ds generalizing w with
  | nil => exact absurd fits (Nat.not_lt.mpr large)
  | cons d ds ih =>
    rw [follow_cons] at large
    by_cases room : w * 10 + d.val < UInt64.size
    · rw [absorb, if_pos room]
      exact ih room large
    · rw [absorb, if_neg room]
      have := d.isLt
      exact ⟨Nat.succ_pos _, by omega⟩

/-! ## The double of a literal -/

open Binary64

variable {n : Numeral} {x : Binary64}

theorem significand_eq (n : Numeral) : n.significand = follow (natValue n.whole) n.fraction :=
  List.foldl_append

/-- As long as 64 bits hold the digits, none is dropped. -/
theorem toBinary64?_of_lt (small : n.significand < UInt64.size) :
    n.toBinary64? = (scale? n.significand n.scale).map fun b => { b with negative := n.negative } := by
  rw [significand_eq] at small
  have whole : follow 0 n.whole < UInt64.size :=
    Nat.lt_of_le_of_lt (le_follow _ n.fraction) small
  have first : absorb 0 n.whole = (natValue n.whole, 0) := absorb_of_lt whole
  have exponent : (0 : Int) - (n.fraction.length - 0 : Nat) + n.exponent.getD 0 = n.scale := by
    rw [Numeral.scale]
    omega
  rw [toBinary64?, first]
  dsimp only
  rw [absorb_of_lt small]
  dsimp only
  rw [← significand_eq, ← exponent]
  rfl

theorem negative_of_finite (finite : n.toBinary64? = some x) : x.negative = n.negative := by
  obtain ⟨b, -, rfl⟩ := Option.map_eq_some_iff.mp finite
  rfl

theorem toBinary64?_of_isInteger (integer : n.IsInteger) :
    n.toBinary64? = (scale? (absorb 0 n.whole).1 (absorb 0 n.whole).2).map
      fun b => { b with negative := n.negative } := by
  obtain ⟨fraction, exponent⟩ := integer
  rw [toBinary64?, fraction, exponent]
  simp [absorb]

theorem scale?_of_neg {s k : Nat} (pos : 0 < k) (reach : k ≤ 308) :
    scale? s (-(k : Int)) = some ((Binary64.ofNat s).div (tenPower k)) := by
  have below : ¬0 ≤ -(k : Int) := by omega
  rw [scale?]
  dsimp only
  rw [if_neg below, Int.natAbs_neg, Int.natAbs_natCast, if_pos reach]

theorem of_scale? {s k : Nat} (nonzero : (Binary64.ofNat s).units ≠ 0)
    (h : scale? s k = some x) : x = (Binary64.ofNat s).mul (tenPower k) := by
  rw [scale?] at h
  dsimp only at h
  rw [if_pos (Int.natCast_nonneg k), if_neg nonzero, Int.natAbs_natCast] at h
  split at h
  · cases h
  · split at h
    · cases h
    · exact (Option.some.inj h).symm

theorem units_of_zero {e : Int} (reach : -308 ≤ e) (h : scale? 0 e = some x) : x.units = 0 := by
  have zero : (Binary64.ofNat 0).units = 0 := by rw [units_ofNat (Nat.zero_le _), Nat.zero_mul]
  rcases Int.lt_or_le e 0 with below | above
  · obtain ⟨k, rfl⟩ : ∃ k : Nat, e = -(k : Int) := ⟨e.natAbs, by omega⟩
    rw [scale?_of_neg (by omega) (by omega)] at h
    rw [← Option.some.inj h]
    show roundQuotient ((Binary64.ofNat 0).units * one) _ = 0
    rw [zero, Nat.zero_mul]
    simp [roundQuotient, nearest]
  · rw [scale?] at h
    dsimp only at h
    rw [if_pos above, if_pos zero] at h
    rw [← Option.some.inj h, zero]

/-- With few digits, the double is a whole number exactly when the decimal is one, and the same. -/
theorem units_scale?_iff {s : Nat} {e : Int} (bits : s < 2 ^ 53) (reach : -308 ≤ e)
    (size : (s : ℚ) * 10 ^ e < 2 ^ 53) (h : scale? s e = some x) (m : Nat) :
    x.units = m * one ↔ (s : ℚ) * 10 ^ e = m := by
  rcases Nat.eq_zero_or_pos s with rfl | pos
  · rw [units_of_zero reach h, Nat.cast_zero, zero_mul, zero_eq_mul, eq_comm (a := (0 : ℚ)),
      Nat.cast_eq_zero]
    exact or_iff_left (Nat.ne_of_gt Binary64.one_pos)
  rcases Int.lt_or_le e 0 with below | above
  · obtain ⟨k, rfl⟩ : ∃ k : Nat, e = -(k : Int) := ⟨e.natAbs, by omega⟩
    have tens : (10 : ℚ) ^ k ≠ 0 := pow_ne_zero k (by norm_num)
    have quotient : (s : ℚ) * 10 ^ (-(k : Int)) = m ↔ s = m * 10 ^ k := by
      rw [zpow_neg, zpow_natCast, ← div_eq_mul_inv, div_eq_iff tens]
      exact_mod_cast Iff.rfl
    rw [scale?_of_neg (by omega) (by omega)] at h
    rw [quotient, ← Option.some.inj h]
    exact units_div_tenPower_iff pos bits (by omega)
  · obtain ⟨k, rfl⟩ := Int.eq_ofNat_of_zero_le above
    have product : (s : ℚ) * 10 ^ (k : Int) = (s * 10 ^ k : Nat) := by
      rw [zpow_natCast]
      push_cast
      rfl
    have small : s * 10 ^ k < 2 ^ 53 := by
      rw [product] at size
      exact_mod_cast size
    have nonzero : (Binary64.ofNat s).units ≠ 0 := by
      rw [units_ofNat (Nat.le_of_lt bits)]
      exact Nat.ne_of_gt (Nat.mul_pos pos Binary64.one_pos)
    rw [product, of_scale? nonzero h, units_mul_tenPower pos small, Nat.cast_inj]
    exact Nat.mul_left_inj (Nat.ne_of_gt Binary64.one_pos)

/-! ## Integers beyond 64 bits -/

theorem units_of_isInteger (integer : n.IsInteger) (finite : n.toBinary64? = some x)
    (nonzero : (Binary64.ofNat (absorb 0 n.whole).1).units ≠ 0) : x.units =
      ((Binary64.ofNat (absorb 0 n.whole).1).mul (tenPower (absorb 0 n.whole).2)).units := by
  rw [toBinary64?_of_isInteger integer] at finite
  obtain ⟨b, hb, rfl⟩ := Option.map_eq_some_iff.mp finite
  rw [of_scale? nonzero hb]

theorem units_of_tie (integer : n.IsInteger) (finite : n.toBinary64? = some x)
    (lo : 2 ^ 63 ≤ natValue n.whole) (hi : natValue n.whole ≤ 2 ^ 63 + 1024) :
    x.units = 2 ^ 63 * one := by
  have all : absorb 0 n.whole = (natValue n.whole, 0) := by
    have size : UInt64.size = 2 ^ 64 := rfl
    refine absorb_of_lt ?_
    rw [← natValue_eq, size]
    omega
  have units := units_ofNat_tie lo hi
  have nonzero : (Binary64.ofNat (absorb 0 n.whole).1).units ≠ 0 := by
    rw [all, units]
    exact Nat.ne_of_gt (Nat.mul_pos (Nat.two_pow_pos 63) Binary64.one_pos)
  rw [units_of_isInteger integer finite nonzero, all]
  have rep : Representable (2 ^ 63 * one) := by
    have := representable_mul_one (a := 1) (k := 63) (by decide) (by decide)
    rwa [Nat.one_mul] at this
  refine roundQuotient_exact rep Binary64.one_pos ?_
  show (Binary64.ofNat (natValue n.whole)).units * (tenPower 0).units = _
  rw [units, units_tenPower (by decide), Nat.pow_zero, Nat.one_mul]

theorem le_units_of_above (integer : n.IsInteger) (finite : n.toBinary64? = some x)
    (h : 2 ^ 63 + 1024 < natValue n.whole) : (2 ^ 52 + 1) * 2 ^ 11 * one ≤ x.units := by
  have size : UInt64.size = 2 ^ 64 := rfl
  -- so much is left of the digits, and of the power of ten for those that were dropped
  obtain ⟨p, q, ppos, hp, hq, product⟩ : ∃ p q, 0 < p ∧
      p * one ≤ (Binary64.ofNat (absorb 0 n.whole).1).units ∧
      q * one ≤ (tenPower (absorb 0 n.whole).2).units ∧ (2 ^ 52 + 1) * 2 ^ 11 ≤ p * q := by
    rcases Nat.lt_or_ge (natValue n.whole) (2 ^ 64) with small | large
    · rw [absorb_of_lt small]
      refine ⟨(2 ^ 52 + 1) * 2 ^ 11, 10 ^ 0, by decide, le_units_ofNat_above h, ?_, by decide⟩
      show 10 ^ 0 * one ≤ (tenPower 0).units
      rw [units_tenPower (by decide)]
    · obtain ⟨dropped, most⟩ := absorb_of_ge (by decide) large
      have tens : 10 ^ 1 ≤ 10 ^ (absorb 0 n.whole).2 := Nat.pow_le_pow_right (by decide) dropped
      refine ⟨3 * 2 ^ 59, 1 * 2 ^ 3, by decide, ?_, ?_, by decide⟩
      · exact le_units_ofNat (by decide) (by decide) (by omega)
      · exact le_units_ofNat (by decide) (by decide) (Nat.le_trans (by decide) tens)
  have nonzero : (Binary64.ofNat (absorb 0 n.whole).1).units ≠ 0 :=
    Nat.ne_of_gt (Nat.lt_of_lt_of_le (Nat.mul_pos ppos Binary64.one_pos) hp)
  rw [units_of_isInteger integer finite nonzero]
  exact le_units_mul (by decide) (by decide) hp hq product

/-! ## The integer of a literal -/

theorem toInt?_of_not_isInteger (h : ¬n.IsInteger) : n.toInt? = none := by
  rw [toInt?, if_neg]
  rw [Bool.and_eq_true, List.isEmpty_iff, Option.isNone_iff_eq_none]
  exact h

/-- `-0` writes a double. -/
theorem toInt?_of_isInteger (integer : n.IsInteger) :
    n.toInt? = some n.int ∨ n.toInt? = none ∧ n.negative = true ∧ natValue n.whole = 0 := by
  obtain ⟨fraction, exponent⟩ := integer
  have plain : (n.fraction.isEmpty && n.exponent.isNone) = true := by
    rw [fraction, exponent]
    rfl
  rw [toInt?, if_pos plain, int]
  dsimp only
  cases n.negative with
  | false => exact .inl rfl
  | true =>
    by_cases zero : natValue n.whole = 0
    · exact .inr ⟨if_pos zero, rfl, zero⟩
    · exact .inl (if_neg zero)

theorem toInt64?_of_real (finite : n.toBinary64? = some x)
    (h : ∀ i, n.toInt? = some i → i < Int64.minValue.toInt ∨ UInt64.size ≤ i) :
    n.toInt64? = x.toInt64? := by
  have real : n.toNumber? = some (.real x) := by
    rw [toNumber?, finite]
    cases hi : n.toInt? with
    | none => rfl
    | some i =>
      refine if_neg ?_
      rw [Bool.and_eq_true, decide_eq_true_eq, decide_eq_true_eq]
      have := h i hi
      omega
  rw [Numeral.toInt64?, real]
  rfl

theorem toInt64?_of_not_isInteger (h : ¬n.IsInteger) (finite : n.toBinary64? = some x) :
    n.toInt64? = x.toInt64? := by
  refine toInt64?_of_real finite fun i hi => ?_
  rw [toInt?_of_not_isInteger h] at hi
  cases hi

theorem isSome_toNumber?_of_finite (finite : n.toBinary64? = some x) : n.toNumber?.isSome = true := by
  rw [toNumber?, finite]
  split
  · split
    · rfl
    · rfl
  · rfl

theorem exists_finite_of_isSome (clean : n.toNumber?.isSome = true) (real : n.toInt? = none) :
    ∃ x, n.toBinary64? = some x := by
  rw [toNumber?, real] at clean
  exact Option.isSome_iff_exists.mp (by simpa using clean)

theorem toInt64?_of_within (integer : n.IsInteger) (clean : n.toNumber?.isSome = true)
    (lo : Int64.minValue.toInt ≤ n.int) (hi : n.int < UInt64.size) :
    n.toInt64? = int64? n.int := by
  rcases toInt?_of_isInteger integer with whole | ⟨none, negative, zero⟩
  · have number : n.toNumber? = some (.int n.int) := by
      rw [toNumber?, whole]
      refine if_pos ?_
      rw [Bool.and_eq_true, decide_eq_true_eq, decide_eq_true_eq]
      exact ⟨lo, hi⟩
    rw [Numeral.toInt64?, number]
    rfl
  · -- the double is a zero
    obtain ⟨x, finite⟩ := exists_finite_of_isSome clean none
    have int : n.int = 0 := by rw [Numeral.int, if_pos negative, zero, Nat.cast_zero, neg_zero]
    have nothing : absorb 0 n.whole = (0, 0) := by
      rw [natValue_eq] at zero
      rw [absorb_of_lt (by rw [zero]; decide), zero]
    have units : x.units = 0 * one := by
      rw [toBinary64?_of_isInteger integer, nothing] at finite
      obtain ⟨b, hb, rfl⟩ := Option.map_eq_some_iff.mp finite
      rw [Nat.zero_mul]
      show b.units = 0
      exact units_of_zero (by decide) hb
    rw [toInt64?_of_real finite (by rw [none]; intro i hi; cases hi), toInt64?_of_units units, int]
    split
    · rfl
    · rfl

theorem toInt64?_of_outside (integer : n.IsInteger) (finite : n.toBinary64? = some x)
    (outside : n.int < Int64.minValue.toInt ∨ UInt64.size ≤ n.int) :
    n.toInt64? = x.toInt64? := by
  refine toInt64?_of_real finite fun i hi => ?_
  rcases toInt?_of_isInteger integer with whole | ⟨none, -⟩
  · rw [whole] at hi
    rwa [← Option.some.inj hi]
  · rw [none] at hi
    cases hi

theorem value_of_isInteger (integer : n.IsInteger) : n.value = n.int := by
  have scale : n.scale = 0 := by
    rw [Numeral.scale, integer.1, integer.2]
    rfl
  have significand : n.significand = natValue n.whole := by
    rw [Numeral.significand, integer.1, List.append_nil]
  rw [value, scale, significand, int, zpow_zero, mul_one]
  split
  · push_cast
    rw [neg_one_mul]
  · push_cast
    rw [one_mul]

/-- Beyond the tie there is no integer of 64 bits. -/
theorem toInt64?_of_above (integer : n.IsInteger) (finite : n.toBinary64? = some x)
    (h : 2 ^ 63 + 1024 < natValue n.whole)
    (outside : n.int < Int64.minValue.toInt ∨ UInt64.size ≤ n.int) : n.toInt64? = none := by
  have units := le_units_of_above integer finite h
  have pos := Binary64.one_pos
  rw [toInt64?_of_outside integer finite outside]
  exact toInt64?_of_lt (by omega)

/-- An integer beyond 64 bits is none, but for one that is rounded to -2^63. -/
theorem toInt64?_of_isInteger (integer : n.IsInteger) (finite : n.toBinary64? = some x)
    (i : Int64) : n.toInt64? = some i ↔
      n.int = i.toInt ∨ i = Int64.minValue ∧ -2 ^ 63 - 1024 ≤ n.int ∧ n.int < -2 ^ 63 := by
  have least : Int64.minValue.toInt = -2 ^ 63 := rfl
  have size : (UInt64.size : Int) = 2 ^ 64 := rfl
  have lo := Int64.le_toInt i
  have hi := Int64.toInt_lt i
  have whole : n.int = if n.negative then -(natValue n.whole : Int) else natValue n.whole := rfl
  rcases Int.lt_or_le n.int (-2 ^ 63) with below | above
  · have outside : n.int < Int64.minValue.toInt ∨ UInt64.size ≤ n.int := .inl below
    have negative : n.negative = true := by
      refine Decidable.byContradiction fun positive => ?_
      rw [if_neg positive] at whole
      omega
    rw [if_pos negative] at whole
    rcases Nat.lt_or_ge (2 ^ 63 + 1024) (natValue n.whole) with far | near
    · rw [toInt64?_of_above integer finite far outside]
      constructor
      · intro h
        cases h
      · omega
    · have units := units_of_tie integer finite (by omega) near
      have sign : x.negative = true := by
        rw [← negative]
        exact negative_of_finite finite
      rw [toInt64?_of_outside integer finite outside, toInt64?_of_units units, if_pos sign,
        int64?_eq_some, ← Int64.toInt_inj, least]
      omega
  · rcases Int.lt_or_le n.int (2 ^ 64) with within | beyond
    · have clean := isSome_toNumber?_of_finite finite
      rw [toInt64?_of_within integer clean above within, int64?_eq_some, eq_comm]
      omega
    · have outside : n.int < Int64.minValue.toInt ∨ UInt64.size ≤ n.int := .inr beyond
      have far : 2 ^ 63 + 1024 < natValue n.whole := by
        split at whole
        · omega
        · omega
      rw [toInt64?_of_above integer finite far outside]
      constructor
      · intro h
        cases h
      · omega

/-! ## Short literals -/

/-- The sign is that of the double, so whole numbers are all that rounding has to keep. -/
theorem toInt64?_iff_of_units {q : ℚ} (nonneg : 0 ≤ q)
    (units : ∀ m : Nat, x.units = m * one ↔ q = m) (i : Int64) :
    x.toInt64? = some i ↔ (if x.negative then -1 else 1) * q = i.toInt := by
  have signed : ∀ j : Int, (x.units : Int) = j * one ↔ q = j := by
    intro j
    rcases Int.lt_or_le j 0 with below | above
    · have product : j * (one : Int) < 0 :=
        Int.mul_neg_of_neg_of_pos below (Int.natCast_pos.mpr Binary64.one_pos)
      have less : (j : ℚ) < 0 := Int.cast_lt_zero.mpr below
      constructor
      · intro h
        omega
      · intro h
        exact absurd nonneg (not_le.mpr (h ▸ less))
    · obtain ⟨m, rfl⟩ := Int.eq_ofNat_of_zero_le above
      rw [← Int.natCast_mul, Int.natCast_inj, Int.cast_natCast]
      exact units m
  rw [Binary64.toInt64?_eq_some, Binary64.value]
  cases x.negative with
  | false => rw [if_neg Bool.false_ne_true, if_neg Bool.false_ne_true, one_mul, signed]
  | true =>
    rw [if_pos rfl, if_pos rfl, neg_one_mul, neg_eq_iff_eq_neg, neg_eq_iff_eq_neg,
      ← Int.neg_mul, signed, Int.cast_neg]

theorem toInt64?_of_isShort (short : n.IsShort) (finite : n.toBinary64? = some x) (i : Int64) :
    n.toInt64? = some i ↔ n.value = i.toInt := by
  have nonneg : (0 : ℚ) ≤ n.significand * 10 ^ n.scale :=
    mul_nonneg (Nat.cast_nonneg _) (zpow_nonneg (by norm_num) _)
  have size : (n.significand : ℚ) * 10 ^ n.scale < 2 ^ 53 := by
    have sign : |if n.negative then (-1 : ℚ) else 1| = 1 := by
      split
      · rw [abs_neg, abs_one]
      · exact abs_one
    have := short.value
    rwa [value, abs_mul, sign, one_mul, abs_of_nonneg nonneg] at this
  by_cases integer : n.IsInteger
  · have small := short.value
    rw [value_of_isInteger integer] at small ⊢
    have small : |n.int| < 2 ^ 53 := by exact_mod_cast small
    have lo := (abs_lt.mp small).1
    rw [toInt64?_of_isInteger integer finite, Int.cast_inj]
    omega
  · have few : n.significand < UInt64.size := Nat.lt_trans short.significand (by decide)
    rw [toInt64?_of_not_isInteger integer finite]
    rw [toBinary64?_of_lt few] at finite
    obtain ⟨b, hb, rfl⟩ := Option.map_eq_some_iff.mp finite
    have units := units_scale?_iff short.significand short.scale size hb
    exact toInt64?_iff_of_units (x := { b with negative := n.negative }) nonneg units i

/-! ## The text of a literal -/

theorem printNumeral_of_isInteger (integer : n.IsInteger) :
    Json.printNumeral n = (if n.negative then ['-'] else []) ++ Json.printDigits n.whole := by
  rw [Json.printNumeral, integer.1, integer.2]
  exact (List.append_nil _).trans (List.append_nil _)

theorem isDigit_of_mem_printDigits {ds : List Digit} {c : Char} (h : c ∈ Json.printDigits ds) :
    Text.isDigit c = true := by
  obtain ⟨d, -, rfl⟩ := List.mem_map.mp h
  have table : ∀ d : Digit, Text.isDigit (Nat.digitChar d.val) = true := by decide
  exact table d

theorem ofDigitChars_printDigits (ds : List Digit) (w : Nat) :
    Nat.ofDigitChars 10 (Json.printDigits ds) w = follow w ds := by
  induction ds generalizing w with
  | nil => rfl
  | cons d ds ih =>
    have table : ∀ d : Digit, (Nat.digitChar d.val).toNat - '0'.toNat = d.val := by decide
    show Nat.ofDigitChars 10 (Nat.digitChar d.val :: Json.printDigits ds) w = _
    rw [Nat.ofDigitChars_cons, table, ih, follow_cons, Nat.mul_comm]

theorem readNat_printDigits {ds : List Digit} (some_digit : ds ≠ []) :
    Text.readNat (Json.printDigits ds) = some (natValue ds) := by
  have nonempty : (Json.printDigits ds).isEmpty = false := by
    cases ds with
    | nil => exact absurd rfl some_digit
    | cons d ds => rfl
  have digits : (Json.printDigits ds).all Text.isDigit = true :=
    List.all_eq_true.mpr fun _ h => isDigit_of_mem_printDigits h
  rw [Text.readNat, nonempty, digits, ofDigitChars_printDigits, natValue_eq]
  rfl

theorem ne_nil_of_isWhole {ds : List Digit} (whole : IsWhole ds) : ds ≠ [] := by
  rcases whole with rfl | ⟨d, rest, rfl, -⟩
  · exact List.cons_ne_nil _ _
  · exact List.cons_ne_nil _ _

theorem readInt_printNumeral (integer : n.IsInteger) (whole : IsWhole n.whole) :
    Text.readInt (Json.printNumeral n) = some n.int := by
  have read := readNat_printDigits (ne_nil_of_isWhole whole)
  rw [printNumeral_of_isInteger integer, int]
  cases n.negative with
  | true =>
    show (Text.readNat (Json.printDigits n.whole)).map (fun v => -(v : Int)) = _
    rw [read]
    rfl
  | false =>
    show Text.readInt (Json.printDigits n.whole) = _
    rw [Text.readInt_of_digits fun _ h => isDigit_of_mem_printDigits h, read]
    rfl

theorem isWhole_of_spelled {bs : Bytes} (h : n.Spelled bs) : IsWhole n.whole := by
  cases h with
  | mk whole _ _ => exact whole

/-- Such a literal is spelled in one way only. -/
theorem bytes_of_spelled (integer : n.IsInteger) {bs : Bytes} (h : n.Spelled bs) :
    bs = signBytes n.negative ++ n.whole.map Digit.byte := by
  obtain ⟨negative, whole, fraction, exponent⟩ := n
  obtain ⟨rfl, rfl⟩ : fraction = [] ∧ exponent = none := integer
  cases h with
  | mk _ hf he =>
    cases hf with
    | absent => cases he with | absent => rw [List.append_nil, List.append_nil]
    | present some_digit => exact absurd rfl some_digit

theorem eq_print_of_spelled (integer : n.IsInteger) {s : String}
    (h : n.Spelled (Text.toUtf8 s)) : s = String.ofList (Json.printNumeral n) := by
  have print := spelled_printNumeral (isWhole_of_spelled h)
  rw [← Text.toUtf8_ofList] at print
  have same := (bytes_of_spelled integer h).trans (bytes_of_spelled integer print).symm
  have := congrArg Text.ofUtf8 same
  rwa [Text.ofUtf8_toUtf8, Text.ofUtf8_toUtf8, Option.some.injEq] at this

theorem readInt64_of_spelled (integer : n.IsInteger) {s : String}
    (h : n.Spelled (Text.toUtf8 s)) : Text.readInt64 (Text.trim s) = int64? n.int := by
  have chars : s.toList = Json.printNumeral n := by
    rw [eq_print_of_spelled integer h, String.toList_ofList]
  have no_blank : ∀ c ∈ s.toList, Text.isBlank c = false := by
    intro c hc
    rw [chars, printNumeral_of_isInteger integer] at hc
    rcases List.mem_append.mp hc with sign | digit
    · split at sign
      · rw [List.mem_singleton.mp sign]
        decide
      · cases sign
    · exact Text.isBlank_of_isDigit (isDigit_of_mem_printDigits digit)
  have read := readInt_printNumeral integer (isWhole_of_spelled h)
  rw [Text.trim_of_no_blank no_blank, Text.readInt64, chars, read]
  rfl

end Numeral

end CarCatalog

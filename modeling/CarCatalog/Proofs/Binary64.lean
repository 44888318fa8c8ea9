import CarCatalog.Binary64
import Mathlib.Tactic.Ring

/-!
# Rounding

A quotient of units is rounded on a grid: to a whole number of grid steps, the step so wide that 53
bits are left.  The doubles are thus the numbers of 53 bits times a power of two (`Representable`), and
rounding never crosses one.

    num = c * den → roundQuotient num den = c                            (roundQuotient_exact)
    c * den ≤ num → c ≤ roundQuotient num den                            (le_roundQuotient)
    num ≤ c * den → roundQuotient num den ≤ c                            (roundQuotient_le)
    2 * |num - roundQuotient num den * den| ≤ grid num den * den         (roundQuotient_error)

for a representable `c` up to `limit`.  Two places matter to integers: 2^63, where a tie goes down, and
the powers of ten up to 308, by which a number of 53 bits is divided to a whole one only exactly.

    2^63 ≤ v ≤ 2^63 + 1024 → (ofNat v).units = 2^63 * one                (units_ofNat_tie)
    ((ofNat s).div (tenPower k)).units = m * one ↔ s = m * 10^k          (units_div_tenPower_iff)
-/

namespace CarCatalog.Binary64

/-- The units of a double: 53 bits, times a power of two, and not infinite. -/
def Representable (c : Nat) : Prop := c ≤ limit ∧ ∃ a k, a < 2 ^ 53 ∧ c = a * 2 ^ k

/-- The width of a step of the grid on which a quotient is rounded. -/
def grid (num den : Nat) : Nat := 2 ^ (Nat.log2 (num / den) - 52)

/-! ## The nearest whole number -/

theorem div_le_nearest (num den : Nat) : num / den ≤ nearest num den := by
  unfold nearest
  dsimp only
  split
  · exact Nat.le_refl _
  · split
    · exact Nat.le_succ _
    · exact Nat.le_add_right _ _

theorem le_nearest {num den m : Nat} (pos : 0 < den) (h : m * den ≤ num) : m ≤ nearest num den :=
  Nat.le_trans ((Nat.le_div_iff_mul_le pos).mpr h) (div_le_nearest num den)

theorem nearest_le {num den m : Nat} (pos : 0 < den) (h : num ≤ m * den) : nearest num den ≤ m := by
  have split := Nat.div_add_mod num den
  have rest := Nat.mod_lt num pos
  have floor : num / den ≤ m := Nat.div_le_of_le_mul (by rwa [Nat.mul_comm])
  rcases Nat.lt_or_ge (num / den) m with below | above
  · unfold nearest
    dsimp only
    split
    · exact floor
    · split
      · exact below
      · omega
  · -- the quotient is `m` itself
    have whole : num / den = m := Nat.le_antisymm floor above
    have none : num % den = 0 := by
      rw [whole, Nat.mul_comm] at split
      omega
    unfold nearest
    dsimp only
    rw [none, whole, if_pos (by omega)]

theorem nearest_error (num : Nat) {den : Nat} (pos : 0 < den) :
    2 * num ≤ (2 * nearest num den + 1) * den ∧ 2 * nearest num den * den ≤ 2 * num + den := by
  have split := Nat.div_add_mod num den
  have rest := Nat.mod_lt num pos
  have product : ∀ m : Nat, (2 * m + 1) * den = 2 * (den * m) + den ∧
      2 * m * den = 2 * (den * m) ∧ den * (m + 1) = den * m + den := by
    intro m
    refine ⟨?_, ?_, Nat.mul_succ den m⟩
    · rw [Nat.add_mul, Nat.one_mul, Nat.mul_assoc, Nat.mul_comm m]
    · rw [Nat.mul_assoc, Nat.mul_comm m]
  obtain ⟨here, here', next⟩ := product (num / den)
  obtain ⟨after, after', -⟩ := product (num / den + 1)
  unfold nearest
  dsimp only
  split
  · omega
  · split
    · omega
    · have tie : 2 * (num % den) = den := by omega
      have parity := Nat.mod_two_eq_zero_or_one (num / den)
      rcases parity with even | odd
      · simp only [even, Nat.add_zero]
        omega
      · simp only [odd]
        omega

/-! ## Rounding -/

theorem roundQuotient_eq (num den : Nat) :
    roundQuotient num den = min limit (nearest num (den * grid num den) * grid num den) := rfl

variable {num den c : Nat}

theorem grid_pos : 0 < grid num den := Nat.two_pow_pos _

/-- A quotient is at least as large as its leading bit. -/
theorem grid_bits (h : grid num den ≠ 1) : 2 ^ 52 * grid num den ≤ num / den := by
  have large : 52 < Nat.log2 (num / den) := by
    refine Nat.lt_of_not_le fun small => h ?_
    rw [grid, Nat.sub_eq_zero_of_le small, Nat.pow_zero]
  have nonzero : num / den ≠ 0 := by
    intro zero
    rw [zero, Nat.log2_zero] at large
    cases large
  have whole : 52 + (Nat.log2 (num / den) - 52) = Nat.log2 (num / den) := by omega
  rw [grid, ← Nat.pow_add, whole]
  exact Nat.log2_self_le nonzero

/-- A representable number is a whole number of steps, or below the leading bit of the quotient. -/
theorem steps_of_representable (rep : Representable c) (num den : Nat) :
    (∃ m, c = m * grid num den) ∨ c < 2 ^ 52 * grid num den ∧ grid num den ≠ 1 := by
  obtain ⟨-, a, k, bits, rfl⟩ := rep
  by_cases fine : Nat.log2 (num / den) - 52 ≤ k
  · refine .inl ⟨a * 2 ^ (k - (Nat.log2 (num / den) - 52)), ?_⟩
    rw [grid, Nat.mul_assoc, ← Nat.pow_add, Nat.sub_add_cancel fine]
  · right
    have coarse : k + 1 ≤ Nat.log2 (num / den) - 52 := by omega
    have step : 2 ^ (k + 1) ≤ grid num den := Nat.pow_le_pow_right (by decide) coarse
    have pos := Nat.two_pow_pos k
    rw [Nat.pow_succ] at step
    constructor
    · calc a * 2 ^ k < 2 ^ 53 * 2 ^ k := Nat.mul_lt_mul_of_pos_right bits pos
        _ = 2 ^ 52 * (2 ^ k * 2) := by rw [Nat.pow_succ 2 52, Nat.mul_assoc, Nat.mul_comm 2]
        _ ≤ 2 ^ 52 * grid num den := Nat.mul_le_mul_left _ step
    · omega

theorem le_roundQuotient (rep : Representable c) (pos : 0 < den) (h : c * den ≤ num) :
    c ≤ roundQuotient num den := by
  have width : 0 < den * grid num den := Nat.mul_pos pos grid_pos
  rw [roundQuotient_eq]
  refine Nat.le_min.mpr ⟨rep.1, ?_⟩
  rcases steps_of_representable rep num den with ⟨m, rfl⟩ | ⟨below, coarse⟩
  · refine Nat.mul_le_mul_right _ (le_nearest width ?_)
    rwa [Nat.mul_comm den, ← Nat.mul_assoc]
  · have bits : 2 ^ 52 * (den * grid num den) ≤ num := by
      have := (Nat.le_div_iff_mul_le pos).mp (grid_bits coarse)
      rwa [Nat.mul_comm den, ← Nat.mul_assoc]
    exact Nat.le_trans (Nat.le_of_lt below) (Nat.mul_le_mul_right _ (le_nearest width bits))

theorem roundQuotient_le (rep : Representable c) (pos : 0 < den) (h : num ≤ c * den) :
    roundQuotient num den ≤ c := by
  have width : 0 < den * grid num den := Nat.mul_pos pos grid_pos
  rw [roundQuotient_eq]
  refine Nat.le_trans (Nat.min_le_right _ _) ?_
  rcases steps_of_representable rep num den with ⟨m, rfl⟩ | ⟨below, coarse⟩
  · refine Nat.mul_le_mul_right _ (nearest_le width ?_)
    rwa [Nat.mul_comm den, ← Nat.mul_assoc]
  · -- the quotient would be less than its own leading bit
    have floor : num / den ≤ c := Nat.div_le_of_le_mul (by rwa [Nat.mul_comm])
    have bits := grid_bits coarse
    omega

theorem roundQuotient_exact (rep : Representable c) (pos : 0 < den) (h : num = c * den) :
    roundQuotient num den = c :=
  Nat.le_antisymm (roundQuotient_le rep pos (Nat.le_of_eq h))
    (le_roundQuotient rep pos (Nat.le_of_eq h.symm))

/-- A result that is not infinite is off by at most half a step. -/
theorem roundQuotient_error (pos : 0 < den) (finite : roundQuotient num den < limit) :
    2 * num ≤ (2 * roundQuotient num den + grid num den) * den ∧
      2 * roundQuotient num den * den ≤ 2 * num + grid num den * den := by
  have width : 0 < den * grid num den := Nat.mul_pos pos grid_pos
  have steps : roundQuotient num den = nearest num (den * grid num den) * grid num den := by
    rw [roundQuotient_eq] at finite ⊢
    omega
  obtain ⟨below, above⟩ := nearest_error num width
  rw [steps]
  generalize nearest num (den * grid num den) = m at *
  generalize grid num den = g at *
  have front : (2 * m + 1) * (den * g) = (2 * (m * g) + g) * den := by
    rw [Nat.add_mul, Nat.add_mul, Nat.one_mul, Nat.mul_comm den g, ← Nat.mul_assoc, Nat.mul_assoc 2]
  have back : 2 * m * (den * g) = 2 * (m * g) * den := by
    rw [Nat.mul_comm den g, ← Nat.mul_assoc, Nat.mul_assoc 2]
  rw [front] at below
  rw [back, Nat.mul_comm den g] at above
  exact ⟨below, above⟩

/-! ## Integers -/

/-- All that is needed of the two constants; their digits are never written out. -/
theorem one_spec : ∃ e, one = 2 ^ e ∧ limit = 2 ^ (1024 + e) ∧ 1024 ≤ e :=
  ⟨1074, by decide +kernel, by decide +kernel, by decide⟩

theorem pow_le_one {k : Nat} (h : k ≤ 1024) : 2 ^ k ≤ one := by
  obtain ⟨e, one, -, he⟩ := one_spec
  rw [one]
  exact Nat.pow_le_pow_right Nat.two_pos (Nat.le_trans h he)

theorem one_pos : 0 < one := Nat.le_trans (Nat.two_pow_pos 0) (pow_le_one (Nat.zero_le _))

theorem pow_mul_one_le {k : Nat} (h : k ≤ 1024) : 2 ^ k * one ≤ limit := by
  obtain ⟨e, one, limit, -⟩ := one_spec
  rw [one, limit, ← Nat.pow_add]
  exact Nat.pow_le_pow_right Nat.two_pos (Nat.add_le_add_right h e)

theorem one_le_limit : one ≤ limit := by
  obtain ⟨e, one, limit, -⟩ := one_spec
  rw [one, limit]
  exact Nat.pow_le_pow_right Nat.two_pos (Nat.le_add_left e 1024)

/-- The double of a whole number of 53 bits, times a power of two. -/
theorem representable_mul_one {a k : Nat} (bits : a < 2 ^ 53) (size : k ≤ 971) :
    Representable (a * 2 ^ k * one) := by
  obtain ⟨e, one_pow, -⟩ := one_spec
  refine ⟨?_, a, k + e, bits, ?_⟩
  · refine Nat.le_trans (Nat.mul_le_mul_right one ?_) (pow_mul_one_le (Nat.add_le_add_left size 53))
    rw [Nat.pow_add]
    exact Nat.mul_le_mul_right _ (Nat.le_of_lt bits)
  · rw [one_pow, Nat.mul_assoc, ← Nat.pow_add]

theorem representable_nat {n : Nat} (bits : n ≤ 2 ^ 53) : Representable (n * one) := by
  rcases Nat.lt_or_eq_of_le bits with below | rfl
  · have rep := representable_mul_one below (Nat.zero_le 971)
    rwa [Nat.pow_zero, Nat.mul_one] at rep
  · have double : 2 ^ 53 = 2 ^ 52 * 2 ^ 1 := by decide
    rw [double]
    exact representable_mul_one (by decide) (by decide)

theorem units_ofNat {n : Nat} (bits : n ≤ 2 ^ 53) : (ofNat n).units = n * one :=
  roundQuotient_exact (representable_nat bits) Nat.one_pos (Nat.mul_one _).symm

/-! ## Order -/

theorem nearest_mono {num num' den : Nat} (pos : 0 < den) (h : num ≤ num') :
    nearest num den ≤ nearest num' den := by
  rcases Nat.lt_or_eq_of_le (Nat.div_le_div_right (c := den) h) with less | same
  · -- a whole number lies between
    have above : num ≤ (num / den + 1) * den := by
      have split := Nat.div_add_mod num den
      have rest := Nat.mod_lt num pos
      rw [Nat.succ_mul, Nat.mul_comm]
      omega
    calc nearest num den ≤ num / den + 1 := nearest_le pos above
      _ ≤ num' / den := less
      _ ≤ nearest num' den := div_le_nearest num' den
  · have rest : num % den ≤ num' % den := by
      have split := Nat.div_add_mod num den
      have split' := Nat.div_add_mod num' den
      rw [same] at split
      omega
    unfold nearest
    dsimp only
    rw [same]
    split
    · split
      · exact Nat.le_refl _
      · split
        · exact Nat.le_succ _
        · exact Nat.le_add_right _ _
    · split
      · rw [if_neg (by omega), if_pos (by omega)]
      · have parity := Nat.mod_two_eq_zero_or_one (num' / den)
        rw [if_neg (by omega)]
        split
        · omega
        · exact Nat.le_refl _

/-- Quotients on different grids lie on either side of a power of two. -/
theorem exists_pow_between {num' : Nat} (h : num ≤ num')
    (apart : grid num den ≠ grid num' den) : ∃ k, num / den < 2 ^ k ∧ 2 ^ k ≤ num' / den := by
  have logs : Nat.log2 (num / den) ≤ Nat.log2 (num' / den) := by
    rcases Nat.eq_zero_or_pos (num / den) with zero | pos
    · rw [zero, Nat.log2_zero]
      exact Nat.zero_le _
    · have larger : num / den ≤ num' / den := Nat.div_le_div_right h
      refine (Nat.le_log2 (by omega)).mpr (Nat.le_trans (Nat.log2_self_le (by omega)) larger)
  have less : Nat.log2 (num / den) < Nat.log2 (num' / den) := by
    refine Nat.lt_of_le_of_ne logs fun same => apart ?_
    rw [grid, grid, same]
  have nonzero : num' / den ≠ 0 := by
    intro zero
    rw [zero, Nat.log2_zero] at less
    cases less
  refine ⟨Nat.log2 (num' / den), ?_, Nat.log2_self_le nonzero⟩
  calc num / den < 2 ^ (Nat.log2 (num / den) + 1) := Nat.lt_log2_self
    _ ≤ 2 ^ Nat.log2 (num' / den) := Nat.pow_le_pow_right Nat.two_pos less

/-- Rounding keeps the order, from one grid to the next as well. -/
theorem roundQuotient_mono {num' : Nat} (pos : 0 < den) (h : num ≤ num') :
    roundQuotient num den ≤ roundQuotient num' den := by
  by_cases same : grid num den = grid num' den
  · have width : 0 < den * grid num' den := Nat.mul_pos pos grid_pos
    have steps := Nat.mul_le_mul_right (grid num' den) (nearest_mono width h)
    rw [roundQuotient_eq, roundQuotient_eq, same]
    omega
  · obtain ⟨k, below, above⟩ := exists_pow_between h same
    have below : num ≤ 2 ^ k * den := Nat.le_of_lt ((Nat.div_lt_iff_lt_mul pos).mp below)
    have above : 2 ^ k * den ≤ num' := (Nat.le_div_iff_mul_le pos).mp above
    rcases Nat.le_total (2 ^ k) limit with finite | infinite
    · have rep : Representable (2 ^ k) := ⟨finite, 1, k, by decide, (Nat.one_mul _).symm⟩
      exact Nat.le_trans (roundQuotient_le rep pos below) (le_roundQuotient rep pos above)
    · -- the larger one is infinite
      have rep : Representable limit := by
        obtain ⟨e, -, limit, -⟩ := one_spec
        exact ⟨Nat.le_refl _, 1, 1024 + e, by decide, by rw [limit, Nat.one_mul]⟩
      have reach := Nat.le_trans (Nat.mul_le_mul_right den infinite) above
      exact Nat.le_trans (Nat.min_le_left _ _) (le_roundQuotient rep pos reach)

/-! ## Around 2^63

Here the grid is 2048, and half a step above 2^63 is a tie, which goes down. -/

theorem nearest_mul {m d : Nat} (pos : 0 < c) : nearest (m * c) (d * c) = nearest m d := by
  have double : 2 * (m % d * c) = 2 * (m % d) * c := (Nat.mul_assoc _ _ _).symm
  unfold nearest
  dsimp only
  rw [Nat.mul_div_mul_right _ _ pos, Nat.mul_mod_mul_right, double]
  simp only [Nat.mul_lt_mul_right pos]

theorem grid_mul_one {v : Nat} (lo : 2 ^ 63 ≤ v) (hi : v < 2 ^ 64) :
    grid (v * one) 1 = 2048 * one := by
  obtain ⟨e, one, -, -⟩ := one_spec
  have nonzero : v * 2 ^ e ≠ 0 := Nat.ne_of_gt (Nat.mul_pos (by omega) (Nat.two_pow_pos e))
  have lead : Nat.log2 (v * 2 ^ e) = 63 + e := by
    refine (Nat.log2_eq_iff nonzero).mpr ⟨?_, ?_⟩
    · rw [Nat.pow_add]
      exact Nat.mul_le_mul_right _ lo
    · rw [Nat.add_right_comm, Nat.pow_add]
      exact Nat.mul_lt_mul_of_pos_right hi (Nat.two_pow_pos e)
  have steps : 63 + e - 52 = 11 + e := by omega
  rw [grid, one, Nat.div_one, lead, steps, Nat.pow_add]

theorem units_ofNat_near {v : Nat} (lo : 2 ^ 63 ≤ v) (hi : v < 2 ^ 64) :
    (ofNat v).units = nearest v 2048 * (2048 * one) := by
  have bits : nearest v 2048 ≤ 2 ^ 53 := nearest_le (by decide) (Nat.le_of_lt hi)
  have size : nearest v 2048 * (2048 * one) ≤ limit := by
    have top : 2 ^ 53 * (2048 * one) = 2 ^ 64 * one := by omega
    refine Nat.le_trans (Nat.mul_le_mul_right _ bits) ?_
    rw [top]
    exact pow_mul_one_le (by decide)
  show roundQuotient (v * one) 1 = _
  rw [roundQuotient_eq, grid_mul_one lo hi, Nat.one_mul, nearest_mul one_pos]
  exact Nat.min_eq_right size

/-- Up to half a step above, 2^63 is what is left. -/
theorem units_ofNat_tie {v : Nat} (lo : 2 ^ 63 ≤ v) (hi : v ≤ 2 ^ 63 + 1024) :
    (ofNat v).units = 2 ^ 63 * one := by
  have down : nearest v 2048 = 2 ^ 52 := by
    unfold nearest
    dsimp only
    split
    · omega
    · split
      · omega
      · omega
  have product : 2 ^ 52 * 2048 = 2 ^ 63 := rfl
  rw [units_ofNat_near lo (by omega), down, ← Nat.mul_assoc, product]

theorem le_units_ofNat {a v k : Nat} (bits : a < 2 ^ 53) (size : k ≤ 971) (h : a * 2 ^ k ≤ v) :
    a * 2 ^ k * one ≤ (ofNat v).units := by
  refine le_roundQuotient (representable_mul_one bits size) Nat.one_pos ?_
  rw [Nat.mul_one]
  exact Nat.mul_le_mul_right one h

theorem le_units_ofNat_above {v : Nat} (h : 2 ^ 63 + 1024 < v) :
    (2 ^ 52 + 1) * 2 ^ 11 * one ≤ (ofNat v).units := by
  rcases Nat.lt_or_ge v (2 ^ 63 + 2048) with close | far
  · have up : 2 ^ 52 + 1 ≤ nearest v 2048 := by
      unfold nearest
      dsimp only
      split
      · omega
      · split
        · omega
        · omega
    have steps : (2 ^ 52 + 1) * 2 ^ 11 * one = (2 ^ 52 + 1) * (2048 * one) := by
      omega
    rw [units_ofNat_near (by omega) (by omega), steps]
    exact Nat.mul_le_mul_right _ up
  · exact le_units_ofNat (by decide) (by decide) (by omega)

theorem le_units_mul {a k : Nat} {x y : Binary64} {p q : Nat} (bits : a < 2 ^ 53) (size : k ≤ 971)
    (hx : p * one ≤ x.units) (hy : q * one ≤ y.units) (h : a * 2 ^ k ≤ p * q) :
    a * 2 ^ k * one ≤ (x.mul y).units := by
  refine le_roundQuotient (representable_mul_one bits size) one_pos ?_
  calc a * 2 ^ k * one * one ≤ p * q * one * one :=
        Nat.mul_le_mul_right one (Nat.mul_le_mul_right one h)
    _ = p * one * (q * one) := by ring
    _ ≤ x.units * y.units := Nat.mul_le_mul hx hy

/-! ## Values -/

theorem natAbs_value (x : Binary64) : x.value.natAbs = x.units := by
  unfold value
  split
  · rw [Int.natAbs_neg, Int.natAbs_natCast]
  · rw [Int.natAbs_natCast]

theorem value_nonneg {x : Binary64} (h : x.negative = false) : 0 ≤ x.value := by
  rw [value, h, if_neg Bool.false_ne_true]
  exact Int.natCast_nonneg _

theorem value_nonpos {x : Binary64} (h : x.negative = true) : x.value ≤ 0 := by
  rw [value, if_pos h]
  omega

/-- Integers are rounded in their order. -/
theorem value_ofInt_mono {i j : Int} (h : i ≤ j) : (ofInt i).value ≤ (ofInt j).value := by
  have larger : ∀ {m n : Nat}, m ≤ n → roundQuotient (m * one) 1 ≤ roundQuotient (n * one) 1 :=
    fun h => roundQuotient_mono Nat.one_pos (Nat.mul_le_mul_right one h)
  by_cases neg : i < 0
  · by_cases neg' : j < 0
    · have units := larger (show j.natAbs ≤ i.natAbs by omega)
      simp only [value, ofInt, decide_eq_true neg, decide_eq_true neg', if_true]
      omega
    · exact Int.le_trans (value_nonpos (decide_eq_true neg)) (value_nonneg (decide_eq_false neg'))
  · have neg' : ¬j < 0 := by omega
    have units := larger (show i.natAbs ≤ j.natAbs by omega)
    simp only [value, ofInt, decide_eq_false neg, decide_eq_false neg', if_neg Bool.false_ne_true]
    omega

/-- An integer of 53 bits is a double. -/
theorem value_ofInt {i : Int} (bits : i.natAbs ≤ 2 ^ 53) : (ofInt i).value = i * one := by
  have units : roundQuotient (i.natAbs * one) 1 = i.natAbs * one :=
    roundQuotient_exact (representable_nat bits) Nat.one_pos (Nat.mul_one _).symm
  by_cases neg : i < 0
  · have size : (i.natAbs : Int) = -i := by omega
    simp only [value, ofInt, decide_eq_true neg, if_true, units]
    rw [Int.natCast_mul, size, Int.neg_mul, Int.neg_neg]
  · have size : (i.natAbs : Int) = i := by omega
    simp only [value, ofInt, decide_eq_false neg, if_neg Bool.false_ne_true, units]
    rw [Int.natCast_mul, size]

theorem ofInt_natCast (n : Nat) : ofInt n = ofNat n := by
  have nonneg : ¬(n : Int) < 0 := by omega
  rw [ofInt, ofNat, Int.natAbs_natCast, decide_eq_false nonneg]

theorem of_value {x : Binary64} {a : Int} (h : x.value = a * one) :
    x.units = a.natAbs * one ∧ a = if x.negative then -(a.natAbs : Int) else a.natAbs := by
  have units : x.units = a.natAbs * one := by
    rw [← natAbs_value, h, Int.natAbs_mul, Int.natAbs_natCast]
  refine ⟨units, ?_⟩
  have nonzero : (one : Int) ≠ 0 := Int.natCast_ne_zero.mpr (Nat.ne_of_gt one_pos)
  refine Int.eq_of_mul_eq_mul_right nonzero ?_
  rw [← h, value, units, Int.natCast_mul]
  split
  · rw [Int.neg_mul]
  · rfl

/-- A product of integers that has 53 bits is not rounded. -/
theorem value_mul {x y : Binary64} {a b : Int} (hx : x.value = a * one) (hy : y.value = b * one)
    (bits : (a * b).natAbs ≤ 2 ^ 53) : (x.mul y).value = a * b * one := by
  obtain ⟨ux, sx⟩ := of_value hx
  obtain ⟨uy, sy⟩ := of_value hy
  have product : x.units * y.units = (a * b).natAbs * one * one := by
    rw [ux, uy, Int.natAbs_mul]
    ring
  have units : roundQuotient (x.units * y.units) one = (a * b).natAbs * one :=
    roundQuotient_exact (representable_nat bits) one_pos product
  have value : (x.mul y).value = (if x.negative != y.negative then -1 else 1) *
      ((a.natAbs : Int) * b.natAbs * one) := by
    rw [value, mul]
    dsimp only
    rw [units, Int.natAbs_mul, Int.natCast_mul, Int.natCast_mul]
    split
    · rw [Int.neg_one_mul]
    · rw [Int.one_mul]
  rw [value]
  generalize (a.natAbs : Int) = m at *
  generalize (b.natAbs : Int) = n at *
  subst sx sy
  generalize (one : Int) = scale
  cases x.negative with
  | true =>
    cases y.negative with
    | true => simp
    | false => simp
  | false =>
    cases y.negative with
    | true => simp
    | false => simp

/-- A double is read as the integer it is. -/
theorem toInt64?_eq_some {x : Binary64} {i : Int64} :
    x.toInt64? = some i ↔ x.value = i.toInt * one := by
  have dvd : x.units % one = 0 ↔ (one : Int) ∣ x.value := by
    rw [← Nat.dvd_iff_mod_eq_zero, ← natAbs_value, Int.ofNat_dvd_left]
  unfold toInt64? toInt?
  constructor
  · intro h
    split at h
    · next whole =>
      have : i.toInt = x.value.tdiv one := int64?_eq_some.mp h
      rw [this, Int.tdiv_mul_cancel (dvd.mp whole)]
    · cases h
  · intro h
    have whole : (one : Int) ∣ x.value := ⟨i.toInt, by rw [h, Int.mul_comm]⟩
    have nonzero : (one : Int) ≠ 0 := by
      have := one_pos
      omega
    rw [if_pos (dvd.mpr whole), Option.bind_some, truncate, h, Int.mul_tdiv_cancel _ nonzero]
    exact int64?_eq_some.mpr rfl

theorem toInt64?_of_units {x : Binary64} {m : Nat} (h : x.units = m * one) :
    x.toInt64? = int64? (if x.negative then -(m : Int) else m) := by
  have nonzero : (one : Int) ≠ 0 := Int.natCast_ne_zero.mpr (Nat.ne_of_gt one_pos)
  have product : x.value = (if x.negative then -(m : Int) else m) * one := by
    unfold value
    rw [h]
    split
    · rw [Int.natCast_mul, Int.neg_mul]
    · rw [Int.natCast_mul]
  refine Option.ext fun i => ?_
  rw [toInt64?_eq_some, int64?_eq_some, product, eq_comm]
  exact Int.mul_eq_mul_right_iff nonzero

theorem toInt64?_of_lt {x : Binary64} (h : 2 ^ 63 * one < x.units) : x.toInt64? = none := by
  refine Option.eq_none_iff_forall_ne_some.mpr fun i hi => ?_
  have units : x.units = i.toInt.natAbs * one := by
    rw [← natAbs_value, toInt64?_eq_some.mp hi, Int.natAbs_mul, Int.natAbs_natCast]
  rw [units] at h
  have large := Nat.lt_of_mul_lt_mul_right h
  have lo := Int64.le_toInt i
  have hi := Int64.toInt_lt i
  omega

/-! ## Powers of ten -/

theorem units_tenPower {k : Nat} (bits : 10 ^ k < 2 ^ 53) : (tenPower k).units = 10 ^ k * one :=
  units_ofNat (Nat.le_of_lt bits)

theorem units_mul_tenPower {s k : Nat} (pos : 0 < s) (bits : s * 10 ^ k < 2 ^ 53) :
    ((ofNat s).mul (tenPower k)).units = s * 10 ^ k * one := by
  have tens : 0 < 10 ^ k := Nat.pow_pos (by decide)
  have left : s < 2 ^ 53 := Nat.lt_of_le_of_lt (Nat.le_mul_of_pos_right s tens) bits
  have right : 10 ^ k < 2 ^ 53 := Nat.lt_of_le_of_lt (Nat.le_mul_of_pos_left _ pos) bits
  show roundQuotient ((ofNat s).units * (tenPower k).units) one = _
  rw [units_ofNat (Nat.le_of_lt left), units_tenPower right]
  refine roundQuotient_exact (representable_nat (Nat.le_of_lt bits)) one_pos ?_
  rw [Nat.mul_mul_mul_comm, Nat.mul_assoc (s * 10 ^ k)]

/-- A quotient of whole numbers of 53 bits is rounded to a whole number only if it is one: were it none,
it would be off by more than half a step. -/
theorem roundQuotient_eq_nat_iff {s t m : Nat} (bits : s < 2 ^ 53) (tpos : 0 < t)
    (tbits : t < 2 ^ 53) : roundQuotient (s * one * one) (t * one) = m * one ↔ s = m * t := by
  have pos : 0 < t * one := Nat.mul_pos tpos one_pos
  constructor
  · intro h
    have bound : roundQuotient (s * one * one) (t * one) ≤ s * one := by
      refine roundQuotient_le (representable_nat (Nat.le_of_lt bits)) pos
        (Nat.mul_le_mul_left _ ?_)
      exact Nat.le_mul_of_pos_left one tpos
    have finite : roundQuotient (s * one * one) (t * one) < limit := by
      have top := pow_mul_one_le (k := 53) (by decide)
      have := Nat.mul_lt_mul_of_pos_right bits one_pos
      omega
    obtain ⟨below, above⟩ := roundQuotient_error pos finite
    have step : grid (s * one * one) (t * one) * t < 2 * one := by
      by_cases fine : grid (s * one * one) (t * one) = 1
      · have := pow_le_one (k := 53) (by decide)
        rw [fine]
        omega
      · have lead := (Nat.le_div_iff_mul_le pos).mp (grid_bits fine)
        rw [← Nat.mul_assoc] at lead
        have lead := Nat.le_of_mul_le_mul_right lead one_pos
        have := Nat.mul_lt_mul_of_pos_right bits one_pos
        rw [Nat.mul_assoc] at lead
        omega
    rw [h] at below above
    generalize grid (s * one * one) (t * one) = g at *
    have below : 2 * (s * one) ≤ 2 * (m * t * one) + g * t := by
      refine Nat.le_of_mul_le_mul_right ?_ one_pos
      calc 2 * (s * one) * one = 2 * (s * one * one) := by ring
        _ ≤ (2 * (m * one) + g) * (t * one) := below
        _ = (2 * (m * t * one) + g * t) * one := by ring
    have above : 2 * (m * t * one) ≤ 2 * (s * one) + g * t := by
      refine Nat.le_of_mul_le_mul_right ?_ one_pos
      calc 2 * (m * t * one) * one = 2 * (m * one) * (t * one) := by ring
        _ ≤ 2 * (s * one * one) + g * (t * one) := above
        _ = (2 * (s * one) + g * t) * one := by ring
    rcases Nat.lt_trichotomy s (m * t) with less | same | more
    · have := Nat.mul_le_mul_right one (Nat.succ_le_of_lt less)
      rw [Nat.succ_mul] at this
      omega
    · exact same
    · have := Nat.mul_le_mul_right one (Nat.succ_le_of_lt more)
      rw [Nat.succ_mul] at this
      omega
  · rintro rfl
    have small : m < 2 ^ 53 := Nat.lt_of_le_of_lt (Nat.le_mul_of_pos_right m tpos) bits
    refine roundQuotient_exact (representable_nat (Nat.le_of_lt small)) pos ?_
    ring

/-- A power of ten of more than 53 bits, rounded. -/
theorem units_tenPower_bounds {k : Nat} (large : 2 ^ 53 ≤ 10 ^ k) (reach : k ≤ 308) :
    17 * 2 ^ 49 * one ≤ (tenPower k).units ∧ (tenPower k).units ≤ 2 ^ 1024 * one := by
  have sixteen : 16 ≤ k := by
    refine Nat.le_of_not_lt fun few => ?_
    have : 10 ^ k ≤ 10 ^ 15 := Nat.pow_le_pow_right (by decide) (by omega)
    omega
  have least : 10 ^ 16 ≤ 10 ^ k := Nat.pow_le_pow_right (by decide) sixteen
  have most : 10 ^ k ≤ 2 ^ 1024 := by
    refine Nat.le_trans (Nat.pow_le_pow_right (by decide) reach) ?_
    decide +kernel
  show _ ≤ roundQuotient (10 ^ k * one) 1 ∧ roundQuotient (10 ^ k * one) 1 ≤ _
  constructor
  · refine le_roundQuotient (representable_mul_one (by decide) (by decide)) Nat.one_pos ?_
    rw [Nat.mul_one]
    exact Nat.mul_le_mul_right one (by omega)
  · have rep : Representable (2 ^ 1024 * one) := by
      obtain ⟨e, one, -, -⟩ := one_spec
      refine ⟨pow_mul_one_le (Nat.le_refl _), 1, 1024 + e, by decide, ?_⟩
      rw [one, Nat.one_mul, Nat.pow_add]
    refine roundQuotient_le rep Nat.one_pos ?_
    rw [Nat.mul_one]
    exact Nat.mul_le_mul_right one most

/-- Divided by such a power, a number of 53 bits is rounded to no whole number, not even to zero. -/
theorem roundQuotient_ne_nat {s t m : Nat} (pos : 0 < s) (bits : s < 2 ^ 53)
    (least : 17 * 2 ^ 49 * one ≤ t) (most : t ≤ 2 ^ 1024 * one) :
    roundQuotient (s * one * one) t ≠ m * one := by
  obtain ⟨e, one_pow, -, he⟩ := one_spec
  have tpos : 0 < t := Nat.lt_of_lt_of_le (Nat.mul_pos (by decide) one_pos) least
  -- at least one unit, and at most 31/32
  have nonzero : 1 ≤ roundQuotient (s * one * one) t := by
    refine le_roundQuotient ⟨?_, 1, 0, by decide, rfl⟩ tpos ?_
    · exact Nat.le_trans one_pos one_le_limit
    · calc 1 * t ≤ 2 ^ 1024 * one := by rw [Nat.one_mul]; exact most
        _ ≤ one * one := Nat.mul_le_mul_right one (pow_le_one (Nat.le_refl _))
        _ ≤ s * one * one := Nat.mul_le_mul_right one (Nat.le_mul_of_pos_left one pos)
  have part : one = 32 * 2 ^ (e - 5) := by
    have whole : 5 + (e - 5) = e := by omega
    rw [one_pow, show (32 : Nat) = 2 ^ 5 from rfl, ← Nat.pow_add, whole]
  have below : roundQuotient (s * one * one) t ≤ 31 * 2 ^ (e - 5) := by
    have rep : Representable (31 * 2 ^ (e - 5)) := by
      refine ⟨?_, 31, e - 5, by decide, rfl⟩
      have := one_le_limit
      omega
    refine roundQuotient_le rep tpos ?_
    calc s * one * one ≤ 2 ^ 53 * one * one :=
          Nat.mul_le_mul_right one (Nat.mul_le_mul_right one (Nat.le_of_lt bits))
      _ = 2 ^ 53 * 32 * (2 ^ (e - 5) * one) := by rw [part]; ring
      _ ≤ 31 * (17 * 2 ^ 49) * (2 ^ (e - 5) * one) := Nat.mul_le_mul_right _ (by decide)
      _ = 31 * 2 ^ (e - 5) * (17 * 2 ^ 49 * one) := by ring
      _ ≤ 31 * 2 ^ (e - 5) * t := Nat.mul_le_mul_left _ least
  intro h
  rw [h] at nonzero below
  cases m with
  | zero => omega
  | succ m =>
    have : one ≤ (m + 1) * one := Nat.le_mul_of_pos_left one (Nat.succ_pos m)
    have := Nat.two_pow_pos (e - 5)
    omega

theorem units_div_tenPower_iff {s k m : Nat} (pos : 0 < s) (bits : s < 2 ^ 53) (reach : k ≤ 308) :
    ((ofNat s).div (tenPower k)).units = m * one ↔ s = m * 10 ^ k := by
  have tens : 0 < 10 ^ k := Nat.pow_pos (by decide)
  show roundQuotient ((ofNat s).units * one) (tenPower k).units = m * one ↔ _
  rw [units_ofNat (Nat.le_of_lt bits)]
  rcases Nat.lt_or_ge (10 ^ k) (2 ^ 53) with small | large
  · rw [units_tenPower small]
    exact roundQuotient_eq_nat_iff bits tens small
  · obtain ⟨least, most⟩ := units_tenPower_bounds large reach
    constructor
    · intro h
      exact absurd h (roundQuotient_ne_nat pos bits least most)
    · rintro rfl
      have whole : 0 < m := Nat.pos_of_mul_pos_right pos
      have : 10 ^ k ≤ m * 10 ^ k := Nat.le_mul_of_pos_left _ whole
      omega

end CarCatalog.Binary64

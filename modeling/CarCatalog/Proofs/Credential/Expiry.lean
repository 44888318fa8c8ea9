import CarCatalog.Proofs.Credential.Independence

/-!
# When a credential expires

The expiry, a double in seconds, is multiplied by 1000 and compared with the time in milliseconds, and
both are rounded.  Rounding keeps the order, so a credential that has expired stays expired
(`isExpired_mono`).  Integers of 53 bits are not rounded, so for them the comparison is that of the
integers.

    n.toInt64? = some i → |i| ≤ 2^53 → claims expire at the double i        (expiry_of_toInt64?)
    claims.expiry = .ok x → x.value = e * one → (isExpired c now ↔ 1000 * e < now)
                                                                            (isExpired_iff_lt)
-/

namespace CarCatalog.Claims

/-- The expiry is this integer: written without fraction and exponent, or with few digits.  A literal of
more digits with a fraction or an exponent counts as the double that it is read as. -/
inductive ExpiresAt (claims : Claims) (e : Int) : Prop
  | written {n : Numeral} (exp : claims.exp = .number n) (integer : n.IsInteger) (int : n.int = e)
  | short {n : Numeral} (exp : claims.exp = .number n) (short : n.IsShort) (value : n.value = e)
  | read {x : Binary64} (expiry : claims.expiry = .ok x) (value : x.value = e * Binary64.one)

variable {c : String} {claims : Claims} {n : Numeral} {x : Binary64} {e : Int} {now now' : Int64}

/-! ## Lemmas -/

theorem isExpired_of_expiry (parsed : parse c = .ok claims) (expiry : claims.expiry = .ok x) :
    isExpired c now = true ↔
      (x.mul (.ofNat 1000)).value < (Binary64.ofInt now.toInt).value := by
  rw [isExpired_of_parse parsed, expiry]
  exact decide_eq_true_iff

theorem isExpired_mono (h : now ≤ now') (expired : isExpired c now = true) :
    isExpired c now' = true := by
  cases parsed : parse c with
  | error fault => rw [isExpired, parsed]; rfl
  | ok claims =>
    cases expiry : claims.expiry with
    | error fault => rw [isExpired_of_parse parsed, expiry]
    | ok x =>
      rw [isExpired_of_expiry parsed expiry] at expired ⊢
      exact Int.lt_of_lt_of_le expired (Binary64.value_ofInt_mono (Int64.le_iff_toInt_le.mp h))

theorem expiry_of_toInt64? {i : Int64} (exp : claims.exp = .number n) (whole : n.toInt64? = some i)
    (bits : i.toInt.natAbs ≤ 2 ^ 53) :
    ∃ x, claims.expiry = .ok x ∧ x.value = i.toInt * Binary64.one := by
  obtain ⟨number, read, int⟩ := Option.bind_eq_some_iff.mp whole
  refine ⟨number.toBinary64, by rw [expiry, exp]; simp only [read], ?_⟩
  cases number with
  | int j =>
    have same : i.toInt = j := int64?_eq_some.mp int
    show (Binary64.ofInt j).value = _
    rw [← same]
    exact Binary64.value_ofInt bits
  | real x => exact Binary64.toInt64?_eq_some.mp int

/-- A literal of few digits is read as the integer that it writes. -/
theorem toInt64?_of_value {i : Int64} (clean : n.toNumber?.isSome = true)
    (few : n.IsInteger ∨ n.IsShort) (value : n.value = i.toInt) : n.toInt64? = some i := by
  by_cases integer : n.IsInteger
  · have least := Int64.minValue_le_toInt i
    have most := Int64.toInt_lt i
    have size : (UInt64.size : Int) = 2 ^ 64 := rfl
    have int : n.int = i.toInt := by
      rw [Numeral.value_of_isInteger integer] at value
      exact_mod_cast value
    rw [Numeral.toInt64?_of_within integer clean (by omega) (by omega), int]
    exact int64?_eq_some.mpr rfl
  · obtain ⟨x, finite⟩ :=
      Numeral.exists_finite_of_isSome clean (Numeral.toInt?_of_not_isInteger integer)
    exact (Numeral.toInt64?_of_isShort (few.resolve_left integer) finite i).mpr value

theorem ExpiresAt.read_off (kept : Fits claims.exp) (expires : claims.ExpiresAt e)
    (bits : e.natAbs ≤ 2 ^ 53) : ∃ x, claims.expiry = .ok x ∧ x.value = e * Binary64.one := by
  have held : (Int64.ofInt e).toInt = e := by
    have least : Int64.minValue.toInt = -2 ^ 63 := rfl
    have most : Int64.maxValue.toInt = 2 ^ 63 - 1 := rfl
    exact Int64.toInt_ofInt_of_le (by omega) (by omega)
  have literal : ∀ {n : Numeral}, claims.exp = .number n → n.IsInteger ∨ n.IsShort →
      n.value = e → ∃ x, claims.expiry = .ok x ∧ x.value = e * Binary64.one := by
    intro n exp few value
    rw [exp] at kept
    have found := toInt64?_of_value (i := Int64.ofInt e) kept.1 few (by rw [held]; exact value)
    have := expiry_of_toInt64? exp found (by rw [held]; exact bits)
    rwa [held] at this
  cases expires with
  | written exp integer int =>
    exact literal exp (.inl integer) (by rw [Numeral.value_of_isInteger integer, int])
  | short exp short value => exact literal exp (.inr short) value
  | read expiry value => exact ⟨_, expiry, value⟩

/-- Neither the product nor the time is rounded. -/
theorem isExpired_iff_lt (parsed : parse c = .ok claims) (expiry : claims.expiry = .ok x)
    (value : x.value = e * Binary64.one) (bits : (e * 1000).natAbs ≤ 2 ^ 53)
    (near : now.toInt.natAbs ≤ 2 ^ 53) : isExpired c now = true ↔ 1000 * e < now.toInt := by
  have thousand : (Binary64.ofNat 1000).value = (1000 : Nat) * Binary64.one := by
    rw [← Binary64.ofInt_natCast]
    exact Binary64.value_ofInt (by decide)
  rw [isExpired_of_expiry parsed expiry, Binary64.value_mul value thousand bits,
    Binary64.value_ofInt near, Int.mul_comm 1000]
  exact mul_lt_mul_iff_of_pos_right (Int.natCast_pos.mpr Binary64.one_pos)

/-! ## Top theorem -/

/-- **Expiry.**  Whatever a credential holds, it never becomes valid again, and one that cannot be read
never was.  When the expiry that is read is an integer and the milliseconds have 53 bits, it expires
exactly after that second. -/
theorem expires_for_good (c : String) :
    (∀ now now' : Int64, now ≤ now' → isExpired c now = true → isExpired c now' = true) ∧
    ∀ claims e, parse c = .ok claims → claims.ExpiresAt e → |1000 * e| ≤ 2 ^ 53 →
      ∀ now : Int64, |now.toInt| ≤ 2 ^ 53 → (isExpired c now = true ↔ 1000 * e < now.toInt) := by
  refine ⟨fun now now' later => isExpired_mono later, ?_⟩
  intro claims e parsed expires bits now near
  rw [Int.abs_eq_natAbs] at bits near
  obtain ⟨x, expiry, value⟩ := expires.read_off (kept_of_parse parsed).exp (by omega)
  exact isExpired_iff_lt parsed expiry value (by omega) (by omega)

/-- An administrator's credential, in the millisecond of its expiry and in the next one. -/
theorem expires_for_good_admin :
    isExpired adminCredential 9999999999000 = false ∧
      isExpired adminCredential 9999999999001 = true := by
  have parsed : parse adminCredential = .ok ⟨.int 3, .int 9999999999, .text "Admin"⟩ :=
    parse_admin (Json.writable_int 3) (Json.writable_int 9999999999) ⟨by decide, by decide⟩
      ⟨by decide, by decide⟩
  have expires : ExpiresAt ⟨.int 3, .int 9999999999, .text "Admin"⟩ 9999999999 :=
    .written rfl ⟨rfl, rfl⟩ (by decide +kernel)
  obtain ⟨-, exactly⟩ := expires_for_good adminCredential
  have at_time := fun now => exactly _ _ parsed expires (by decide) now
  constructor
  · rw [← Bool.not_eq_true, at_time _ (by decide)]
    decide
  · rw [at_time _ (by decide)]
    decide

end CarCatalog.Claims

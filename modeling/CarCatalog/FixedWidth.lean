/-!
# Integers of fixed width

An integer that a width holds becomes a word of it; any other becomes none.

    int64? i = some w ↔ w.toInt = i          (int64?_eq_some)
    int32? i = some w ↔ w.toInt = i          (int32?_eq_some)
    uint64? i = some w ↔ w.toNat = i         (uint64?_eq_some)
    uint32? i = some w ↔ w.toNat = i         (uint32?_eq_some)
-/

namespace CarCatalog

def int64? (i : Int) : Option Int64 :=
  if Int64.minValue.toInt ≤ i ∧ i ≤ Int64.maxValue.toInt then some (.ofInt i) else none

def int32? (i : Int) : Option Int32 :=
  if Int32.minValue.toInt ≤ i ∧ i ≤ Int32.maxValue.toInt then some (.ofInt i) else none

def uint64? (i : Int) : Option UInt64 :=
  if 0 ≤ i ∧ i.toNat < UInt64.size then some (.ofNat i.toNat) else none

def uint32? (i : Int) : Option UInt32 :=
  if 0 ≤ i ∧ i.toNat < UInt32.size then some (.ofNat i.toNat) else none

/-! ## Lemmas -/

theorem int64?_eq_some {i : Int} {w : Int64} : int64? i = some w ↔ w.toInt = i := by
  have hmin : Int64.minValue.toInt = -9223372036854775808 := rfl
  have hmax : Int64.maxValue.toInt = 9223372036854775807 := rfl
  have hlo := Int64.minValue_le_toInt w
  have hhi := Int64.toInt_le w
  unfold int64?
  rw [hmin, hmax] at *
  constructor
  · intro h
    split at h
    · next hi =>
      cases h
      exact Int64.toInt_ofInt_of_le (by omega) (by omega)
    · cases h
  · intro h
    subst h
    rw [if_pos ⟨hlo, hhi⟩, Int64.ofInt_toInt]

theorem int32?_eq_some {i : Int} {w : Int32} : int32? i = some w ↔ w.toInt = i := by
  have hmin : Int32.minValue.toInt = -2147483648 := rfl
  have hmax : Int32.maxValue.toInt = 2147483647 := rfl
  have hlo := Int32.minValue_le_toInt w
  have hhi := Int32.toInt_le w
  unfold int32?
  rw [hmin, hmax] at *
  constructor
  · intro h
    split at h
    · next hi =>
      cases h
      exact Int32.toInt_ofInt_of_le (by omega) (by omega)
    · cases h
  · intro h
    subst h
    rw [if_pos ⟨hlo, hhi⟩, Int32.ofInt_toInt]

theorem uint64?_eq_some {i : Int} {w : UInt64} : uint64? i = some w ↔ (w.toNat : Int) = i := by
  have hhi : w.toNat < UInt64.size := UInt64.toNat_lt_size w
  unfold uint64?
  constructor
  · intro h
    split at h
    · next hi =>
      cases h
      have : (UInt64.ofNat i.toNat).toNat = i.toNat := UInt64.toNat_ofNat_of_lt hi.2
      omega
    · cases h
  · intro h
    subst h
    rw [if_pos ⟨by omega, hhi⟩, Int.toNat_natCast, UInt64.ofNat_toNat]

theorem uint32?_eq_some {i : Int} {w : UInt32} : uint32? i = some w ↔ (w.toNat : Int) = i := by
  have hhi : w.toNat < UInt32.size := UInt32.toNat_lt_size w
  unfold uint32?
  constructor
  · intro h
    split at h
    · next hi =>
      cases h
      have : (UInt32.ofNat i.toNat).toNat = i.toNat := UInt32.toNat_ofNat_of_lt hi.2
      omega
    · cases h
  · intro h
    subst h
    rw [if_pos ⟨by omega, hhi⟩, Int.toNat_natCast, UInt32.ofNat_toNat]

end CarCatalog

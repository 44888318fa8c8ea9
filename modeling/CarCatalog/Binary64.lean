import CarCatalog.FixedWidth

/-!
# Binary64 numbers, exactly

A double is a sign and a whole number of units of 2^-1074, the smallest positive double.  Every
operation takes the exact result and rounds it to the nearest double, a tie to the even one; a
result of 2^1024 or more becomes `limit`, the infinity.

    roundQuotient num den = the multiple of its grid nearest to num / den
-/

namespace CarCatalog

structure Binary64 where
  negative : Bool
  units : Nat
  deriving DecidableEq, Repr

namespace Binary64

/-- The units in 1. -/
def one : Nat := Nat.pow 2 1074

/-- The units of infinity: 2^1024. -/
def limit : Nat := Nat.pow 2 2098

/-- The whole number nearest to a quotient, a tie to the even one. -/
def nearest (num den : Nat) : Nat :=
  let q := num / den
  let r := num % den
  if 2 * r < den then q else if den < 2 * r then q + 1 else q + q % 2

/-- The units of the double nearest to `num / den` units: 53 significant bits. -/
def roundQuotient (num den : Nat) : Nat :=
  let grid := Nat.pow 2 (Nat.log2 (num / den) - 52)
  min limit (nearest num (den * grid) * grid)

/-! ## Arithmetic -/

def ofNat (n : Nat) : Binary64 := ⟨false, roundQuotient (n * one) 1⟩

def ofInt (i : Int) : Binary64 := ⟨i < 0, roundQuotient (i.natAbs * one) 1⟩

def mul (a b : Binary64) : Binary64 :=
  ⟨a.negative != b.negative, roundQuotient (a.units * b.units) one⟩

def div (a b : Binary64) : Binary64 :=
  ⟨a.negative != b.negative, roundQuotient (a.units * one) b.units⟩

def neg (a : Binary64) : Binary64 := ⟨!a.negative, a.units⟩

def isInfinite (a : Binary64) : Bool := limit ≤ a.units

/-- The value in units, with its sign; both zeros are zero. -/
def value (a : Binary64) : Int := if a.negative then -(a.units : Int) else a.units

def lt (a b : Binary64) : Bool := a.value < b.value

/-! ## Integers and bits -/

/-- Toward zero. -/
def truncate (a : Binary64) : Int := a.value.tdiv one

/-- The integer it is, if it has no fraction. -/
def toInt? (a : Binary64) : Option Int :=
  if a.units % one = 0 then some a.truncate else none

/-- The integer of 64 bits it is: no fraction, at least -2^63, below 2^63. -/
def toInt64? (a : Binary64) : Option Int64 := a.toInt?.bind int64?

/-- Toward zero, kept within 64 bits. -/
def clampInt64 (a : Binary64) : Int64 :=
  Int64.ofInt (max Int64.minValue.toInt (min Int64.maxValue.toInt a.truncate))

/-- The interchange bits: sign, exponent, significand. -/
def toBits (a : Binary64) : Nat :=
  let shift := Nat.log2 a.units - 52
  (if a.negative then Nat.pow 2 63 else 0) + shift * Nat.pow 2 52 + a.units / Nat.pow 2 shift

/-! ## Decimal literals -/

/-- The double nearest to a power of ten. -/
def tenPower (k : Nat) : Binary64 := ofNat (Nat.pow 10 k)

/-- A significand times a power of ten, or none when that is infinite.  The significand is rounded,
then scaled by a rounded power of ten; powers below 10^-308 take two divisions, and nothing is left
of a 64-bit significand below 10^-616. -/
def scale? (significand : Nat) (exponent : Int) : Option Binary64 :=
  let f := ofNat significand
  let k := exponent.natAbs
  if 0 ≤ exponent then
    if f.units = 0 then some f
    else if 308 < k then none
    else
      let g := f.mul (tenPower k)
      if g.isInfinite then none else some g
  else if k ≤ 308 then some (f.div (tenPower k))
  else if k ≤ 616 then some ((f.div (tenPower 308)).div (tenPower (k - 308)))
  else some ⟨false, 0⟩

end Binary64

end CarCatalog

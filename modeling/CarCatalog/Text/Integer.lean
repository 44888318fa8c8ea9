import CarCatalog.FixedWidth
import CarCatalog.Text.Blank

/-!
# Integers in text

`readNat` takes one or more ASCII digits, `readInt` an optional sign before them; leading zeros are
allowed.  `readInt64`, `readInt32` and `readNatUpTo` also ask for a range.  Printing is `toString`.

    readNat (Nat.toDigits 10 n) = some n          (readNat_toDigits)
    readInt (toString i).toList = some i          (readInt_toString)
    trim (toString i) = toString i                (trim_toString)
-/

namespace CarCatalog.Text

def isDigit (c : Char) : Bool := '0' ≤ c && c ≤ '9'

/-- One or more digits, read as a number in base ten. -/
def readNat (cs : List Char) : Option Nat :=
  if cs.isEmpty || !cs.all isDigit then none else some (Nat.ofDigitChars 10 cs 0)

/-- An optional sign, then digits. -/
def readInt : List Char → Option Int
  | '-' :: cs => (readNat cs).map fun n => -(n : Int)
  | '+' :: cs => (readNat cs).map Int.ofNat
  | cs => (readNat cs).map Int.ofNat

/-- A number up to `hi`; a plus sign may stand before it, a minus sign may not. -/
def readNatUpTo (hi : Nat) (s : String) : Option Nat :=
  let digits := match s.toList with
    | '+' :: cs => cs
    | cs => cs
  (readNat digits).filter (· ≤ hi)

def readInt64 (s : String) : Option Int64 := (readInt s.toList).bind int64?

def readInt32 (s : String) : Option Int32 := (readInt s.toList).bind int32?

/-! ## Lemmas -/

theorem isBlank_of_isDigit {c : Char} (h : isDigit c = true) : isBlank c = false := by
  rw [isDigit, Bool.and_eq_true, decide_eq_true_eq, decide_eq_true_eq] at h
  have lo : 48 ≤ c.toNat := h.1
  have hi : c.toNat ≤ 57 := h.2
  have table : ∀ n < 58, 48 ≤ n → isBlank (Char.ofNat n) = false := by decide
  have := table c.toNat (Nat.lt_succ_of_le hi) lo
  rwa [Char.ofNat_toNat] at this

theorem isDigit_of_mem_toDigits {n : Nat} {c : Char} (h : c ∈ Nat.toDigits 10 n) :
    isDigit c = true := by
  have := Nat.isDigit_of_mem_toDigits (by decide) (by decide) h
  simpa [Char.isDigit, isDigit, Char.le_def] using this

theorem readNat_toDigits (n : Nat) : readNat (Nat.toDigits 10 n) = some n := by
  have hne : Nat.toDigits 10 n ≠ [] := Nat.toDigits_ne_nil
  have hall : (Nat.toDigits 10 n).all isDigit = true :=
    List.all_eq_true.2 fun _ h => isDigit_of_mem_toDigits h
  simp [readNat, hne, hall, Nat.ofDigitChars_ten_toDigits]

theorem readInt_of_digits {cs : List Char} (digits : ∀ c ∈ cs, isDigit c = true) :
    readInt cs = (readNat cs).map Int.ofNat := by
  unfold readInt
  split
  · exact absurd (digits '-' List.mem_cons_self) (by decide)
  · exact absurd (digits '+' List.mem_cons_self) (by decide)
  · rfl

theorem readInt_toDigits (n : Nat) : readInt (Nat.toDigits 10 n) = some (n : Int) := by
  rw [readInt_of_digits fun _ h => isDigit_of_mem_toDigits h, readNat_toDigits]
  rfl

theorem toList_toString_ofNat (n : Nat) : (toString (Int.ofNat n)).toList = Nat.toDigits 10 n := by
  show (String.ofList (Nat.toDigits 10 n)).toList = _
  rw [String.toList_ofList]

theorem toList_toString_negSucc (n : Nat) :
    (toString (Int.negSucc n)).toList = '-' :: Nat.toDigits 10 (n + 1) := by
  show ("-" ++ String.ofList (Nat.toDigits 10 (n + 1))).toList = _
  rw [String.toList_append, String.toList_ofList, String.toList_ofList]
  rfl

theorem readInt_toString (i : Int) : readInt (toString i).toList = some i := by
  cases i with
  | ofNat n => rw [toList_toString_ofNat, readInt_toDigits]; rfl
  | negSucc n =>
    rw [toList_toString_negSucc]
    show (readNat (Nat.toDigits 10 (n + 1))).map (fun n => -(n : Int)) = _
    rw [readNat_toDigits]
    rfl

/-- A printed integer has no white space. -/
theorem trim_toString (i : Int) : trim (toString i) = toString i := by
  have digit_blank : ∀ {n c}, c ∈ Nat.toDigits 10 n → isBlank c = false :=
    fun hc => isBlank_of_isDigit (isDigit_of_mem_toDigits hc)
  refine trim_of_no_blank ?_
  cases i with
  | ofNat n =>
    rw [toList_toString_ofNat]
    exact fun c hc => digit_blank hc
  | negSucc n =>
    rw [toList_toString_negSucc]
    intro c hc
    rcases List.mem_cons.mp hc with rfl | hc
    · decide
    · exact digit_blank hc

theorem readInt64_trim_toString (i : Int64) : readInt64 (trim (toString i.toInt)) = some i := by
  rw [trim_toString, readInt64, readInt_toString, Option.bind_some]
  exact int64?_eq_some.mpr rfl

theorem readInt32_trim_toString (i : Int32) : readInt32 (trim (toString i.toInt)) = some i := by
  rw [trim_toString, readInt32, readInt_toString, Option.bind_some]
  exact int32?_eq_some.mpr rfl

end CarCatalog.Text

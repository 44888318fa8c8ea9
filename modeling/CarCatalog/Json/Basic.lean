import CarCatalog.Binary64

/-!
# JSON values

`Json` keeps what a text says before it is asked for a meaning: a number is its literal, and a
string whose escapes or bytes are no Unicode text is `string none`.  A reader that skips a value
accepts it as it stands; `Json.isClean` is what a reader that keeps the value asks for.
-/

namespace CarCatalog

abbrev Digit := Fin 10

/-- The last decimal digit of a number. -/
def Digit.ofNat (n : Nat) : Digit := ⟨n % 10, Nat.mod_lt n (by decide)⟩

/-- A number literal: sign, digits before the point, digits after it, exponent. -/
structure Numeral where
  negative : Bool
  whole : List Digit
  fraction : List Digit
  exponent : Option Int
  deriving DecidableEq, Repr

inductive Json where
  | null
  | bool (b : Bool)
  | number (n : Numeral)
  | string (s : Option String)
  | array (items : List Json)
  | object (members : List (Option String × Json))

/-! ## Numbers -/

namespace Numeral

def natValue (ds : List Digit) : Nat := ds.foldl (fun n d => n * 10 + d.val) 0

/-- The integer a literal without fraction and exponent writes; `-0` writes none. -/
def toInt? (n : Numeral) : Option Int :=
  if n.fraction.isEmpty && n.exponent.isNone then
    let v := natValue n.whole
    if !n.negative then some v else if v = 0 then none else some (-(v : Int))
  else none

def ofNat (n : Nat) : Numeral :=
  ⟨false, (Nat.toDigits 10 n).map fun c => Digit.ofNat (c.toNat - 48), [], none⟩

def ofInt : Int → Numeral
  | .ofNat n => ofNat n
  | .negSucc n => { ofNat (n + 1) with negative := true }

/-- Appends digits to a significand while it stays below 2^64; also counts the digits left over. -/
def absorb (significand : Nat) : List Digit → Nat × Nat
  | [] => (significand, 0)
  | d :: ds =>
    if significand * 10 + d.val < UInt64.size then absorb (significand * 10 + d.val) ds
    else (significand, ds.length + 1)

/-- The double a literal stands for, or none when that is infinite. -/
def toBinary64? (n : Numeral) : Option Binary64 :=
  let (w, dropped) := absorb 0 n.whole
  let (s, unused) := absorb w n.fraction
  let exponent := (dropped : Int) - (n.fraction.length - unused : Nat) + n.exponent.getD 0
  (Binary64.scale? s exponent).map fun b => { b with negative := n.negative }

end Numeral

/-- A number as it is worked with: an integer of 64 bits, signed or not, or a double. -/
inductive Number
  | int (i : Int)
  | real (x : Binary64)
  deriving DecidableEq, Repr

def Numeral.toNumber? (n : Numeral) : Option Number :=
  match n.toInt? with
  | some i =>
    if Int64.minValue.toInt ≤ i && i < UInt64.size then some (.int i) else n.toBinary64?.map .real
  | none => n.toBinary64?.map .real

def Number.toBinary64 : Number → Binary64
  | .int i => .ofInt i
  | .real x => x

/-! ## Whole values -/

mutual

/-- How deep arrays and objects nest. -/
def Json.depth : Json → Nat
  | .array items => Json.itemsDepth items + 1
  | .object members => Json.membersDepth members + 1
  | _ => 0

def Json.itemsDepth : List Json → Nat
  | [] => 0
  | j :: js => max j.depth (Json.itemsDepth js)

def Json.membersDepth : List (Option String × Json) → Nat
  | [] => 0
  | (_, j) :: js => max j.depth (Json.membersDepth js)

end

mutual

/-- Every string is Unicode text and every number finite. -/
def Json.isClean : Json → Bool
  | .number n => n.toNumber?.isSome
  | .string s => s.isSome
  | .array items => Json.itemsClean items
  | .object members => Json.membersClean members
  | _ => true

def Json.itemsClean : List Json → Bool
  | [] => true
  | j :: js => j.isClean && Json.itemsClean js

def Json.membersClean : List (Option String × Json) → Bool
  | [] => true
  | (k, j) :: js => k.isSome && j.isClean && Json.membersClean js

end

namespace Json

def text (s : String) : Json := .string (some s)

def int (i : Int) : Json := .number (.ofInt i)

/-- An object with these members, in this order. -/
def record (members : List (String × Json)) : Json :=
  .object (members.map fun m => (some m.1, m.2))

def ofOption {α : Type} (write : α → Json) : Option α → Json
  | none => .null
  | some a => write a

def list {α : Type} (write : α → Json) (xs : List α) : Json := .array (xs.map write)

end Json

end CarCatalog

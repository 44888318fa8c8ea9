import CarCatalog.Text.Bytes

/-!
# Percent-encoding

`encode` keeps letters, digits and `-`, `_`, `.`, `~`, and writes every other UTF-8 byte as `%` and
two upper-case hexadecimal digits.
-/

namespace CarCatalog.Text.Percent

def isUnreserved (b : UInt8) : Bool :=
  (0x30 ≤ b && b ≤ 0x39) || (0x41 ≤ b && b ≤ 0x5A) || (0x61 ≤ b && b ≤ 0x7A) ||
  b == 0x2D || b == 0x2E || b == 0x5F || b == 0x7E

def hexDigit (n : Nat) : Char :=
  if n < 10 then Char.ofNat (0x30 + n) else Char.ofNat (0x37 + n)

def encodeByte (b : UInt8) : List Char :=
  if isUnreserved b then [Char.ofNat b.toNat]
  else ['%', hexDigit (b.toNat / 16), hexDigit (b.toNat % 16)]

def encodeChars (s : String) : List Char := (toUtf8 s).flatMap encodeByte

def encode (s : String) : String := String.ofList (encodeChars s)

/-! ## Reading back -/

def hexValue? (c : Char) : Option Nat :=
  if '0' ≤ c && c ≤ '9' then some (c.toNat - 0x30)
  else if 'A' ≤ c && c ≤ 'F' then some (c.toNat - 0x37)
  else if 'a' ≤ c && c ≤ 'f' then some (c.toNat - 0x57)
  else none

/-- The bytes of a percent-encoded text. -/
def decodeBytes : List Char → Option Bytes
  | [] => some []
  | '%' :: a :: b :: rest => do
    let high ← hexValue? a
    let low ← hexValue? b
    return UInt8.ofNat (16 * high + low) :: (← decodeBytes rest)
  | c :: rest =>
    if c == '%' then none
    else (decodeBytes rest).map (toUtf8 (String.singleton c) ++ ·)

def decode (cs : List Char) : Option String := (decodeBytes cs).bind ofUtf8

end CarCatalog.Text.Percent

import CarCatalog.Json.Basic
import CarCatalog.Text.Bytes

/-!
# Reading JSON text

A reader takes the front of a text and gives what it read and the rest.  `Json.parse` reads a whole
text by the grammar of RFC 8259: strict literals, no trailing commas, nothing but white space after
the value.
-/

namespace CarCatalog.Json

/-! ## Blanks and digits -/

def isBlank (b : UInt8) : Bool := b == 0x20 || b == 0x09 || b == 0x0A || b == 0x0D

def skipBlanks (bs : Bytes) : Bytes := bs.dropWhile isBlank

def isDigit (b : UInt8) : Bool := 0x30 ≤ b && b ≤ 0x39

def digit (b : UInt8) : Digit := Digit.ofNat (b.toNat - 48)

/-- The digits in front, and the rest. -/
def takeDigits (bs : Bytes) : List Digit × Bytes :=
  ((bs.takeWhile isDigit).map digit, bs.dropWhile isDigit)

/-! ## Numbers -/

/-- A single zero, or digits that start with no zero. -/
def readWhole (bs : Bytes) : Option (List Digit × Bytes) :=
  match bs with
  | 0x30 :: rest => some ([.ofNat 0], rest)
  | b :: _ => if isDigit b then some (takeDigits bs) else none
  | [] => none

/-- A point and at least one digit, if there is a point. -/
def readFraction (bs : Bytes) : Option (List Digit × Bytes) :=
  match bs with
  | 0x2E :: rest =>
    match takeDigits rest with
    | ([], _) => none
    | found => some found
  | _ => some ([], bs)

/-- An `e` or `E`, a sign if there is one, and at least one digit, if there is an `e`. -/
def readExponent (bs : Bytes) : Option (Option Int × Bytes) :=
  match bs with
  | b :: rest =>
    if b == 0x65 || b == 0x45 then
      let (negative, digits) := match rest with
        | 0x2D :: more => (true, more)
        | 0x2B :: more => (false, more)
        | more => (false, more)
      match takeDigits digits with
      | ([], _) => none
      | (ds, left) =>
        let e : Int := Numeral.natValue ds
        some (some (if negative then -e else e), left)
    else some (none, bs)
  | [] => some (none, [])

def readNumeral (bs : Bytes) : Option (Numeral × Bytes) := do
  let (negative, rest) := match bs with
    | 0x2D :: rest => (true, rest)
    | rest => (false, rest)
  let (whole, rest) ← readWhole rest
  let (fraction, rest) ← readFraction rest
  let (exponent, rest) ← readExponent rest
  return (⟨negative, whole, fraction, exponent⟩, rest)

/-! ## Strings -/

/-- A string between its quotes: bytes, and the 16-bit units that `\u` escapes give. -/
inductive Piece
  | byte (b : UInt8)
  | unit (n : Nat)
  deriving DecidableEq, Repr

def hexValue? (b : UInt8) : Option Nat :=
  if isDigit b then some (b.toNat - 0x30)
  else if 0x41 ≤ b && b ≤ 0x46 then some (b.toNat - 0x37)
  else if 0x61 ≤ b && b ≤ 0x66 then some (b.toNat - 0x57)
  else none

def hexUnit? (a b c d : UInt8) : Option Nat := do
  return (((← hexValue? a) * 16 + (← hexValue? b)) * 16 + (← hexValue? c)) * 16 + (← hexValue? d)

/-- The byte an escape of one letter gives. -/
def escape? (b : UInt8) : Option UInt8 :=
  match b with
  | 0x22 => some 0x22
  | 0x5C => some 0x5C
  | 0x2F => some 0x2F
  | 0x62 => some 0x08
  | 0x66 => some 0x0C
  | 0x6E => some 0x0A
  | 0x72 => some 0x0D
  | 0x74 => some 0x09
  | _ => none

/-- What stands before the closing quote, and what follows it. -/
def readPieces : Bytes → Option (List Piece × Bytes)
  | [] => none
  | 0x22 :: rest => some ([], rest)
  | 0x5C :: 0x75 :: a :: b :: c :: d :: rest => do
    let n ← hexUnit? a b c d
    let (ps, rest) ← readPieces rest
    return (.unit n :: ps, rest)
  | 0x5C :: e :: rest => do
    let b ← escape? e
    let (ps, rest) ← readPieces rest
    return (.byte b :: ps, rest)
  | b :: rest =>
    if b < 0x20 then none
    else do
      let (ps, rest) ← readPieces rest
      return (.byte b :: ps, rest)

def encodeUnit (n : Nat) : Bytes := Text.toUtf8 (String.singleton (Char.ofNat n))

/-- The bytes of the pieces; a surrogate has to be half of a pair. -/
def joinPieces : List Piece → Option Bytes
  | [] => some []
  | .byte b :: ps => (joinPieces ps).map (b :: ·)
  | .unit n :: ps =>
    if n < 0xD800 || 0xDFFF < n then (joinPieces ps).map (encodeUnit n ++ ·)
    else
      match ps with
      | .unit m :: ps =>
        if n < 0xDC00 && 0xDC00 ≤ m && m ≤ 0xDFFF then
          (joinPieces ps).map (encodeUnit (0x10000 + (n - 0xD800) * 0x400 + (m - 0xDC00)) ++ ·)
        else none
      | _ => none

/-- A string after its opening quote. -/
def readString (bs : Bytes) : Option (Option String × Bytes) := do
  let (ps, rest) ← readPieces bs
  return ((joinPieces ps).bind Text.ofUtf8, rest)

/-! ## Values -/

/-- The rest after a word that has to stand in front. -/
def skipWord (word : Bytes) (bs : Bytes) : Option Bytes :=
  if bs.take word.length == word then some (bs.drop word.length) else none

mutual

/-- A value after the blanks in front; the fuel bounds the nesting and the number of items. -/
def readValue : Nat → Bytes → Option (Json × Bytes)
  | 0, _ => none
  | fuel + 1, bs =>
    match skipBlanks bs with
    | [] => none
    | 0x22 :: rest => do
      let (s, rest) ← readString rest
      return (.string s, rest)
    | 0x5B :: rest =>
      match skipBlanks rest with
      | 0x5D :: rest => some (.array [], rest)
      | rest => do
        let (items, rest) ← readItems fuel rest
        return (.array items, rest)
    | 0x7B :: rest =>
      match skipBlanks rest with
      | 0x7D :: rest => some (.object [], rest)
      | rest => do
        let (members, rest) ← readMembers fuel rest
        return (.object members, rest)
    | 0x6E :: rest => (skipWord [0x75, 0x6C, 0x6C] rest).map (.null, ·)
    | 0x74 :: rest => (skipWord [0x72, 0x75, 0x65] rest).map (.bool true, ·)
    | 0x66 :: rest => (skipWord [0x61, 0x6C, 0x73, 0x65] rest).map (.bool false, ·)
    | rest => do
      let (n, rest) ← readNumeral rest
      return (.number n, rest)

/-- One or more items, and the closing bracket. -/
def readItems : Nat → Bytes → Option (List Json × Bytes)
  | 0, _ => none
  | fuel + 1, bs => do
    let (item, rest) ← readValue fuel bs
    match skipBlanks rest with
    | 0x5D :: rest => return ([item], rest)
    | 0x2C :: rest =>
      let (items, rest) ← readItems fuel rest
      return (item :: items, rest)
    | _ => none

/-- One or more members, and the closing brace. -/
def readMembers : Nat → Bytes → Option (List (Option String × Json) × Bytes)
  | 0, _ => none
  | fuel + 1, bs =>
    match skipBlanks bs with
    | 0x22 :: rest => do
      let (key, rest) ← readString rest
      match skipBlanks rest with
      | 0x3A :: rest =>
        let (value, rest) ← readValue fuel rest
        match skipBlanks rest with
        | 0x7D :: rest => return ([(key, value)], rest)
        | 0x2C :: rest =>
          let (members, rest) ← readMembers fuel rest
          return ((key, value) :: members, rest)
        | _ => none
      | _ => none
    | _ => none

end

/-- The value a whole text writes. -/
def parse (bs : Bytes) : Option Json := do
  let (value, rest) ← readValue (bs.length + 1) bs
  if (skipBlanks rest).isEmpty then some value else none

def parseText (s : String) : Option Json := parse (Text.toUtf8 s)

end CarCatalog.Json

import CarCatalog.Json.Reader

/-!
# The grammar of JSON texts

`Spelled j bs` says that the bytes spell a value, from its first character to its last, and
`Written j bs` that they do with blanks around it.  Blanks may stand between any two tokens, a
number has no leading zero, and a string is pieces: bytes that stand for themselves, escapes of one
letter, and 16-bit units.  What a string says as a text is left to its pieces, so a value is spelled
whether or not its strings are Unicode text and its numbers fit anything.
-/

namespace CarCatalog

/-! ## Numbers -/

def Digit.byte (d : Digit) : UInt8 := .ofNat (48 + d.val)

namespace Numeral

/-- A single zero, or digits that start with none. -/
def IsWhole (ds : List Digit) : Prop := ds = [0] ∨ ∃ d rest, ds = d :: rest ∧ d ≠ 0

inductive FractionSpelled : List Digit → Bytes → Prop
  | absent : FractionSpelled [] []
  | present {ds : List Digit} (some_digit : ds ≠ []) :
    FractionSpelled ds (0x2E :: ds.map Digit.byte)

inductive ExponentSpelled : Option Int → Bytes → Prop
  | absent : ExponentSpelled none []
  | plain {e : UInt8} {ds : List Digit} (letter : e = 0x65 ∨ e = 0x45) (some_digit : ds ≠ []) :
    ExponentSpelled (some (natValue ds)) (e :: ds.map Digit.byte)
  | plus {e : UInt8} {ds : List Digit} (letter : e = 0x65 ∨ e = 0x45) (some_digit : ds ≠ []) :
    ExponentSpelled (some (natValue ds)) (e :: 0x2B :: ds.map Digit.byte)
  | minus {e : UInt8} {ds : List Digit} (letter : e = 0x65 ∨ e = 0x45) (some_digit : ds ≠ []) :
    ExponentSpelled (some (-(natValue ds : Int))) (e :: 0x2D :: ds.map Digit.byte)

def signBytes (negative : Bool) : Bytes := if negative then [0x2D] else []

inductive Spelled (n : Numeral) : Bytes → Prop
  | mk {fraction exponent : Bytes} (whole : IsWhole n.whole)
    (hf : FractionSpelled n.fraction fraction) (he : ExponentSpelled n.exponent exponent) :
    Spelled n (signBytes n.negative ++ (n.whole.map Digit.byte ++ (fraction ++ exponent)))

end Numeral

namespace Json

/-! ## Strings -/

inductive PieceSpelled : Piece → Bytes → Prop
  | plain {b : UInt8} (visible : ¬b < 0x20) (not_quote : b ≠ 0x22) (not_escape : b ≠ 0x5C) :
    PieceSpelled (.byte b) [b]
  | letter {e b : UInt8} (h : escape? e = some b) : PieceSpelled (.byte b) [0x5C, e]
  | unit {a b c d : UInt8} {n : Nat} (h : hexUnit? a b c d = some n) :
    PieceSpelled (.unit n) [0x5C, 0x75, a, b, c, d]

inductive PiecesSpelled : List Piece → Bytes → Prop
  | nil : PiecesSpelled [] []
  | cons {p : Piece} {ps : List Piece} {front rest : Bytes} (first : PieceSpelled p front)
    (more : PiecesSpelled ps rest) : PiecesSpelled (p :: ps) (front ++ rest)

/-- A string between its quotes; none where the pieces are no Unicode text. -/
inductive StringSpelled : Option String → Bytes → Prop
  | quoted {ps : List Piece} {bs : Bytes} (h : PiecesSpelled ps bs) :
    StringSpelled ((joinPieces ps).bind Text.ofUtf8) (0x22 :: (bs ++ [0x22]))

/-! ## Values -/

def Blank (bs : Bytes) : Prop := ∀ b ∈ bs, isBlank b

mutual

inductive Spelled : Json → Bytes → Prop
  | null : Spelled .null [0x6E, 0x75, 0x6C, 0x6C]
  | isTrue : Spelled (.bool true) [0x74, 0x72, 0x75, 0x65]
  | isFalse : Spelled (.bool false) [0x66, 0x61, 0x6C, 0x73, 0x65]
  | number {n : Numeral} {bs : Bytes} (h : n.Spelled bs) : Spelled (.number n) bs
  | string {s : Option String} {bs : Bytes} (h : StringSpelled s bs) : Spelled (.string s) bs
  | noItems {w : Bytes} (blank : Blank w) : Spelled (.array []) (0x5B :: (w ++ [0x5D]))
  | array {items : List Json} {bs : Bytes} (h : ItemsSpelled items bs) :
    Spelled (.array items) (0x5B :: (bs ++ [0x5D]))
  | noMembers {w : Bytes} (blank : Blank w) : Spelled (.object []) (0x7B :: (w ++ [0x7D]))
  | object {members : List (Option String × Json)} {bs : Bytes} (h : MembersSpelled members bs) :
    Spelled (.object members) (0x7B :: (bs ++ [0x7D]))

/-- One or more items, with commas between them. -/
inductive ItemsSpelled : List Json → Bytes → Prop
  | last {j : Json} {w bs w' : Bytes} (before : Blank w) (h : Spelled j bs) (after : Blank w') :
    ItemsSpelled [j] (w ++ (bs ++ w'))
  | more {j : Json} {js : List Json} {w bs w' rest : Bytes} (before : Blank w) (h : Spelled j bs)
    (after : Blank w') (others : ItemsSpelled js rest) :
    ItemsSpelled (j :: js) (w ++ (bs ++ (w' ++ 0x2C :: rest)))

/-- A key, a colon and a value. -/
inductive MemberSpelled : Option String × Json → Bytes → Prop
  | mk {key : Option String} {j : Json} {kbs w w' bs : Bytes} (hk : StringSpelled key kbs)
    (before : Blank w) (after : Blank w') (h : Spelled j bs) :
    MemberSpelled (key, j) (kbs ++ (w ++ 0x3A :: (w' ++ bs)))

/-- One or more members, with commas between them. -/
inductive MembersSpelled : List (Option String × Json) → Bytes → Prop
  | last {m : Option String × Json} {w bs w' : Bytes} (before : Blank w) (h : MemberSpelled m bs)
    (after : Blank w') : MembersSpelled [m] (w ++ (bs ++ w'))
  | more {m : Option String × Json} {ms : List (Option String × Json)} {w bs w' rest : Bytes}
    (before : Blank w) (h : MemberSpelled m bs) (after : Blank w')
    (others : MembersSpelled ms rest) :
    MembersSpelled (m :: ms) (w ++ (bs ++ (w' ++ 0x2C :: rest)))

end

/-- A value that is a whole text. -/
inductive Written (j : Json) : Bytes → Prop
  | mk {w bs w' : Bytes} (before : Blank w) (h : Spelled j bs) (after : Blank w') :
    Written j (w ++ (bs ++ w'))

end Json

end CarCatalog

import CarCatalog.Json.Basic
import CarCatalog.Text.Bytes

/-!
# Writing JSON text

`Json.print` writes a value without blanks, members in their order.  Quotes, backslashes and control
characters are escaped, the common ones by a letter; all else stands as it is.
-/

namespace CarCatalog.Json

def printDigits (ds : List Digit) : List Char := ds.map fun d => Nat.digitChar d.val

def printNumeral (n : Numeral) : List Char :=
  (if n.negative then ['-'] else []) ++ printDigits n.whole ++
  (if n.fraction.isEmpty then [] else '.' :: printDigits n.fraction) ++
  match n.exponent with
  | none => []
  | some e => 'e' :: (toString e).toList

def escape (c : Char) : List Char :=
  match c with
  | '"' => ['\\', '"']
  | '\\' => ['\\', '\\']
  | '\n' => ['\\', 'n']
  | '\r' => ['\\', 'r']
  | '\t' => ['\\', 't']
  | '\x08' => ['\\', 'b']
  | '\x0c' => ['\\', 'f']
  | c =>
    if c.toNat < 0x20 then
      ['\\', 'u', '0', '0', Nat.digitChar (c.toNat / 16), Nat.digitChar (c.toNat % 16)]
    else [c]

def printString (s : String) : List Char := '"' :: s.toList.flatMap escape ++ ['"']

mutual

def printChars : Json → List Char
  | .null => ['n', 'u', 'l', 'l']
  | .bool true => ['t', 'r', 'u', 'e']
  | .bool false => ['f', 'a', 'l', 's', 'e']
  | .number n => printNumeral n
  | .string s => printString (s.getD "")
  | .array [] => ['[', ']']
  | .array (j :: js) => '[' :: printChars j ++ printItems js
  | .object [] => ['\x7b', '\x7d']
  | .object ((k, j) :: js) =>
    '\x7b' :: printString (k.getD "") ++ ':' :: printChars j ++ printMembers js

/-- The items after the first, and the closing bracket. -/
def printItems : List Json → List Char
  | [] => [']']
  | j :: js => ',' :: printChars j ++ printItems js

/-- The members after the first, and the closing brace. -/
def printMembers : List (Option String × Json) → List Char
  | [] => ['\x7d']
  | (k, j) :: js => ',' :: printString (k.getD "") ++ ':' :: printChars j ++ printMembers js

end

def print (j : Json) : String := String.ofList (printChars j)

def toBytes (j : Json) : Bytes := Text.toUtf8 j.print

end CarCatalog.Json

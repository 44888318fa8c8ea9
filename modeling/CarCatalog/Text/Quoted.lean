import CarCatalog.Text.GraphemeExtend
import CarCatalog.Text.Unprintable

/-!
# Quoted texts

`quote` shows a text between double quotes.  Quotes, backslashes and the common control characters
are escaped by a letter; any other character that would not be seen on its own is written by its
code.
-/

namespace CarCatalog.Text

def inRanges (ranges : List (Nat × Nat)) (c : Char) : Bool :=
  ranges.any fun r => r.1 ≤ c.toNat && c.toNat ≤ r.2

/-- Whether a character is seen as it is. -/
def isVisible (c : Char) : Bool := !inRanges unprintable c && !inRanges graphemeExtend c

def quoteChar (c : Char) : List Char :=
  match c with
  | '"' => ['\\', '"']
  | '\\' => ['\\', '\\']
  | '\n' => ['\\', 'n']
  | '\r' => ['\\', 'r']
  | '\t' => ['\\', 't']
  | '\x00' => ['\\', '0']
  | c => if isVisible c then [c] else '\\' :: 'u' :: '\x7b' :: Nat.toDigits 16 c.toNat ++ ['\x7d']

def quote (s : String) : String := String.ofList ('"' :: s.toList.flatMap quoteChar ++ ['"'])

end CarCatalog.Text

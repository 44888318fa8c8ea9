import CarCatalog.Json.Writer
import CarCatalog.Proofs.Json.Reader
import CarCatalog.Text.Integer

/-!
# What is written is read back

A value is writable if every string in it is a text and no number has a leading zero.  Its printed
form is then one of the forms the grammar has for it.

    j.Writable → Json.parse j.toBytes = some j          (parse_toBytes)
-/

namespace CarCatalog

namespace Text

def utf8 (cs : List Char) : Bytes := cs.flatMap String.utf8EncodeChar

@[simp] theorem utf8_nil : utf8 [] = [] := rfl

@[simp] theorem utf8_cons (c : Char) (cs : List Char) :
    utf8 (c :: cs) = String.utf8EncodeChar c ++ utf8 cs := by
  simp [utf8]

@[simp] theorem utf8_append (cs ds : List Char) : utf8 (cs ++ ds) = utf8 cs ++ utf8 ds := by
  simp [utf8]

theorem toUtf8_ofList (cs : List Char) : toUtf8 (String.ofList cs) = utf8 cs := by
  simp [toUtf8, utf8, String.toUTF8, String.ofList, List.utf8Encode]

theorem toUtf8_eq (s : String) : toUtf8 s = utf8 s.toList := by
  rw [← toUtf8_ofList, String.ofList_toList]

theorem utf8EncodeChar_of_lt {c : Char} (h : c.toNat < 128) :
    String.utf8EncodeChar c = [.ofNat c.toNat] := by
  have : c.val.toNat ≤ 127 := Nat.le_of_lt_succ h
  rw [String.utf8EncodeChar, if_pos this]
  rfl

/-- Past the first 128 characters every byte has its high bit set. -/
theorem le_of_mem_utf8EncodeChar {c : Char} (h : 128 ≤ c.toNat) :
    ∀ b ∈ String.utf8EncodeChar c, 128 ≤ b.toNat := by
  have large : ¬c.val.toNat ≤ 127 := Nat.not_le_of_lt h
  have high : ∀ n, n < 128 → 128 ≤ (UInt8.ofNat (n + 128)).toNat := by
    intro n hn
    rw [UInt8.toNat_ofNat']
    omega
  intro b hb
  -- two, three or four bytes, each a few bits under a mark of 128 or more
  rw [String.utf8EncodeChar, if_neg large] at hb
  split at hb
  · simp only [List.mem_cons, List.not_mem_nil, or_false] at hb
    rcases hb with rfl | rfl
    · exact high (_ + 64) (by omega)
    · exact high _ (by omega)
  · split at hb
    · simp only [List.mem_cons, List.not_mem_nil, or_false] at hb
      rcases hb with rfl | rfl | rfl
      · exact high (_ + 96) (by omega)
      · exact high _ (by omega)
      · exact high _ (by omega)
    · simp only [List.mem_cons, List.not_mem_nil, or_false] at hb
      rcases hb with rfl | rfl | rfl | rfl
      · exact high (_ + 112) (by omega)
      · exact high _ (by omega)
      · exact high _ (by omega)
      · exact high _ (by omega)

end Text

/-! ## Numbers -/

namespace Numeral

theorem utf8EncodeChar_digitChar (d : Digit) :
    String.utf8EncodeChar (Nat.digitChar d.val) = [d.byte] := by
  revert d
  decide

theorem utf8_printDigits (ds : List Digit) :
    Text.utf8 (Json.printDigits ds) = ds.map Digit.byte := by
  induction ds with
  | nil => rfl
  | cons d ds ih =>
    show String.utf8EncodeChar _ ++ Text.utf8 (Json.printDigits ds) = _
    rw [utf8EncodeChar_digitChar, ih]
    rfl

/-- The digits of a natural number, without a leading zero. -/
def digitsOf (n : Nat) : List Digit := (ofNat n).whole

theorem digit_of_char {c : Char} (h : c.isDigit = true) :
    48 + (Digit.ofNat (c.toNat - 48)).val = c.toNat := by
  simp only [Char.isDigit, Bool.and_eq_true, decide_eq_true_eq, ge_iff_le,
    UInt32.le_iff_toNat_le] at h
  have lo : 48 ≤ c.toNat := h.1
  have hi : c.toNat ≤ 57 := h.2
  show 48 + (c.toNat - 48) % 10 = c.toNat
  omega

theorem isDigit_of_mem {n : Nat} {c : Char} (h : c ∈ Nat.toDigits 10 n) : c.isDigit = true :=
  Nat.isDigit_of_mem_toDigits (by decide) (by decide) h

/-- The digits that characters stand for. -/
def digitsIn (cs : List Char) : List Digit := cs.map fun c => Digit.ofNat (c.toNat - 48)

theorem utf8_digits {cs : List Char} (h : ∀ c ∈ cs, c.isDigit = true) :
    Text.utf8 cs = (digitsIn cs).map Digit.byte := by
  induction cs with
  | nil => rfl
  | cons c cs ih =>
    have hc := digit_of_char (h c List.mem_cons_self)
    have small : c.toNat < 128 := by
      have := (Digit.ofNat (c.toNat - 48)).isLt
      omega
    have rest := ih fun d hd => h d (List.mem_cons_of_mem _ hd)
    rw [Text.utf8_cons, Text.utf8EncodeChar_of_lt small, rest]
    show _ = Digit.byte (Digit.ofNat (c.toNat - 48)) :: (digitsIn cs).map Digit.byte
    rw [Digit.byte, hc]
    rfl

theorem foldl_digits {cs : List Char} (h : ∀ c ∈ cs, c.isDigit = true) (init : Nat) :
    (digitsIn cs).foldl (fun n d => n * 10 + d.val) init = Nat.ofDigitChars 10 cs init := by
  induction cs generalizing init with
  | nil => rfl
  | cons c cs ih =>
    have hc := digit_of_char (h c List.mem_cons_self)
    have step : init * 10 + (Digit.ofNat (c.toNat - 48)).val =
        10 * init + (c.toNat - '0'.toNat) := by
      show _ = 10 * init + (c.toNat - 48)
      omega
    rw [Nat.ofDigitChars_cons, ← step]
    exact ih (fun d hd => h d (List.mem_cons_of_mem _ hd)) _

theorem utf8_toDigits (n : Nat) : Text.utf8 (Nat.toDigits 10 n) = (digitsOf n).map Digit.byte :=
  utf8_digits fun _ hc => isDigit_of_mem hc

theorem natValue_digitsOf (n : Nat) : natValue (digitsOf n) = n := by
  have digits : ∀ c ∈ Nat.toDigits 10 n, c.isDigit = true := fun _ hc => isDigit_of_mem hc
  have read := foldl_digits digits 0
  rwa [Nat.ofDigitChars_ten_toDigits] at read

theorem toInt?_ofInt (i : Int) : (Numeral.ofInt i).toInt? = some i := by
  cases i with
  | ofNat n =>
    have value : natValue (ofNat n).whole = n := natValue_digitsOf n
    show some ((natValue (ofNat n).whole : Nat) : Int) = _
    rw [value]
    rfl
  | negSucc n =>
    have value : natValue (ofNat (n + 1)).whole = n + 1 := natValue_digitsOf (n + 1)
    show (if natValue (ofNat (n + 1)).whole = 0 then none
      else some (-((natValue (ofNat (n + 1)).whole : Nat) : Int))) = _
    rw [value, if_neg (Nat.succ_ne_zero n)]
    rfl

theorem digitsOf_ne_nil (n : Nat) : digitsOf n ≠ [] := by
  intro h
  exact Nat.toDigits_ne_nil (List.map_eq_nil_iff.mp h)

/-- Only zero starts with a zero. -/
theorem isWhole_digitsOf (n : Nat) : IsWhole (digitsOf n) := by
  by_cases zero : n = 0
  · subst zero
    exact .inl rfl
  · refine .inr ?_
    induction n using Nat.strongRecOn with
    | ind n ih =>
      by_cases small : n < 10
      · have table : ∀ n < 10, n ≠ 0 → ∃ d, digitsOf n = [d] ∧ d ≠ 0 := by
          intro n hn nonzero
          refine ⟨⟨n, hn⟩, ?_, fun h => nonzero (congrArg Fin.val h)⟩
          have : ∀ d : Digit, digitsOf d.val = [d] := by decide
          exact this ⟨n, hn⟩
        obtain ⟨d, hd, nonzero⟩ := table n small zero
        exact ⟨d, [], hd, nonzero⟩
      · obtain ⟨d, rest, hd, nonzero⟩ := ih (n / 10) (by omega) (by omega)
        refine ⟨d, rest ++ digitsOf (n % 10), ?_, nonzero⟩
        have parts : digitsOf n = digitsOf (n / 10) ++ digitsOf (n % 10) := by
          show (Nat.toDigits 10 n).map _ = (Nat.toDigits 10 (n / 10)).map _ ++
            (Nat.toDigits 10 (n % 10)).map _
          rw [Nat.toDigits_of_base_le (by decide) (by omega), List.map_append,
            Nat.toDigits_of_lt_base (n := n % 10) (by omega)]
        rw [parts, hd]
        rfl

theorem isWhole_ofInt (i : Int) : IsWhole (ofInt i).whole := by
  cases i with
  | ofNat n => exact isWhole_digitsOf n
  | negSucc n => exact isWhole_digitsOf (n + 1)

theorem spelled_printFraction (ds : List Digit) :
    FractionSpelled ds (Text.utf8 (if ds.isEmpty then [] else '.' :: Json.printDigits ds)) := by
  cases ds with
  | nil => exact .absent
  | cons d ds =>
    have digits := utf8_printDigits (d :: ds)
    show FractionSpelled (d :: ds) (Text.utf8 ('.' :: Json.printDigits (d :: ds)))
    rw [Text.utf8_cons, digits]
    exact .present (List.cons_ne_nil _ _)

theorem spelled_printExponent (e : Int) :
    ExponentSpelled (some e) (Text.utf8 ('e' :: (toString e).toList)) := by
  cases e with
  | ofNat n =>
    have := ExponentSpelled.plain (e := 0x65) (.inl rfl) (digitsOf_ne_nil n)
    rw [natValue_digitsOf] at this
    rw [Text.toList_toString_ofNat, Text.utf8_cons, utf8_toDigits]
    exact this
  | negSucc n =>
    have := ExponentSpelled.minus (e := 0x65) (.inl rfl) (digitsOf_ne_nil (n + 1))
    rw [natValue_digitsOf] at this
    rw [Text.toList_toString_negSucc, Text.utf8_cons, Text.utf8_cons, utf8_toDigits]
    exact this

theorem spelled_printNumeral {n : Numeral} (whole : IsWhole n.whole) :
    n.Spelled (Text.utf8 (Json.printNumeral n)) := by
  have sign : Text.utf8 (if n.negative then ['-'] else []) = signBytes n.negative := by
    cases n.negative <;> rfl
  have parts : ∀ es, ExponentSpelled n.exponent (Text.utf8 es) →
      n.Spelled (Text.utf8 ((if n.negative then ['-'] else []) ++ Json.printDigits n.whole ++
        (if n.fraction.isEmpty then [] else '.' :: Json.printDigits n.fraction) ++ es)) := by
    intro es exponent
    have spelled := Spelled.mk whole (spelled_printFraction n.fraction) exponent
    rw [Text.utf8_append, Text.utf8_append, Text.utf8_append, sign, utf8_printDigits]
    simp only [List.append_assoc]
    exact spelled
  refine parts _ ?_
  cases n.exponent with
  | none => exact .absent
  | some e => exact spelled_printExponent e

end Numeral

namespace Json

/-! ## Strings -/

theorem PiecesSpelled.append {ps qs : List Piece} {bs cs : Bytes} (h : PiecesSpelled ps bs)
    (h' : PiecesSpelled qs cs) : PiecesSpelled (ps ++ qs) (bs ++ cs) := by
  induction h with
  | nil => exact h'
  | cons first _ ih =>
    rw [List.append_assoc]
    exact .cons first ih

/-- Pieces that are spelled so and stand for a character. -/
def CharSpelled (c : Char) (bs : Bytes) : Prop :=
  ∃ ps, PiecesSpelled ps bs ∧
    ∀ more, joinPieces (ps ++ more) = (joinPieces more).map (String.utf8EncodeChar c ++ ·)

theorem charSpelled_letter {c : Char} {e : UInt8} (small : c.toNat < 128)
    (h : escape? e = some (.ofNat c.toNat)) : CharSpelled c [0x5C, e] := by
  refine ⟨[.byte (.ofNat c.toNat)], .cons (.letter h) .nil, fun more => ?_⟩
  rw [Text.utf8EncodeChar_of_lt small]
  rfl

/-- The two digits of a control character's escape. -/
def hexByte (n : Nat) : UInt8 := .ofNat (Nat.digitChar n).toNat

theorem charSpelled_unit {c : Char} (control : c.toNat < 0x20) :
    CharSpelled c (Text.utf8
      ['\\', 'u', '0', '0', Nat.digitChar (c.toNat / 16), Nat.digitChar (c.toNat % 16)]) := by
  have table : ∀ n < 0x20, hexUnit? 0x30 0x30 (hexByte (n / 16)) (hexByte (n % 16)) = some n ∧
      Text.utf8 ['\\', 'u', '0', '0', Nat.digitChar (n / 16), Nat.digitChar (n % 16)] =
        [0x5C, 0x75, 0x30, 0x30, hexByte (n / 16), hexByte (n % 16)] := by
    decide +kernel
  obtain ⟨unit, text⟩ := table c.toNat control
  rw [text]
  refine ⟨[.unit c.toNat], .cons (.unit unit) .nil, fun more => ?_⟩
  have low : (decide (c.toNat < 0xD800) || decide (0xDFFF < c.toNat)) = true := by
    simp only [Bool.or_eq_true, decide_eq_true_eq]
    omega
  have encoded : encodeUnit c.toNat = String.utf8EncodeChar c := by
    rw [encodeUnit, Char.ofNat_toNat, Text.toUtf8_eq]
    simp
  show joinPieces (.unit c.toNat :: more) = _
  rw [joinPieces.eq_def]
  simp only [low, if_true, encoded]

theorem spelled_bytes {bs : Bytes} (h : ∀ b ∈ bs, PieceSpelled (.byte b) [b]) :
    PiecesSpelled (bs.map Piece.byte) bs := by
  induction bs with
  | nil => exact .nil
  | cons b bs ih =>
    exact .cons (h b List.mem_cons_self) (ih fun c hc => h c (List.mem_cons_of_mem _ hc))

theorem joinPieces_bytes (bs : Bytes) (more : List Piece) :
    joinPieces (bs.map Piece.byte ++ more) = (joinPieces more).map (bs ++ ·) := by
  induction bs with
  | nil => simp
  | cons b bs ih =>
    show (joinPieces (bs.map Piece.byte ++ more)).map (b :: ·) = _
    rw [ih, Option.map_map]
    rfl

/-- The bytes of a character that is not escaped stand for themselves. -/
theorem spelled_of_mem_utf8EncodeChar {c : Char} (visible : ¬c.toNat < 0x20) (not_quote : c ≠ '"')
    (not_escape : c ≠ '\\') {b : UInt8} (hb : b ∈ String.utf8EncodeChar c) :
    PieceSpelled (.byte b) [b] := by
  have codes : ('"' : Char).toNat = 0x22 ∧ ('\\' : Char).toNat = 0x5C := by decide
  have hq : c.toNat ≠ 0x22 := fun h => not_quote (Char.toNat_inj.mp (h.trans codes.1.symm))
  have hs : c.toNat ≠ 0x5C := fun h => not_escape (Char.toNat_inj.mp (h.trans codes.2.symm))
  have number : 0x20 ≤ b.toNat ∧ b.toNat ≠ 0x22 ∧ b.toNat ≠ 0x5C := by
    by_cases small : c.toNat < 128
    · rw [Text.utf8EncodeChar_of_lt small, List.mem_singleton] at hb
      subst hb
      rw [UInt8.toNat_ofNat']
      omega
    · have := Text.le_of_mem_utf8EncodeChar (Nat.le_of_not_lt small) b hb
      omega
  refine .plain ?_ ?_ ?_
  · rw [UInt8.lt_iff_toNat_lt]
    exact Nat.not_lt.mpr number.1
  · rintro rfl
    exact number.2.1 rfl
  · rintro rfl
    exact number.2.2 rfl

/-- A character that stands for itself. -/
theorem charSpelled_self {c : Char} (visible : ¬c.toNat < 0x20) (not_quote : c ≠ '"')
    (not_escape : c ≠ '\\') : CharSpelled c (String.utf8EncodeChar c) :=
  ⟨_, spelled_bytes fun _ hb => spelled_of_mem_utf8EncodeChar visible not_quote not_escape hb,
    joinPieces_bytes _⟩

theorem charSpelled_escape (c : Char) : CharSpelled c (Text.utf8 (escape c)) := by
  unfold escape
  split
  · exact charSpelled_letter (by decide) rfl
  · exact charSpelled_letter (by decide) rfl
  · exact charSpelled_letter (by decide) rfl
  · exact charSpelled_letter (by decide) rfl
  · exact charSpelled_letter (by decide) rfl
  · exact charSpelled_letter (by decide) rfl
  · exact charSpelled_letter (by decide) rfl
  · next not_quote not_escape _ _ _ _ _ =>
    split
    · next control => exact charSpelled_unit control
    · next visible =>
      rw [Text.utf8_cons, Text.utf8_nil, List.append_nil]
      exact charSpelled_self visible not_quote not_escape

theorem spelled_escaped (cs : List Char) :
    ∃ ps, PiecesSpelled ps (Text.utf8 (cs.flatMap escape)) ∧ joinPieces ps = some (Text.utf8 cs) := by
  induction cs with
  | nil => exact ⟨[], .nil, rfl⟩
  | cons c cs ih =>
    obtain ⟨ps, spelled, joined⟩ := ih
    obtain ⟨front, first, join_front⟩ := charSpelled_escape c
    refine ⟨front ++ ps, ?_, ?_⟩
    · rw [List.flatMap_cons, Text.utf8_append]
      exact first.append spelled
    · rw [join_front, joined, Text.utf8_cons]
      rfl

theorem spelled_printString (s : String) :
    StringSpelled (some s) (Text.utf8 (printString s)) := by
  obtain ⟨ps, spelled, joined⟩ := spelled_escaped s.toList
  have quoted := StringSpelled.quoted spelled
  rw [joined, ← Text.toUtf8_eq, Option.bind_some, Text.ofUtf8_toUtf8] at quoted
  rw [printString, Text.utf8_append, Text.utf8_cons]
  exact quoted

/-! ## Values -/

mutual

/-- Every string is a text, and no number has a leading zero. -/
def Writable : Json → Prop
  | .number n => Numeral.IsWhole n.whole
  | .string s => s.isSome
  | .array items => ItemsWritable items
  | .object members => MembersWritable members
  | _ => True

def ItemsWritable : List Json → Prop
  | [] => True
  | j :: js => j.Writable ∧ ItemsWritable js

def MembersWritable : List (Option String × Json) → Prop
  | [] => True
  | (k, j) :: ms => k.isSome ∧ j.Writable ∧ MembersWritable ms

end

theorem writable_int (i : Int) : (Json.int i).Writable := Numeral.isWhole_ofInt i

theorem writable_text (s : String) : (Json.text s).Writable := rfl

theorem writable_record {members : List (String × Json)} (h : ∀ m ∈ members, m.2.Writable) :
    (Json.record members).Writable := by
  show MembersWritable (members.map fun m => (some m.1, m.2))
  induction members with
  | nil => exact trivial
  | cons m ms ih =>
    exact ⟨rfl, h m List.mem_cons_self, ih fun m' hm => h m' (List.mem_cons_of_mem _ hm)⟩

theorem blank_nil : Blank [] := by
  intro b h
  cases h

theorem spelled_key {k : Option String} (h : k.isSome) :
    StringSpelled k (Text.utf8 (printString (k.getD ""))) := by
  obtain ⟨s, rfl⟩ := Option.isSome_iff_exists.mp h
  exact spelled_printString s

/-- The marks between values, as bytes. -/
theorem utf8_marks :
    Text.utf8 ['['] = [0x5B] ∧ Text.utf8 [']'] = [0x5D] ∧ Text.utf8 [','] = [0x2C] ∧
      Text.utf8 ['\x7b'] = [0x7B] ∧ Text.utf8 ['\x7d'] = [0x7D] ∧ Text.utf8 [':'] = [0x3A] := by
  decide

theorem utf8_mark {c : Char} {b : UInt8} (h : Text.utf8 [c] = [b]) (cs : List Char) :
    Text.utf8 (c :: cs) = b :: Text.utf8 cs := by
  rw [← List.singleton_append, Text.utf8_append, h]
  rfl

/-- A member as it is written: nothing stands around the colon. -/
theorem spelled_member {k : Option String} {j : Json} {bs : Bytes} (hk : k.isSome)
    (h : Spelled j bs) :
    MemberSpelled (k, j) (Text.utf8 (printString (k.getD "")) ++ 0x3A :: bs) :=
  .mk (spelled_key hk) blank_nil blank_nil h

theorem ItemsSpelled.tight_last {j : Json} {bs : Bytes} (h : Spelled j bs) :
    ItemsSpelled [j] bs := by
  have := ItemsSpelled.last blank_nil h blank_nil
  rwa [List.append_nil, List.nil_append] at this

theorem ItemsSpelled.tight_more {j : Json} {js : List Json} {bs rest : Bytes} (h : Spelled j bs)
    (others : ItemsSpelled js rest) : ItemsSpelled (j :: js) (bs ++ 0x2C :: rest) :=
  .more blank_nil h blank_nil others

theorem MembersSpelled.tight_last {m : Option String × Json} {bs : Bytes} (h : MemberSpelled m bs) :
    MembersSpelled [m] bs := by
  have := MembersSpelled.last blank_nil h blank_nil
  rwa [List.append_nil, List.nil_append] at this

theorem MembersSpelled.tight_more {m : Option String × Json} {ms : List (Option String × Json)}
    {bs rest : Bytes} (h : MemberSpelled m bs) (others : MembersSpelled ms rest) :
    MembersSpelled (m :: ms) (bs ++ 0x2C :: rest) :=
  .more blank_nil h blank_nil others

mutual

theorem spelled_printChars : ∀ j : Json, j.Writable → Spelled j (Text.utf8 (printChars j))
  | .null, _ => .null
  | .bool true, _ => .isTrue
  | .bool false, _ => .isFalse
  | .number _, h => .number (Numeral.spelled_printNumeral h)
  | .string _, h => .string (spelled_key h)
  | .array [], _ => .noItems blank_nil
  | .array (j :: js), h => by
    obtain ⟨hj, hjs⟩ := h
    obtain ⟨opening, -⟩ := utf8_marks
    obtain ⟨t, text, spelled⟩ := spelled_printItems js hjs (spelled_printChars j hj)
    rw [printChars, List.cons_append, utf8_mark opening, Text.utf8_append, text,
      ← List.append_assoc]
    exact .array spelled
  | .object [], _ => .noMembers blank_nil
  | .object ((k, j) :: ms), h => by
    obtain ⟨hk, hj, hms⟩ := h
    obtain ⟨-, -, -, opening, -, colon⟩ := utf8_marks
    have member := spelled_member hk (spelled_printChars j hj)
    obtain ⟨t, text, spelled⟩ := spelled_printMembers ms hms member
    have shape : Text.utf8 (printChars (.object ((k, j) :: ms))) =
        0x7B :: ((Text.utf8 (printString (k.getD "")) ++ 0x3A :: Text.utf8 (printChars j)) ++ t ++
          [0x7D]) := by
      rw [printChars, List.cons_append, List.cons_append, utf8_mark opening, List.append_assoc,
        Text.utf8_append, List.cons_append, utf8_mark colon, Text.utf8_append, text]
      simp only [List.append_assoc, List.cons_append]
    rw [shape]
    exact .object spelled

/-- The items after one that is spelled, up to the closing bracket. -/
theorem spelled_printItems : ∀ (js : List Json), ItemsWritable js → ∀ {j : Json} {bs : Bytes},
    Spelled j bs → ∃ t, Text.utf8 (printItems js) = t ++ [0x5D] ∧ ItemsSpelled (j :: js) (bs ++ t)
  | [], _, j, bs, hj => by
    refine ⟨[], rfl, ?_⟩
    rw [List.append_nil]
    exact .tight_last hj
  | j' :: js, h, j, bs, hj => by
    obtain ⟨hj', hjs⟩ := h
    obtain ⟨-, -, comma, -⟩ := utf8_marks
    obtain ⟨t, text, spelled⟩ := spelled_printItems js hjs (spelled_printChars j' hj')
    refine ⟨0x2C :: (Text.utf8 (printChars j') ++ t), ?_, .tight_more hj spelled⟩
    rw [printItems, List.cons_append, utf8_mark comma, Text.utf8_append, text]
    simp only [List.append_assoc, List.cons_append]

/-- The members after one that is spelled, up to the closing brace. -/
theorem spelled_printMembers : ∀ (ms : List (Option String × Json)), MembersWritable ms →
    ∀ {m : Option String × Json} {bs : Bytes}, MemberSpelled m bs →
      ∃ t, Text.utf8 (printMembers ms) = t ++ [0x7D] ∧ MembersSpelled (m :: ms) (bs ++ t)
  | [], _, m, bs, hm => by
    refine ⟨[], rfl, ?_⟩
    rw [List.append_nil]
    exact .tight_last hm
  | (k, j) :: ms, h, m, bs, hm => by
    obtain ⟨hk, hj, hms⟩ := h
    obtain ⟨-, -, comma, -, -, colon⟩ := utf8_marks
    have member := spelled_member hk (spelled_printChars j hj)
    obtain ⟨t, text, spelled⟩ := spelled_printMembers ms hms member
    refine ⟨0x2C :: (Text.utf8 (printString (k.getD "")) ++ 0x3A :: Text.utf8 (printChars j) ++ t),
      ?_, .tight_more hm spelled⟩
    rw [printMembers, List.cons_append, List.cons_append, utf8_mark comma, List.append_assoc,
      Text.utf8_append, List.cons_append, utf8_mark colon, Text.utf8_append, text]
    simp only [List.append_assoc, List.cons_append]

end

/-! ## Top theorem -/

/-- **What is written is read back.** -/
theorem parse_toBytes {j : Json} (h : j.Writable) : parse j.toBytes = some j := by
  have spelled := Written.mk blank_nil (spelled_printChars j h) blank_nil
  rw [List.append_nil, List.nil_append] at spelled
  rw [parse_eq_some_iff, toBytes, print, Text.toUtf8_ofList]
  exact spelled

end Json

end CarCatalog

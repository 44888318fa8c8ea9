import CarCatalog.Proofs.Json.Grammar

/-!
# Reading numbers and strings

A reader takes off the front of the bytes exactly what the grammar spells, if what follows cannot
belong to it (`Ends`): after a number no digit, point or exponent.  A string ends itself.

    n.Spelled bs → Ends rest → readNumeral (bs ++ rest) = some (n, rest)     (readNumeral_append)
    readNumeral bs = some (n, rest) → ∃ t, n.Spelled t ∧ bs = t ++ rest      (of_readNumeral)

and the same of strings.
-/

namespace CarCatalog

namespace Json

/-! ## Runs of bytes -/

/-- The front of the bytes, if there is one, is no byte of a kind. -/
def Stops (p : UInt8 → Bool) (bs : Bytes) : Prop := ∀ b rest, bs = b :: rest → p b = false

theorem stops_nil (p : UInt8 → Bool) : Stops p [] := by
  intro b rest h
  cases h

theorem stops_cons {p : UInt8 → Bool} {b : UInt8} {rest : Bytes} (h : p b = false) :
    Stops p (b :: rest) := by
  intro c more hc
  cases hc
  exact h

theorem takeWhile_append_of_stops {p : UInt8 → Bool} {front rest : Bytes}
    (h : ∀ b ∈ front, p b = true) (stops : Stops p rest) :
    (front ++ rest).takeWhile p = front ∧ (front ++ rest).dropWhile p = rest := by
  have empty : rest.takeWhile p = [] ∧ rest.dropWhile p = rest := by
    cases rest with
    | nil => exact ⟨rfl, rfl⟩
    | cons b rest =>
      have hb := stops b rest rfl
      constructor
      · rw [List.takeWhile_cons_of_neg (by simp [hb])]
      · rw [List.dropWhile_cons_of_neg (by simp [hb])]
  constructor
  · rw [List.takeWhile_append_of_pos h, empty.1, List.append_nil]
  · rw [List.dropWhile_append_of_pos h, empty.2]

theorem stops_dropWhile (p : UInt8 → Bool) (bs : Bytes) : Stops p (bs.dropWhile p) := by
  intro b rest h
  have := List.head?_dropWhile_not p bs
  rw [h] at this
  simpa using this

/-! ## Digits -/

theorem isDigit_iff (b : UInt8) : isDigit b = true ↔ 48 ≤ b.toNat ∧ b.toNat ≤ 57 := by
  simp only [isDigit, Bool.and_eq_true, decide_eq_true_eq, UInt8.le_iff_toNat_le]
  exact Iff.rfl

theorem toNat_byte (d : Digit) : d.byte.toNat = 48 + d.val := by
  have := d.isLt
  rw [Digit.byte, UInt8.toNat_ofNat']
  omega

theorem isDigit_byte (d : Digit) : isDigit d.byte = true := by
  have := d.isLt
  rw [isDigit_iff, toNat_byte]
  omega

theorem digit_byte (d : Digit) : digit d.byte = d := by
  have := d.isLt
  apply Fin.ext
  rw [digit, Digit.ofNat, toNat_byte]
  show (48 + d.val - 48) % 10 = d.val
  omega

theorem byte_digit {b : UInt8} (h : isDigit b = true) : (digit b).byte = b := by
  have := (isDigit_iff b).mp h
  apply UInt8.toNat_inj.mp
  rw [toNat_byte]
  show 48 + (b.toNat - 48) % 10 = b.toNat
  omega

theorem map_byte_digit {bs : Bytes} (h : ∀ b ∈ bs, isDigit b = true) :
    (bs.map digit).map Digit.byte = bs := by
  rw [List.map_map]
  conv => rhs; rw [← List.map_id bs]
  exact List.map_congr_left fun b hb => byte_digit (h b hb)

theorem map_digit_byte (ds : List Digit) : (ds.map Digit.byte).map digit = ds := by
  rw [List.map_map]
  conv => rhs; rw [← List.map_id ds]
  exact List.map_congr_left fun d _ => digit_byte d

theorem takeDigits_append (ds : List Digit) {rest : Bytes} (stops : Stops isDigit rest) :
    takeDigits (ds.map Digit.byte ++ rest) = (ds, rest) := by
  have digits : ∀ b ∈ ds.map Digit.byte, isDigit b = true := by
    intro b hb
    obtain ⟨d, -, rfl⟩ := List.mem_map.mp hb
    exact isDigit_byte d
  obtain ⟨front, back⟩ := takeWhile_append_of_stops digits stops
  rw [takeDigits, front, back, map_digit_byte]

theorem of_takeDigits {bs rest : Bytes} {ds : List Digit} (h : takeDigits bs = (ds, rest)) :
    bs = ds.map Digit.byte ++ rest ∧ Stops isDigit rest := by
  have hds : ds = (bs.takeWhile isDigit).map digit := (congrArg Prod.fst h).symm
  have hrest : rest = bs.dropWhile isDigit := (congrArg Prod.snd h).symm
  subst hds hrest
  refine ⟨?_, stops_dropWhile isDigit bs⟩
  rw [map_byte_digit (List.all_eq_true.mp List.all_takeWhile), List.takeWhile_append_dropWhile]

/-! ## Numbers -/

/-- What may follow a number: nothing that could belong to it. -/
def Ends (rest : Bytes) : Prop :=
  Stops (fun b => isDigit b || b == 0x2E || b == 0x65 || b == 0x45) rest

theorem Ends.digit {rest : Bytes} (h : Ends rest) : Stops isDigit rest := by
  intro b more hb
  have := h b more hb
  simp only [Bool.or_eq_false_iff] at this
  exact this.1.1.1

theorem Ends.point {rest : Bytes} (h : Ends rest) : Stops (· == 0x2E) rest := by
  intro b more hb
  have := h b more hb
  simp only [Bool.or_eq_false_iff] at this
  exact this.1.1.2

theorem Ends.letter {rest : Bytes} (h : Ends rest) :
    Stops (fun b => b == 0x65 || b == 0x45) rest := by
  intro b more hb
  have := h b more hb
  simp only [Bool.or_eq_false_iff] at this ⊢
  exact ⟨this.1.2, this.2⟩

theorem byte_ne {d : Digit} {b : UInt8} (h : isDigit b = false) : d.byte ≠ b := by
  intro eq
  rw [← eq, isDigit_byte] at h
  cases h

theorem readWhole_cons {b : UInt8} (nonzero : b ≠ 0x30) (rest : Bytes) :
    readWhole (b :: rest) = if isDigit b then some (takeDigits (b :: rest)) else none := by
  unfold readWhole
  split
  · next more eq =>
    exact absurd (List.cons.inj eq).1 nonzero
  · next eq =>
    obtain ⟨rfl, rfl⟩ := List.cons.inj eq
    rfl
  · next eq => cases eq

theorem readWhole_append {ds : List Digit} {rest : Bytes} (whole : Numeral.IsWhole ds)
    (stops : Stops isDigit rest) : readWhole (ds.map Digit.byte ++ rest) = some (ds, rest) := by
  rcases whole with rfl | ⟨d, ds, rfl, nonzero⟩
  · rfl
  · have hb : d.byte ≠ 0x30 := by
      intro eq
      apply nonzero
      rw [← digit_byte d, eq]
      rfl
    have run := takeDigits_append (d :: ds) stops
    rw [List.map_cons, List.cons_append] at run ⊢
    rw [readWhole_cons hb, if_pos (isDigit_byte d), run]

theorem of_readWhole {bs rest : Bytes} {ds : List Digit} (h : readWhole bs = some (ds, rest)) :
    Numeral.IsWhole ds ∧ bs = ds.map Digit.byte ++ rest := by
  cases bs with
  | nil => cases h
  | cons b more =>
    by_cases zero : b = 0x30
    · subst zero
      cases h
      exact ⟨.inl rfl, rfl⟩
    · rw [readWhole_cons zero] at h
      split at h
      · next hd =>
        have found := Option.some.inj h
        have front : ds = digit b :: (more.takeWhile isDigit).map digit := by
          have := congrArg Prod.fst found
          rw [takeDigits, List.takeWhile_cons_of_pos hd] at this
          exact this.symm
        refine ⟨.inr ⟨_, _, front, fun eq => zero ?_⟩, (of_takeDigits found).1⟩
        rw [← byte_digit hd, eq]
        rfl
      · cases h

theorem readFraction_append {ds : List Digit} {bs rest : Bytes}
    (h : Numeral.FractionSpelled ds bs) (digit : Stops isDigit rest)
    (point : Stops (· == 0x2E) rest) : readFraction (bs ++ rest) = some (ds, rest) := by
  cases h with
  | absent =>
    show readFraction rest = some ([], rest)
    unfold readFraction
    split
    · next more => exact absurd (point _ more rfl) (by decide)
    · rfl
  | present some_digit =>
    show readFraction (0x2E :: (ds.map Digit.byte ++ rest)) = _
    unfold readFraction
    simp only [takeDigits_append ds digit]
    cases ds with
    | nil => exact absurd rfl some_digit
    | cons d ds => rfl

theorem of_readFraction {bs rest : Bytes} {ds : List Digit}
    (h : readFraction bs = some (ds, rest)) :
    ∃ t, Numeral.FractionSpelled ds t ∧ bs = t ++ rest := by
  unfold readFraction at h
  split at h
  · next more =>
    split at h
    · cases h
    · next found nonempty =>
      cases h
      obtain ⟨eq, -⟩ := of_takeDigits (rfl : takeDigits more = _)
      refine ⟨_, .present ?_, congrArg (List.cons 0x2E) eq⟩
      intro none
      exact nonempty (takeDigits more).2 (Prod.ext none rfl)
  · cases h
    exact ⟨[], .absent, rfl⟩

/-- The sign of an exponent, if it has one, and what follows. -/
def takeSign : Bytes → Bool × Bytes
  | 0x2D :: rest => (true, rest)
  | 0x2B :: rest => (false, rest)
  | rest => (false, rest)

theorem readExponent_cons {e : UInt8} (letter : e = 0x65 ∨ e = 0x45) (rest : Bytes) :
    readExponent (e :: rest) =
      match takeDigits (takeSign rest).2 with
      | ([], _) => none
      | (ds, left) =>
        some (some (if (takeSign rest).1 then -(Numeral.natValue ds : Int)
          else Numeral.natValue ds), left) := by
  have : (e == 0x65 || e == 0x45) = true := by
    rcases letter with rfl | rfl <;> rfl
  unfold readExponent
  simp only [this, if_true]
  rfl

theorem readExponent_of_takeSign (negative : Bool) {e : UInt8} (letter : e = 0x65 ∨ e = 0x45)
    {ds : List Digit} (some_digit : ds ≠ []) {bs rest : Bytes} (stops : Stops isDigit rest)
    (h : takeSign bs = (negative, ds.map Digit.byte ++ rest)) :
    readExponent (e :: bs) =
      some (some (if negative then -(Numeral.natValue ds : Int) else Numeral.natValue ds),
        rest) := by
  rw [readExponent_cons letter, h]
  show (match takeDigits (ds.map Digit.byte ++ rest) with
    | ([], _) => none
    | (ds, left) => _) = _
  rw [takeDigits_append ds stops]
  cases ds with
  | nil => exact absurd rfl some_digit
  | cons d ds => rfl

theorem takeSign_of_isDigit {b : UInt8} (h : isDigit b = true) (rest : Bytes) :
    takeSign (b :: rest) = (false, b :: rest) := by
  unfold takeSign
  split
  · next eq =>
    rw [(List.cons.inj eq).1] at h
    cases h
  · next eq =>
    rw [(List.cons.inj eq).1] at h
    cases h
  · rfl

theorem readExponent_append {x : Option Int} {bs rest : Bytes}
    (h : Numeral.ExponentSpelled x bs) (digit : Stops isDigit rest)
    (letter : Stops (fun b => b == 0x65 || b == 0x45) rest) :
    readExponent (bs ++ rest) = some (x, rest) := by
  cases h with
  | absent =>
    show readExponent rest = some (none, rest)
    unfold readExponent
    split
    · next b more =>
      have other : (b == 0x65 || b == 0x45) = false := letter b more rfl
      rw [other]
      rfl
    · rfl
  | @plain e ds he some_digit =>
    refine readExponent_of_takeSign false he some_digit digit ?_
    cases ds with
    | nil => exact absurd rfl some_digit
    | cons d ds => exact takeSign_of_isDigit (isDigit_byte d) _
  | plus he some_digit =>
    exact readExponent_of_takeSign false he some_digit digit rfl
  | minus he some_digit =>
    exact readExponent_of_takeSign true he some_digit digit rfl

theorem of_readExponent {bs rest : Bytes} {x : Option Int} (h : readExponent bs = some (x, rest)) :
    ∃ t, Numeral.ExponentSpelled x t ∧ bs = t ++ rest := by
  cases bs with
  | nil =>
    cases h
    exact ⟨[], .absent, rfl⟩
  | cons e more =>
    by_cases letter : e = 0x65 ∨ e = 0x45
    · rw [readExponent_cons letter] at h
      split at h
      · cases h
      · next ds left nonempty eq =>
        obtain ⟨hd, -⟩ := of_takeDigits eq
        have some_digit : ds ≠ [] := nonempty
        cases h
        unfold takeSign at hd ⊢
        split at hd
        · exact ⟨_, .minus letter some_digit, congrArg (e :: 0x2D :: ·) hd⟩
        · exact ⟨_, .plus letter some_digit, congrArg (e :: 0x2B :: ·) hd⟩
        · exact ⟨_, .plain letter some_digit, congrArg (e :: ·) hd⟩
    · have other : (e == 0x65 || e == 0x45) = false := by
        simpa using letter
      unfold readExponent at h
      simp only [other] at h
      cases h
      exact ⟨[], .absent, rfl⟩

/-- A number after its sign. -/
def readUnsigned (negative : Bool) (bs : Bytes) : Option (Numeral × Bytes) := do
  let (whole, rest) ← readWhole bs
  let (fraction, rest) ← readFraction rest
  let (exponent, rest) ← readExponent rest
  return (⟨negative, whole, fraction, exponent⟩, rest)

theorem readNumeral_of_ne {bs : Bytes} (h : ∀ rest, bs ≠ 0x2D :: rest) :
    readNumeral bs = readUnsigned false bs := by
  unfold readNumeral
  split
  · next rest negative left eq =>
    split at eq
    · next more => exact absurd rfl (h more)
    · cases eq
      rfl

theorem stops_fraction {p : UInt8 → Bool} {ds : List Digit} {bs rest : Bytes}
    (h : Numeral.FractionSpelled ds bs) (stops : Stops p rest) (point : p 0x2E = false) :
    Stops p (bs ++ rest) := by
  cases h with
  | absent => exact stops
  | present _ => exact stops_cons point

theorem stops_exponent {p : UInt8 → Bool} {x : Option Int} {bs rest : Bytes}
    (h : Numeral.ExponentSpelled x bs) (stops : Stops p rest)
    (letters : ∀ e : UInt8, e = 0x65 ∨ e = 0x45 → p e = false) : Stops p (bs ++ rest) := by
  cases h with
  | absent => exact stops
  | plain letter _ => exact stops_cons (letters _ letter)
  | plus letter _ => exact stops_cons (letters _ letter)
  | minus letter _ => exact stops_cons (letters _ letter)

theorem readUnsigned_append {n : Numeral} {fraction exponent rest : Bytes}
    (whole : Numeral.IsWhole n.whole) (hf : Numeral.FractionSpelled n.fraction fraction)
    (he : Numeral.ExponentSpelled n.exponent exponent) (ends : Ends rest) :
    readUnsigned n.negative (n.whole.map Digit.byte ++ (fraction ++ (exponent ++ rest))) =
      some (n, rest) := by
  have digit : Stops isDigit (exponent ++ rest) := by
    refine stops_exponent he ends.digit ?_
    rintro e (rfl | rfl) <;> rfl
  have point : Stops (· == 0x2E) (exponent ++ rest) := by
    refine stops_exponent he ends.point ?_
    rintro e (rfl | rfl) <;> rfl
  have readW := readWhole_append whole (stops_fraction hf digit rfl)
  have readF := readFraction_append hf digit point
  have readE := readExponent_append he ends.digit ends.letter
  simp only [readUnsigned, readW, readF, readE, Option.bind_eq_bind, Option.bind_some]
  rfl

theorem of_readUnsigned {negative : Bool} {n : Numeral} {bs rest : Bytes}
    (h : readUnsigned negative bs = some (n, rest)) :
    ∃ t, n.Spelled (Numeral.signBytes negative ++ t) ∧ n.negative = negative ∧ bs = t ++ rest := by
  simp only [readUnsigned, Option.bind_eq_bind, Option.bind_eq_some_iff, Option.pure_def,
    Option.some.injEq, Prod.mk.injEq] at h
  obtain ⟨⟨whole, afterWhole⟩, readW, ⟨fraction, afterFraction⟩, readF, ⟨exponent, left⟩, readE,
    rfl, rfl⟩ := h
  obtain ⟨isWhole, rfl⟩ := of_readWhole readW
  obtain ⟨f, hf, rfl⟩ := of_readFraction readF
  obtain ⟨e, he, rfl⟩ := of_readExponent readE
  refine ⟨_, .mk isWhole hf he, rfl, ?_⟩
  simp only [List.append_assoc]

theorem readNumeral_append {n : Numeral} {bs rest : Bytes} (h : n.Spelled bs) (ends : Ends rest) :
    readNumeral (bs ++ rest) = some (n, rest) := by
  cases h with
  | @mk fraction exponent whole hf he =>
    have run := readUnsigned_append whole hf he ends
    simp only [List.append_assoc]
    cases hn : n.negative with
    | true =>
      rw [hn] at run
      exact run
    | false =>
      rw [hn] at run
      refine (readNumeral_of_ne fun more eq => ?_).trans run
      obtain ⟨d, ds, front⟩ : ∃ d ds, n.whole = d :: ds := by
        rcases whole with h | ⟨d, ds, h, -⟩
        · exact ⟨0, [], h⟩
        · exact ⟨d, ds, h⟩
      rw [front] at eq
      exact byte_ne (by decide) (List.cons.inj eq).1

theorem of_readNumeral {n : Numeral} {bs rest : Bytes} (h : readNumeral bs = some (n, rest)) :
    ∃ t, n.Spelled t ∧ bs = t ++ rest := by
  by_cases minus : ∃ more, bs = 0x2D :: more
  · obtain ⟨more, rfl⟩ := minus
    obtain ⟨t, spelled, -, rfl⟩ := of_readUnsigned h
    exact ⟨_, spelled, rfl⟩
  · rw [readNumeral_of_ne fun more eq => minus ⟨more, eq⟩] at h
    obtain ⟨t, spelled, -, rfl⟩ := of_readUnsigned h
    exact ⟨t, spelled, rfl⟩

/-! ## Strings -/

theorem readPieces_append {ps : List Piece} {bs : Bytes} (h : PiecesSpelled ps bs) (rest : Bytes) :
    readPieces (bs ++ 0x22 :: rest) = some (ps, rest) := by
  induction h with
  | nil => rfl
  | @cons p ps front more first _ ih =>
    rw [List.append_assoc]
    generalize more ++ 0x22 :: rest = left at ih ⊢
    cases first with
    | @plain b visible not_quote not_escape =>
      show readPieces (b :: left) = _
      rw [readPieces.eq_def]
      split
      · next eq => cases eq
      · next eq => exact absurd (List.cons.inj eq).1 not_quote
      · next eq => exact absurd (List.cons.inj eq).1 not_escape
      · next eq => exact absurd (List.cons.inj eq).1 not_escape
      · next eq =>
        obtain ⟨rfl, rfl⟩ := List.cons.inj eq
        rw [if_neg visible, ih]
        rfl
    | @letter e b h =>
      have not_unit : e ≠ 0x75 := by
        rintro rfl
        cases h
      show readPieces (0x5C :: e :: left) = _
      rw [readPieces.eq_def]
      split
      · next eq => cases eq
      · next eq => exact absurd (List.cons.inj eq).1 (by decide)
      · next eq => exact absurd (List.cons.inj (List.cons.inj eq).2).1 not_unit
      · next eq =>
        obtain ⟨rfl, rfl⟩ := List.cons.inj (List.cons.inj eq).2
        rw [h, ih]
        rfl
      · next no_escape eq =>
        obtain ⟨rfl, rfl⟩ := List.cons.inj eq
        exact absurd rfl (no_escape e left rfl)
    | @unit a b c d n h =>
      show readPieces (0x5C :: 0x75 :: a :: b :: c :: d :: left) = _
      rw [readPieces, h, ih]
      rfl

/-- What was read stands in front of a closing quote. -/
theorem of_readPieces {bs rest : Bytes} {ps : List Piece} (h : readPieces bs = some (ps, rest)) :
    ∃ t, PiecesSpelled ps t ∧ bs = t ++ 0x22 :: rest := by
  fun_induction readPieces bs generalizing ps with
  | case1 => cases h
  | case2 left =>
    cases h
    exact ⟨[], .nil, rfl⟩
  | case3 a b c d left ih =>
    simp only [Option.bind_eq_bind, Option.bind_eq_some_iff, Option.pure_def, Option.some.injEq,
      Prod.mk.injEq] at h
    obtain ⟨n, unit, ⟨more, _⟩, read, rfl, rfl⟩ := h
    obtain ⟨t, spelled, rfl⟩ := ih read
    exact ⟨_, .cons (.unit unit) spelled, rfl⟩
  | case4 e left _ ih =>
    simp only [Option.bind_eq_bind, Option.bind_eq_some_iff, Option.pure_def, Option.some.injEq,
      Prod.mk.injEq] at h
    obtain ⟨b, letter, ⟨more, _⟩, read, rfl, rfl⟩ := h
    obtain ⟨t, spelled, rfl⟩ := ih read
    exact ⟨_, .cons (.letter letter) spelled, rfl⟩
  | case5 => cases h
  | case6 b left not_quote _ no_escape visible ih =>
    simp only [Option.bind_eq_bind, Option.bind_eq_some_iff, Option.pure_def, Option.some.injEq,
      Prod.mk.injEq] at h
    obtain ⟨⟨more, _⟩, read, rfl, rfl⟩ := h
    have not_escape : b ≠ 0x5C := by
      rintro rfl
      cases left with
      | nil => cases read
      | cons e left => exact no_escape e left rfl rfl
    obtain ⟨t, spelled, rfl⟩ := ih read
    exact ⟨_, .cons (.plain visible not_quote not_escape) spelled, rfl⟩

/-- A string is read after its opening quote. -/
theorem readString_append {s : Option String} {bs : Bytes} (h : StringSpelled s bs) (rest : Bytes) :
    ∃ t, bs = 0x22 :: t ∧ readString (t ++ rest) = some (s, rest) := by
  cases h with
  | @quoted ps t h =>
    refine ⟨_, rfl, ?_⟩
    rw [List.append_assoc, readString]
    show (readPieces (t ++ 0x22 :: rest)).bind _ = _
    rw [readPieces_append h]
    rfl

theorem of_readString {s : Option String} {bs rest : Bytes} (h : readString bs = some (s, rest)) :
    ∃ t, StringSpelled s t ∧ 0x22 :: bs = t ++ rest := by
  simp only [readString, Option.bind_eq_bind, Option.bind_eq_some_iff, Option.pure_def,
    Option.some.injEq, Prod.mk.injEq] at h
  obtain ⟨⟨ps, left⟩, read, rfl, rfl⟩ := h
  obtain ⟨t, spelled, rfl⟩ := of_readPieces read
  refine ⟨_, .quoted spelled, ?_⟩
  simp

end Json

end CarCatalog

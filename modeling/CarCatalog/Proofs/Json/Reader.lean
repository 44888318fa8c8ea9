import CarCatalog.Proofs.Json.Tokens

/-!
# The reader reads the grammar

The fuel of the reader never runs out on what the grammar spells: a step down into a value leaves
a bracket behind, so the length of what is to be read bounds it.  What is read and what is spelled
are therefore the same.

    Json.parse bs = some j ↔ Json.Written j bs        (parse_eq_some_iff)

Both directions are an induction on the fuel, with one lemma for each of the three readers.
-/

namespace CarCatalog

namespace Json

/-! ## Blanks and first bytes -/

theorem skipBlanks_append {w rest : Bytes} (blank : Blank w) (stops : Stops isBlank rest) :
    skipBlanks (w ++ rest) = rest :=
  (takeWhile_append_of_stops blank stops).2

theorem of_skipBlanks (bs : Bytes) : ∃ w, Blank w ∧ bs = w ++ skipBlanks bs :=
  ⟨bs.takeWhile isBlank, List.all_eq_true.mp List.all_takeWhile,
    (List.takeWhile_append_dropWhile).symm⟩

/-- The bytes a number starts with. -/
theorem front_of_numeral {n : Numeral} {bs : Bytes} (h : n.Spelled bs) :
    ∃ b more, bs = b :: more ∧ (b = 0x2D ∨ isDigit b = true) := by
  cases h with
  | @mk fraction exponent whole hf he =>
    cases n.negative with
    | true => exact ⟨_, _, rfl, .inl rfl⟩
    | false =>
      rcases whole with h | ⟨d, ds, h, -⟩
      · exact ⟨Digit.byte 0, fraction ++ exponent, by rw [h]; rfl, .inr rfl⟩
      · exact ⟨d.byte, _, by rw [h]; rfl, .inr (isDigit_byte d)⟩

/-- A byte that a value may start with. -/
def isStart (b : UInt8) : Bool :=
  b == 0x22 || b == 0x5B || b == 0x7B || b == 0x6E || b == 0x74 || b == 0x66 || b == 0x2D ||
    isDigit b

theorem Spelled.front {j : Json} {bs : Bytes} (h : Spelled j bs) :
    ∃ b more, bs = b :: more ∧ isStart b = true := by
  cases h with
  | null => exact ⟨_, _, rfl, rfl⟩
  | isTrue => exact ⟨_, _, rfl, rfl⟩
  | isFalse => exact ⟨_, _, rfl, rfl⟩
  | number h =>
    obtain ⟨b, more, rfl, hb⟩ := front_of_numeral h
    refine ⟨b, more, rfl, ?_⟩
    rcases hb with rfl | hb
    · rfl
    · simp [isStart, hb]
  | string h =>
    cases h
    exact ⟨_, _, rfl, rfl⟩
  | noItems _ => exact ⟨_, _, rfl, rfl⟩
  | array _ => exact ⟨_, _, rfl, rfl⟩
  | noMembers _ => exact ⟨_, _, rfl, rfl⟩
  | object _ => exact ⟨_, _, rfl, rfl⟩

/-! ## What is spelled is read -/

def ReadsValue (fuel : Nat) : Prop :=
  ∀ {j : Json} {w t : Bytes} (rest : Bytes), Blank w → Spelled j t → Ends rest → t.length ≤ fuel →
    readValue fuel (w ++ (t ++ rest)) = some (j, rest)

def ReadsItems (fuel : Nat) : Prop :=
  ∀ {js : List Json} {t : Bytes} (rest : Bytes), ItemsSpelled js t → t.length < fuel →
    readItems fuel (t ++ 0x5D :: rest) = some (js, rest)

def ReadsMembers (fuel : Nat) : Prop :=
  ∀ {ms : List (Option String × Json)} {t : Bytes} (rest : Bytes), MembersSpelled ms t →
    t.length < fuel → readMembers fuel (t ++ 0x7D :: rest) = some (ms, rest)

theorem not_blank_of_start {b : UInt8} (h : isStart b = true) : isBlank b = false := by
  have table : ∀ n < 256, isStart (.ofNat n) = true → isBlank (.ofNat n) = false := by
    decide +kernel
  have := table b.toNat b.toNat_lt
  rw [UInt8.ofNat_toNat] at this
  exact this h

/-- After blanks, a value, an item or a member is read from its first byte on. -/
theorem skipBlanks_start {w : Bytes} (blank : Blank w) {b : UInt8} (hb : isStart b = true)
    (more : Bytes) : skipBlanks (w ++ b :: more) = b :: more :=
  skipBlanks_append blank (stops_cons (not_blank_of_start hb))

section

variable {fuel : Nat} {bs more : Bytes}

theorem readValue_quote (front : skipBlanks bs = 0x22 :: more) :
    readValue (fuel + 1) bs = (readString more).map fun (s, rest) => (.string s, rest) := by
  simp only [readValue, front]
  cases readString more <;> rfl

theorem readValue_number {b : UInt8} (front : skipBlanks bs = b :: more)
    (hb : b = 0x2D ∨ isDigit b = true) :
    readValue (fuel + 1) bs = (readNumeral (b :: more)).map fun (n, rest) => (.number n, rest) := by
  have other : b ≠ 0x22 ∧ b ≠ 0x5B ∧ b ≠ 0x7B ∧ b ≠ 0x6E ∧ b ≠ 0x74 ∧ b ≠ 0x66 := by
    rcases hb with rfl | hb
    · decide
    · refine ⟨?_, ?_, ?_, ?_, ?_, ?_⟩ <;> (rintro rfl; cases hb)
  obtain ⟨h1, h2, h3, h4, h5, h6⟩ := other
  rw [readValue, front]
  split
  · next eq => cases eq
  · next eq => exact absurd (List.cons.inj eq).1 h1
  · next eq => exact absurd (List.cons.inj eq).1 h2
  · next eq => exact absurd (List.cons.inj eq).1 h3
  · next eq => exact absurd (List.cons.inj eq).1 h4
  · next eq => exact absurd (List.cons.inj eq).1 h5
  · next eq => exact absurd (List.cons.inj eq).1 h6
  · cases readNumeral (b :: more) <;> rfl

theorem readValue_noItems {rest : Bytes} (front : skipBlanks bs = 0x5B :: more)
    (closed : skipBlanks more = 0x5D :: rest) :
    readValue (fuel + 1) bs = some (.array [], rest) := by
  rw [readValue, front]
  simp only [closed]

theorem readValue_items (front : skipBlanks bs = 0x5B :: more)
    (opened : ∀ rest, skipBlanks more ≠ 0x5D :: rest) :
    readValue (fuel + 1) bs =
      (readItems fuel (skipBlanks more)).map fun (items, rest) => (.array items, rest) := by
  simp only [readValue, front]
  cases readItems fuel (skipBlanks more) <;> rfl

theorem readValue_noMembers {rest : Bytes} (front : skipBlanks bs = 0x7B :: more)
    (closed : skipBlanks more = 0x7D :: rest) :
    readValue (fuel + 1) bs = some (.object [], rest) := by
  rw [readValue, front]
  simp only [closed]

theorem readValue_members (front : skipBlanks bs = 0x7B :: more)
    (opened : ∀ rest, skipBlanks more ≠ 0x7D :: rest) :
    readValue (fuel + 1) bs =
      (readMembers fuel (skipBlanks more)).map fun (members, rest) => (.object members, rest) := by
  simp only [readValue, front]
  cases readMembers fuel (skipBlanks more) <;> rfl

end

/-- The same items without the blanks in front. -/
theorem ItemsSpelled.trimmed {js : List Json} {bs : Bytes} (h : ItemsSpelled js bs) :
    ∃ b t, isStart b = true ∧ ItemsSpelled js (b :: t) ∧ (b :: t).length ≤ bs.length ∧
      ∀ rest, skipBlanks (bs ++ rest) = b :: (t ++ rest) := by
  have none : Blank [] := fun _ h => by cases h
  cases h with
  | @last j w _ w' before h after =>
    obtain ⟨b, front, rfl, hb⟩ := h.front
    refine ⟨b, front ++ w', hb, .last none h after, by simp, fun rest => ?_⟩
    simp only [List.append_assoc, List.cons_append]
    exact skipBlanks_start before hb _
  | @more j js w _ w' left before h after others =>
    obtain ⟨b, front, rfl, hb⟩ := h.front
    refine ⟨b, front ++ (w' ++ 0x2C :: left), hb, .more none h after others, by simp,
      fun rest => ?_⟩
    simp only [List.append_assoc, List.cons_append]
    exact skipBlanks_start before hb _

/-- The same members without the blanks in front. -/
theorem MembersSpelled.trimmed {ms : List (Option String × Json)} {bs : Bytes}
    (h : MembersSpelled ms bs) :
    ∃ t, MembersSpelled ms (0x22 :: t) ∧ (0x22 :: t).length ≤ bs.length ∧
      ∀ rest, skipBlanks (bs ++ rest) = 0x22 :: (t ++ rest) := by
  have none : Blank [] := fun _ h => by cases h
  have quoted : ∀ {m bs}, MemberSpelled m bs → ∃ t, bs = 0x22 :: t := by
    rintro _ _ ⟨⟨_⟩, -, -, -⟩
    exact ⟨_, rfl⟩
  cases h with
  | @last m w _ w' before h after =>
    obtain ⟨t, rfl⟩ := quoted h
    refine ⟨t ++ w', .last none h after, by simp, fun rest => ?_⟩
    simp only [List.append_assoc, List.cons_append]
    exact skipBlanks_start before (by decide) _
  | @more m ms w _ w' left before h after others =>
    obtain ⟨t, rfl⟩ := quoted h
    refine ⟨t ++ (w' ++ 0x2C :: left), .more none h after others, by simp, fun rest => ?_⟩
    simp only [List.append_assoc, List.cons_append]
    exact skipBlanks_start before (by decide) _

theorem readsValue_succ {fuel : Nat} (items : ReadsItems fuel) (members : ReadsMembers fuel) :
    ReadsValue (fuel + 1) := by
  intro j w t rest blank spelled ends bound
  have front : ∀ {b : UInt8} {more : Bytes}, t ++ rest = b :: more → isStart b = true →
      skipBlanks (w ++ (t ++ rest)) = b :: more := by
    intro b more eq hb
    rw [eq]
    exact skipBlanks_start blank hb more
  cases spelled with
  | null =>
    rw [readValue, front rfl rfl]
    rfl
  | isTrue =>
    rw [readValue, front rfl rfl]
    rfl
  | isFalse =>
    rw [readValue, front rfl rfl]
    rfl
  | number h =>
    obtain ⟨b, more, rfl, hb⟩ := front_of_numeral h
    have start : isStart b = true := by
      rcases hb with rfl | hb
      · rfl
      · simp [isStart, hb]
    rw [readValue_number (front rfl start) hb]
    show (readNumeral (b :: more ++ rest)).map _ = _
    rw [readNumeral_append h ends]
    rfl
  | string h =>
    obtain ⟨more, rfl, read⟩ := readString_append h rest
    rw [List.cons_append] at front ⊢
    rw [readValue_quote (front rfl rfl), read]
    rfl
  | @noItems inner h =>
    simp only [List.cons_append, List.append_assoc] at front ⊢
    exact readValue_noItems (front rfl rfl) (skipBlanks_append h (stops_cons rfl))
  | @array js bs h =>
    obtain ⟨b, t, start, trimmed, shorter, skipped⟩ := h.trimmed
    simp only [List.cons_append, List.append_assoc, List.nil_append] at front ⊢
    have opened : ∀ left, skipBlanks (bs ++ 0x5D :: rest) ≠ 0x5D :: left := by
      intro left eq
      rw [skipped] at eq
      rw [(List.cons.inj eq).1] at start
      cases start
    rw [readValue_items (front rfl rfl) opened, skipped]
    have read := items rest trimmed (by simp at bound; omega)
    rw [List.cons_append] at read
    rw [read]
    rfl
  | @noMembers inner h =>
    simp only [List.cons_append, List.append_assoc] at front ⊢
    exact readValue_noMembers (front rfl rfl) (skipBlanks_append h (stops_cons rfl))
  | @object ms bs h =>
    obtain ⟨t, trimmed, shorter, skipped⟩ := h.trimmed
    simp only [List.cons_append, List.append_assoc, List.nil_append] at front ⊢
    have opened : ∀ left, skipBlanks (bs ++ 0x7D :: rest) ≠ 0x7D :: left := by
      intro left eq
      rw [skipped] at eq
      exact absurd (List.cons.inj eq).1 (by decide)
    rw [readValue_members (front rfl rfl) opened, skipped]
    have read := members rest trimmed (by simp at bound; omega)
    rw [List.cons_append] at read
    rw [read]
    rfl

theorem ends_of_isBlank {b : UInt8} (h : isBlank b = true) (rest : Bytes) : Ends (b :: rest) := by
  have table : ∀ n < 256, isBlank (.ofNat n) = true → (isDigit (.ofNat n) ||
      UInt8.ofNat n == 0x2E || UInt8.ofNat n == 0x65 || UInt8.ofNat n == 0x45) = false := by
    decide +kernel
  have hb := table b.toNat b.toNat_lt
  rw [UInt8.ofNat_toNat] at hb
  exact stops_cons (hb h)

/-- A number may stand before blanks and then a comma or a closing bracket. -/
theorem ends_append {w : Bytes} (blank : Blank w) {b : UInt8}
    (hb : b = 0x2C ∨ b = 0x5D ∨ b = 0x7D) (rest : Bytes) : Ends (w ++ b :: rest) := by
  cases w with
  | nil => rcases hb with rfl | rfl | rfl <;> exact stops_cons rfl
  | cons c w => exact ends_of_isBlank (blank c List.mem_cons_self) _

/-- An item, and then the closing bracket or a comma and more. -/
theorem readItems_item {fuel : Nat} (values : ReadsValue fuel) {j : Json} {w bs rest left : Bytes}
    (blank : Blank w) (h : Spelled j bs) (ends : Ends rest) (bound : bs.length ≤ fuel) :
    (skipBlanks rest = 0x5D :: left →
      readItems (fuel + 1) (w ++ (bs ++ rest)) = some ([j], left)) ∧
    (skipBlanks rest = 0x2C :: left →
      readItems (fuel + 1) (w ++ (bs ++ rest)) =
        (readItems fuel left).map fun (js, rest) => (j :: js, rest)) := by
  have value := values rest blank h ends bound
  constructor
  · intro close
    simp only [readItems, value, close, Option.bind_eq_bind, Option.bind_some]
    rfl
  · intro comma
    simp only [readItems, value, comma, Option.bind_eq_bind, Option.bind_some]
    cases readItems fuel left <;> rfl

theorem readsItems_succ {fuel : Nat} (values : ReadsValue fuel) (items : ReadsItems fuel) :
    ReadsItems (fuel + 1) := by
  intro js t rest spelled bound
  cases spelled with
  | @last j w bs w' before h after =>
    simp only [List.length_append] at bound
    simp only [List.append_assoc]
    exact (readItems_item values before h (ends_append after (by decide) rest) (by omega)).1
      (skipBlanks_append after (stops_cons rfl))
  | @more j js w bs w' left before h after others =>
    simp only [List.length_append, List.length_cons] at bound
    simp only [List.append_assoc, List.cons_append]
    rw [(readItems_item values before h (ends_append after (by decide) _) (by omega)).2
      (skipBlanks_append after (stops_cons rfl)), items rest others (by omega)]
    rfl

/-- A member, and then the closing brace or a comma and more. -/
theorem readMembers_member {fuel : Nat} (values : ReadsValue fuel) {m : Option String × Json}
    {w bs rest left : Bytes} (blank : Blank w) (h : MemberSpelled m bs) (ends : Ends rest)
    (bound : bs.length ≤ fuel) :
    (skipBlanks rest = 0x7D :: left →
      readMembers (fuel + 1) (w ++ (bs ++ rest)) = some ([m], left)) ∧
    (skipBlanks rest = 0x2C :: left →
      readMembers (fuel + 1) (w ++ (bs ++ rest)) =
        (readMembers fuel left).map fun (ms, rest) => (m :: ms, rest)) := by
  cases h with
  | @mk key j kbs w₁ w₂ bs hk before after h =>
    simp only [List.append_assoc, List.cons_append, List.length_append, List.length_cons] at bound ⊢
    obtain ⟨t, rfl, read⟩ := readString_append hk (w₁ ++ 0x3A :: (w₂ ++ (bs ++ rest)))
    have front : skipBlanks (w ++ 0x22 :: (t ++ (w₁ ++ 0x3A :: (w₂ ++ (bs ++ rest))))) =
        0x22 :: (t ++ (w₁ ++ 0x3A :: (w₂ ++ (bs ++ rest)))) :=
      skipBlanks_start blank (by decide) _
    have colon : skipBlanks (w₁ ++ 0x3A :: (w₂ ++ (bs ++ rest))) = 0x3A :: (w₂ ++ (bs ++ rest)) :=
      skipBlanks_append before (stops_cons rfl)
    have value := values rest after h ends (by omega)
    constructor
    · intro close
      simp only [List.cons_append, readMembers, front, read, colon, value, close,
        Option.bind_eq_bind, Option.bind_some]
      rfl
    · intro comma
      simp only [List.cons_append, readMembers, front, read, colon, value, comma,
        Option.bind_eq_bind, Option.bind_some]
      cases readMembers fuel left <;> rfl

theorem readsMembers_succ {fuel : Nat} (values : ReadsValue fuel) (members : ReadsMembers fuel) :
    ReadsMembers (fuel + 1) := by
  intro ms t rest spelled bound
  cases spelled with
  | @last m w bs w' before h after =>
    simp only [List.length_append] at bound
    simp only [List.append_assoc]
    exact (readMembers_member values before h (ends_append after (by decide) rest) (by omega)).1
      (skipBlanks_append after (stops_cons rfl))
  | @more m ms w bs w' left before h after others =>
    simp only [List.length_append, List.length_cons] at bound
    simp only [List.append_assoc, List.cons_append]
    rw [(readMembers_member values before h (ends_append after (by decide) _) (by omega)).2
      (skipBlanks_append after (stops_cons rfl)), members rest others (by omega)]
    rfl

theorem reads (fuel : Nat) : ReadsValue fuel ∧ ReadsItems fuel ∧ ReadsMembers fuel := by
  induction fuel with
  | zero =>
    refine ⟨fun rest _ h _ bound => ?_, fun rest _ bound => ?_, fun rest _ bound => ?_⟩
    · obtain ⟨b, more, rfl, -⟩ := h.front
      exact absurd bound (by simp)
    · exact absurd bound (Nat.not_lt_zero _)
    · exact absurd bound (Nat.not_lt_zero _)
  | succ fuel ih =>
    obtain ⟨values, items, members⟩ := ih
    exact ⟨readsValue_succ items members, readsItems_succ values items,
      readsMembers_succ values members⟩

/-! ## What is read is spelled -/

def SoundValue (fuel : Nat) : Prop :=
  ∀ {bs rest : Bytes} {j : Json}, readValue fuel bs = some (j, rest) →
    ∃ w t, Blank w ∧ Spelled j t ∧ bs = w ++ (t ++ rest)

def SoundItems (fuel : Nat) : Prop :=
  ∀ {bs rest : Bytes} {js : List Json}, readItems fuel bs = some (js, rest) →
    ∃ t, ItemsSpelled js t ∧ bs = t ++ 0x5D :: rest

def SoundMembers (fuel : Nat) : Prop :=
  ∀ {bs rest : Bytes} {ms : List (Option String × Json)}, readMembers fuel bs = some (ms, rest) →
    ∃ t, MembersSpelled ms t ∧ bs = t ++ 0x7D :: rest

theorem of_skipWord {α : Type} {word bs rest : Bytes} {a b : α}
    (h : (skipWord word bs).map (a, ·) = some (b, rest)) : a = b ∧ bs = word ++ rest := by
  obtain ⟨left, hl, eq⟩ := Option.map_eq_some_iff.mp h
  cases eq
  unfold skipWord at hl
  split at hl
  · next front =>
    cases hl
    have := List.take_append_drop word.length bs
    rw [eq_of_beq front] at this
    exact ⟨rfl, this.symm⟩
  · cases hl

theorem Blank.append {w w' : Bytes} (h : Blank w) (h' : Blank w') : Blank (w ++ w') := by
  intro b hb
  rcases List.mem_append.mp hb with hb | hb
  · exact h b hb
  · exact h' b hb

/-- The same items with more blanks in front. -/
theorem ItemsSpelled.widened {js : List Json} {w bs : Bytes} (blank : Blank w)
    (h : ItemsSpelled js bs) : ItemsSpelled js (w ++ bs) := by
  cases h with
  | last before h after =>
    rw [← List.append_assoc]
    exact .last (blank.append before) h after
  | more before h after others =>
    rw [← List.append_assoc]
    exact .more (blank.append before) h after others

/-- The same members with more blanks in front. -/
theorem MembersSpelled.widened {ms : List (Option String × Json)} {w bs : Bytes} (blank : Blank w)
    (h : MembersSpelled ms bs) : MembersSpelled ms (w ++ bs) := by
  cases h with
  | last before h after =>
    rw [← List.append_assoc]
    exact .last (blank.append before) h after
  | more before h after others =>
    rw [← List.append_assoc]
    exact .more (blank.append before) h after others

theorem soundValue_succ {fuel : Nat} (items : SoundItems fuel) (members : SoundMembers fuel) :
    SoundValue (fuel + 1) := by
  intro bs rest j h
  obtain ⟨w, blank, split_bs⟩ := of_skipBlanks bs
  suffices ∃ t, Spelled j t ∧ skipBlanks bs = t ++ rest by
    obtain ⟨t, spelled, eq⟩ := this
    rw [eq] at split_bs
    exact ⟨w, t, blank, spelled, split_bs⟩
  rw [readValue] at h
  generalize skipBlanks bs = front at h ⊢
  split at h
  · cases h
  · next more =>
    simp only [Option.bind_eq_bind, Option.bind_eq_some_iff, Option.pure_def, Option.some.injEq,
      Prod.mk.injEq] at h
    obtain ⟨⟨s, _⟩, read, rfl, rfl⟩ := h
    obtain ⟨t, spelled, eq⟩ := of_readString read
    exact ⟨t, .string spelled, eq⟩
  · next more =>
    obtain ⟨w', blank', split_more⟩ := of_skipBlanks more
    split at h
    · next left closed =>
      cases h
      rw [closed] at split_more
      exact ⟨_, .noItems blank', by rw [split_more]; simp⟩
    · simp only [Option.bind_eq_bind, Option.bind_eq_some_iff, Option.pure_def, Option.some.injEq,
        Prod.mk.injEq] at h
      obtain ⟨⟨js, _⟩, read, rfl, rfl⟩ := h
      obtain ⟨t, spelled, eq⟩ := items read
      rw [eq] at split_more
      exact ⟨_, .array (spelled.widened blank'), by rw [split_more]; simp⟩
  · next more =>
    obtain ⟨w', blank', split_more⟩ := of_skipBlanks more
    split at h
    · next left closed =>
      cases h
      rw [closed] at split_more
      exact ⟨_, .noMembers blank', by rw [split_more]; simp⟩
    · simp only [Option.bind_eq_bind, Option.bind_eq_some_iff, Option.pure_def, Option.some.injEq,
        Prod.mk.injEq] at h
      obtain ⟨⟨ms, _⟩, read, rfl, rfl⟩ := h
      obtain ⟨t, spelled, eq⟩ := members read
      rw [eq] at split_more
      exact ⟨_, .object (spelled.widened blank'), by rw [split_more]; simp⟩
  · next more =>
    obtain ⟨rfl, rfl⟩ := of_skipWord h
    exact ⟨_, .null, rfl⟩
  · next more =>
    obtain ⟨rfl, rfl⟩ := of_skipWord h
    exact ⟨_, .isTrue, rfl⟩
  · next more =>
    obtain ⟨rfl, rfl⟩ := of_skipWord h
    exact ⟨_, .isFalse, rfl⟩
  · simp only [Option.bind_eq_bind, Option.bind_eq_some_iff, Option.pure_def, Option.some.injEq,
      Prod.mk.injEq] at h
    obtain ⟨⟨n, _⟩, read, rfl, rfl⟩ := h
    obtain ⟨t, spelled, rfl⟩ := of_readNumeral read
    exact ⟨t, .number spelled, rfl⟩

theorem soundItems_succ {fuel : Nat} (values : SoundValue fuel) (items : SoundItems fuel) :
    SoundItems (fuel + 1) := by
  intro bs rest js h
  simp only [readItems, Option.bind_eq_bind, Option.bind_eq_some_iff] at h
  obtain ⟨⟨item, left⟩, read, h⟩ := h
  obtain ⟨w, t, before, spelled, rfl⟩ := values read
  obtain ⟨w', after, split_left⟩ := of_skipBlanks left
  split at h
  · next more closed =>
    cases h
    rw [closed] at split_left
    exact ⟨_, .last before spelled after, by rw [split_left]; simp⟩
  · next more comma =>
    simp only [Option.bind_eq_some_iff, Option.pure_def, Option.some.injEq, Prod.mk.injEq] at h
    obtain ⟨⟨others, _⟩, more_read, rfl, rfl⟩ := h
    obtain ⟨t', others_spelled, rfl⟩ := items more_read
    rw [comma] at split_left
    exact ⟨_, .more before spelled after others_spelled, by rw [split_left]; simp⟩
  · cases h

theorem soundMembers_succ {fuel : Nat} (values : SoundValue fuel) (members : SoundMembers fuel) :
    SoundMembers (fuel + 1) := by
  intro bs rest ms h
  obtain ⟨w, before, split_bs⟩ := of_skipBlanks bs
  rw [readMembers] at h
  split at h
  · next more quote =>
    simp only [Option.bind_eq_bind, Option.bind_eq_some_iff] at h
    obtain ⟨⟨key, afterKey⟩, key_read, h⟩ := h
    obtain ⟨kbs, key_spelled, eq⟩ := of_readString key_read
    rw [quote, eq] at split_bs
    obtain ⟨w₁, blank₁, split_key⟩ := of_skipBlanks afterKey
    split at h
    · next afterColon colon =>
      simp only [Option.bind_eq_some_iff] at h
      obtain ⟨⟨value, left⟩, value_read, h⟩ := h
      obtain ⟨w₂, t, blank₂, spelled, rfl⟩ := values value_read
      rw [colon] at split_key
      have member : MemberSpelled (key, value) (kbs ++ (w₁ ++ 0x3A :: (w₂ ++ t))) :=
        .mk key_spelled blank₁ blank₂ spelled
      obtain ⟨w', after, split_left⟩ := of_skipBlanks left
      split at h
      · next last closed =>
        cases h
        rw [closed] at split_left
        exact ⟨_, .last before member after, by rw [split_bs, split_key, split_left]; simp⟩
      · next last comma =>
        simp only [Option.bind_eq_some_iff, Option.pure_def, Option.some.injEq,
          Prod.mk.injEq] at h
        obtain ⟨⟨others, _⟩, more_read, rfl, rfl⟩ := h
        obtain ⟨t', others_spelled, rfl⟩ := members more_read
        rw [comma] at split_left
        exact ⟨_, .more before member after others_spelled,
          by rw [split_bs, split_key, split_left]; simp⟩
      · cases h
    · cases h
  · cases h

theorem sound (fuel : Nat) : SoundValue fuel ∧ SoundItems fuel ∧ SoundMembers fuel := by
  induction fuel with
  | zero => exact ⟨fun h => (by cases h), fun h => (by cases h), fun h => (by cases h)⟩
  | succ fuel ih =>
    obtain ⟨values, items, members⟩ := ih
    exact ⟨soundValue_succ items members, soundItems_succ values items,
      soundMembers_succ values members⟩

/-! ## Top theorem -/

/-- **Reading is the grammar.**  A text is read as a value exactly if the grammar writes the value
so, and a text that the grammar does not write is not read. -/
theorem parse_eq_some_iff {bs : Bytes} {j : Json} : parse bs = some j ↔ Written j bs := by
  simp only [parse, Option.bind_eq_bind, Option.bind_eq_some_iff]
  constructor
  · rintro ⟨⟨value, rest⟩, read, h⟩
    obtain ⟨w, t, before, spelled, rfl⟩ := (sound _).1 read
    split at h
    · next last =>
      cases h
      obtain ⟨w', after, split_rest⟩ := of_skipBlanks rest
      rw [List.isEmpty_iff.mp last, List.append_nil] at split_rest
      rw [split_rest]
      exact .mk before spelled after
    · cases h
  · rintro ⟨before, spelled, after⟩
    next w t w' =>
    have ends : Ends w' := by
      cases w' with
      | nil => exact stops_nil _
      | cons b w' => exact ends_of_isBlank (after b List.mem_cons_self) w'
    have blanks : skipBlanks w' = [] := by
      have := skipBlanks_append after (stops_nil _)
      rwa [List.append_nil] at this
    refine ⟨(j, w'), (reads _).1 w' before spelled ends ?_, ?_⟩
    · simp only [List.length_append]
      omega
    · simp only [blanks]
      rfl

end Json

end CarCatalog

import CarCatalog.Base64

/-!
# Which texts are base64

A text is valid in an alphabet (`Valid`) if it is symbols of the alphabet, not one too many, and
then no more `=` than fill up the last four.  That is what decodes.  A text that is valid in both
alphabets has neither of the symbols that tell them apart, and decodes to the same bytes in both.

    (decodeIn a cs).isSome ↔ Valid a cs                       (isSome_decodeIn_iff)
    decodeIn a cs = some bs → decode? cs = some bs            (decode?_of_decodeIn)
    decode? (encode a padded bs) = some bs                    (decode?_encode)
-/

namespace CarCatalog.Base64

/-- Symbols, then padding: one symbol past a multiple of four makes no byte, and only a last group
of two or three is filled up. -/
def Valid (a : Alphabet) (cs : List Char) : Prop :=
  ∃ symbols pads, cs = symbols ++ List.replicate pads '=' ∧
    (∀ c ∈ symbols, ∃ v < 64, a.symbol v = c) ∧ symbols.length % 4 ≠ 1 ∧
    (pads = 0 ∨ 2 ≤ symbols.length % 4 ∧ symbols.length % 4 + pads ≤ 4)

/-! ## Symbols -/

theorem between_iff (lo hi c : Char) :
    (lo ≤ c && c ≤ hi) = true ↔ lo.toNat ≤ c.toNat ∧ c.toNat ≤ hi.toNat := by
  simp only [Bool.and_eq_true, decide_eq_true_eq, Char.le_def, UInt32.le_iff_toNat_le]
  exact Iff.rfl

theorem symbol_of_value? {a : Alphabet} {c : Char} {v : Nat} (h : a.value? c = some v) :
    v < 64 ∧ a.symbol v = c := by
  have codes : 'A'.toNat = 65 ∧ 'Z'.toNat = 90 ∧ 'a'.toNat = 97 ∧ 'z'.toNat = 122 ∧
      '0'.toNat = 48 ∧ '9'.toNat = 57 := by decide
  obtain ⟨hA, hZ, ha, hz, h0, h9⟩ := codes
  unfold Alphabet.value? at h
  unfold Alphabet.symbol
  split at h
  · next hc =>
    obtain ⟨lo, hi⟩ := (between_iff _ _ _).mp hc
    cases h
    refine ⟨by omega, ?_⟩
    rw [if_pos (by omega), Nat.sub_add_cancel (by omega), Char.ofNat_toNat]
  split at h
  · next hc =>
    obtain ⟨lo, hi⟩ := (between_iff _ _ _).mp hc
    cases h
    refine ⟨by omega, ?_⟩
    rw [if_neg (by omega), if_pos (by omega), Nat.sub_add_cancel (by omega), Char.ofNat_toNat]
  split at h
  · next hc =>
    obtain ⟨lo, hi⟩ := (between_iff _ _ _).mp hc
    cases h
    refine ⟨by omega, ?_⟩
    rw [if_neg (by omega), if_neg (by omega), if_pos (by omega), Nat.add_sub_cancel,
      Char.ofNat_toNat]
  split at h
  · next hc =>
    cases h
    exact ⟨by decide, (eq_of_beq hc).symm⟩
  split at h
  · next hc =>
    cases h
    exact ⟨by decide, (eq_of_beq hc).symm⟩
  · cases h

theorem value?_isSome_iff (a : Alphabet) (c : Char) :
    (a.value? c).isSome ↔ ∃ v < 64, a.symbol v = c := by
  constructor
  · intro h
    obtain ⟨v, hv⟩ := Option.isSome_iff_exists.mp h
    obtain ⟨lt, eq⟩ := symbol_of_value? hv
    exact ⟨v, lt, eq⟩
  · rintro ⟨v, lt, rfl⟩
    rw [value?_symbol a v lt]
    rfl

/-- No symbol is `=`. -/
theorem ne_pad_of_value? {a : Alphabet} {c : Char} (h : (a.value? c).isSome) : c ≠ '=' := by
  obtain ⟨v, lt, rfl⟩ := (value?_isSome_iff a c).mp h
  exact symbol_ne_pad a v lt

/-- A symbol of both alphabets stands for the same bits in both. -/
theorem value?_agree {a b : Alphabet} {c : Char} {v w : Nat} (hv : a.value? c = some v)
    (hw : b.value? c = some w) : v = w := by
  have table : ∀ v < 64, b.value? (a.symbol v) = none ∨ b.value? (a.symbol v) = some v := by
    cases a <;> cases b <;> decide
  obtain ⟨lt, rfl⟩ := symbol_of_value? hv
  rcases table v lt with h | h
  · rw [h] at hw
    cases hw
  · exact Option.some.inj (h.symm.trans hw)

theorem mapM_value?_cons {a : Alphabet} {c : Char} {cs : List Char} {vs : List Nat}
    (h : (c :: cs).mapM a.value? = some vs) :
    ∃ v ws, a.value? c = some v ∧ cs.mapM a.value? = some ws ∧ vs = v :: ws := by
  rw [List.mapM_cons] at h
  simp only [Option.bind_eq_bind, Option.bind_eq_some_iff, Option.pure_def, Option.some.injEq] at h
  obtain ⟨v, hv, ws, hws, rfl⟩ := h
  exact ⟨v, ws, hv, hws, rfl⟩

theorem isSome_mapM_value?_iff (a : Alphabet) (cs : List Char) :
    (cs.mapM a.value?).isSome ↔ ∀ c ∈ cs, (a.value? c).isSome := by
  induction cs with
  | nil => simp
  | cons c cs ih =>
    rw [List.forall_mem_cons, ← ih, List.mapM_cons]
    cases a.value? c with
    | none => simp
    | some v => cases cs.mapM a.value? <;> simp

theorem length_of_mapM_value? {a : Alphabet} {cs : List Char} {vs : List Nat}
    (h : cs.mapM a.value? = some vs) : vs.length = cs.length := by
  induction cs generalizing vs with
  | nil => cases h; rfl
  | cons c cs ih =>
    obtain ⟨v, ws, -, hws, rfl⟩ := mapM_value?_cons h
    rw [List.length_cons, List.length_cons, ih hws]

theorem mapM_value?_agree {a b : Alphabet} {cs : List Char} {vs ws : List Nat}
    (hv : cs.mapM a.value? = some vs) (hw : cs.mapM b.value? = some ws) : vs = ws := by
  induction cs generalizing vs ws with
  | nil => cases hv; cases hw; rfl
  | cons c cs ih =>
    obtain ⟨v, vs, first, rest, rfl⟩ := mapM_value?_cons hv
    obtain ⟨w, ws, first', rest', rfl⟩ := mapM_value?_cons hw
    rw [value?_agree first first', ih rest rest']

/-! ## Decoding -/

theorem isSome_join_iff (vs : List Nat) : (join vs).isSome ↔ vs.length % 4 ≠ 1 := by
  fun_induction join vs with
  | case1 a b c d rest ih =>
    rw [Option.isSome_map, ih]
    simp only [List.length_cons]
    omega
  | case2 => simp
  | case3 => simp
  | case4 => simp
  | case5 => simp

theorem le_padding_iff (pads n : Nat) :
    pads ≤ padding n ↔ pads = 0 ∨ 2 ≤ n % 4 ∧ n % 4 + pads ≤ 4 := by
  unfold padding
  split <;> omega

/-- A text that decodes is symbols and padding, and the bytes are those of the symbols. -/
theorem decodeIn_eq_some {a : Alphabet} {cs : List Char} {bs : Bytes}
    (h : decodeIn a cs = some bs) :
    ∃ symbols pads vs, cs = symbols ++ List.replicate pads '=' ∧ pads ≤ padding symbols.length ∧
      symbols = cs.takeWhile (· != '=') ∧ symbols.mapM a.value? = some vs ∧ join vs = some bs := by
  simp only [decodeIn] at h
  split at h
  · next hc =>
    rw [Bool.and_eq_true, decide_eq_true_eq, List.all_eq_true] at hc
    obtain ⟨vs, hvs, hj⟩ := Option.bind_eq_some_iff.mp h
    have rest : cs.dropWhile (· != '=') =
        List.replicate (cs.dropWhile (· != '=')).length '=' :=
      List.eq_replicate_of_mem fun c hc' => eq_of_beq (hc.1 c hc')
    refine ⟨_, _, vs, ?_, hc.2, rfl, hvs, hj⟩
    rw [← rest, List.takeWhile_append_dropWhile]
  · cases h

/-- What decodes in an alphabet is what is valid in it. -/
theorem isSome_decodeIn_iff (a : Alphabet) (cs : List Char) :
    (decodeIn a cs).isSome ↔ Valid a cs := by
  constructor
  · intro h
    obtain ⟨bs, hbs⟩ := Option.isSome_iff_exists.mp h
    obtain ⟨symbols, pads, vs, hcs, hp, -, hvs, hj⟩ := decodeIn_eq_some hbs
    have symbolic := (isSome_mapM_value?_iff a symbols).mp (by rw [hvs]; rfl)
    have whole := (isSome_join_iff vs).mp (by rw [hj]; rfl)
    rw [length_of_mapM_value? hvs] at whole
    exact ⟨symbols, pads, hcs, fun c hc => (value?_isSome_iff a c).mp (symbolic c hc), whole,
      (le_padding_iff pads _).mp hp⟩
  · rintro ⟨symbols, pads, rfl, symbolic, whole, hp⟩
    have valued : ∀ c ∈ symbols, (a.value? c).isSome := fun c hc =>
      (value?_isSome_iff a c).mpr (symbolic c hc)
    obtain ⟨vs, hvs⟩ :=
      Option.isSome_iff_exists.mp ((isSome_mapM_value?_iff a symbols).mpr valued)
    rw [decodeIn_append a (fun c hc => ne_pad_of_value? (valued c hc)),
      if_pos ((le_padding_iff pads _).mpr hp), hvs, Option.bind_some, isSome_join_iff,
      length_of_mapM_value? hvs]
    exact whole

/-- A text that decodes in both alphabets decodes to the same bytes. -/
theorem decodeIn_agree {a b : Alphabet} {cs : List Char} {bs bs' : Bytes}
    (h : decodeIn a cs = some bs) (h' : decodeIn b cs = some bs') : bs = bs' := by
  obtain ⟨_, _, vs, -, -, rfl, hvs, hj⟩ := decodeIn_eq_some h
  obtain ⟨_, _, vs', -, -, rfl, hvs', hj'⟩ := decodeIn_eq_some h'
  rw [mapM_value?_agree hvs hvs'] at hj
  exact Option.some.inj (hj.symm.trans hj')

/-- Which alphabet is tried first makes no difference. -/
theorem decode?_of_decodeIn {a : Alphabet} {cs : List Char} {bs : Bytes}
    (h : decodeIn a cs = some bs) : decode? cs = some bs := by
  unfold decode?
  cases hs : decodeIn .standard cs with
  | some bs' => rw [Option.some_or, decodeIn_agree h hs]
  | none =>
    rw [Option.none_or]
    cases a with
    | standard => rw [hs] at h; cases h
    | urlSafe => exact h

theorem decode?_eq_some_iff {cs : List Char} {bs : Bytes} :
    decode? cs = some bs ↔ ∃ a, decodeIn a cs = some bs := by
  constructor
  · intro h
    rcases Option.or_eq_some_iff.mp h with h | ⟨-, h⟩
    · exact ⟨.standard, h⟩
    · exact ⟨.urlSafe, h⟩
  · rintro ⟨a, h⟩
    exact decode?_of_decodeIn h

theorem decode?_eq_none_iff {cs : List Char} : decode? cs = none ↔ ∀ a, ¬Valid a cs := by
  constructor
  · intro h a valid
    obtain ⟨bs, hbs⟩ := Option.isSome_iff_exists.mp ((isSome_decodeIn_iff a cs).mpr valid)
    rw [decode?_of_decodeIn hbs] at h
    cases h
  · intro h
    cases hd : decode? cs with
    | none => rfl
    | some bs =>
      obtain ⟨a, ha⟩ := decode?_eq_some_iff.mp hd
      exact absurd ((isSome_decodeIn_iff a cs).mp (by rw [ha]; rfl)) (h a)

/-! ## Encoding -/

theorem decode?_encode (a : Alphabet) (padded : Bool) (bs : Bytes) :
    decode? (encode a padded bs) = some bs :=
  decode?_of_decodeIn (decodeIn_encode a padded bs)

/-- A text in base64 has no dot. -/
theorem dot_notMem_encode (a : Alphabet) (padded : Bool) (bs : Bytes) :
    '.' ∉ encode a padded bs := by
  have symbols : ∀ v < 64, a.symbol v ≠ '.' := by
    cases a <;> decide
  intro h
  rcases List.mem_append.mp h with h | h
  · obtain ⟨v, hv, eq⟩ := List.mem_map.mp h
    exact symbols v (lt_of_mem_split v hv) eq
  · split at h
    · exact absurd (List.eq_of_mem_replicate h) (by decide)
    · cases h

end CarCatalog.Base64

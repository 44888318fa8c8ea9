import CarCatalog.Text.Bytes

/-!
# Base64, read leniently

A text is decoded in one alphabet, standard or URL-safe.  Padding may be left out, and bits past the
last whole byte are ignored.  `decode?` tries the standard alphabet first.

With `n` symbols and `p` trailing `=`: `n % 4 = 0` takes `p = 0`, `n % 4 = 2` takes `p ≤ 2`,
`n % 4 = 3` takes `p ≤ 1`, and `n % 4 = 1` is never read.

    decode? a (encode a pad bs) = some bs          (decodeIn_encode)
-/

namespace CarCatalog.Base64

/-- The two alphabets differ in their last two symbols. -/
inductive Alphabet
  | standard
  | urlSafe
  deriving DecidableEq, Repr

def Alphabet.last : Alphabet → Char × Char
  | .standard => ('+', '/')
  | .urlSafe => ('-', '_')

/-- The six bits a symbol stands for. -/
def Alphabet.value? (a : Alphabet) (c : Char) : Option Nat :=
  if 'A' ≤ c && c ≤ 'Z' then some (c.toNat - 65)
  else if 'a' ≤ c && c ≤ 'z' then some (c.toNat - 71)
  else if '0' ≤ c && c ≤ '9' then some (c.toNat + 4)
  else if c == a.last.1 then some 62
  else if c == a.last.2 then some 63
  else none

/-- The symbol that stands for six bits. -/
def Alphabet.symbol (a : Alphabet) (v : Nat) : Char :=
  if v < 26 then Char.ofNat (v + 65)
  else if v < 52 then Char.ofNat (v + 71)
  else if v < 62 then Char.ofNat (v - 4)
  else if v = 62 then a.last.1
  else a.last.2

/-! ## Decoding -/

/-- Four symbols make three bytes; two or three at the end make one or two. -/
def join : List Nat → Option Bytes
  | a :: b :: c :: d :: rest =>
    (join rest).map fun bs =>
      .ofNat (a * 4 + b / 16) :: .ofNat (b % 16 * 16 + c / 4) :: .ofNat (c % 4 * 64 + d) :: bs
  | [a, b, c] => some [.ofNat (a * 4 + b / 16), .ofNat (b % 16 * 16 + c / 4)]
  | [a, b] => some [.ofNat (a * 4 + b / 16)]
  | [_] => none
  | [] => some []

/-- How many `=` may follow so many symbols. -/
def padding (symbols : Nat) : Nat := if symbols % 4 < 2 then 0 else 4 - symbols % 4

def decodeIn (a : Alphabet) (cs : List Char) : Option Bytes :=
  let symbols := cs.takeWhile (· != '=')
  let rest := cs.dropWhile (· != '=')
  if rest.all (· == '=') && rest.length ≤ padding symbols.length then
    (symbols.mapM a.value?).bind join
  else none

/-- The bytes of a base64 text in either alphabet. -/
def decode? (cs : List Char) : Option Bytes :=
  (decodeIn .standard cs).or (decodeIn .urlSafe cs)

/-! ## Encoding -/

/-- Three bytes make four groups of six bits; one or two at the end make two or three. -/
def split : Bytes → List Nat
  | x :: y :: z :: rest =>
    x.toNat / 4 :: (x.toNat % 4 * 16 + y.toNat / 16) :: (y.toNat % 16 * 4 + z.toNat / 64) ::
      z.toNat % 64 :: split rest
  | [x, y] => [x.toNat / 4, x.toNat % 4 * 16 + y.toNat / 16, y.toNat % 16 * 4]
  | [x] => [x.toNat / 4, x.toNat % 4 * 16]
  | [] => []

def encode (a : Alphabet) (padded : Bool) (bs : Bytes) : List Char :=
  let symbols := (split bs).map a.symbol
  symbols ++ if padded then List.replicate (padding symbols.length) '=' else []

/-! ## Lemmas -/

theorem value?_symbol (a : Alphabet) : ∀ v < 64, a.value? (a.symbol v) = some v := by
  cases a <;> decide

theorem symbol_ne_pad (a : Alphabet) : ∀ v < 64, a.symbol v ≠ '=' := by
  cases a <;> decide

theorem lt_of_mem_split {bs : Bytes} : ∀ v ∈ split bs, v < 64 := by
  fun_induction split bs with
  | case1 x y z rest ih =>
    intro v hv
    have := x.toNat_lt; have := y.toNat_lt; have := z.toNat_lt
    simp only [List.mem_cons] at hv
    rcases hv with rfl | rfl | rfl | rfl | hv
    · omega
    · omega
    · omega
    · omega
    · exact ih v hv
  | case2 x y =>
    intro v hv
    have := x.toNat_lt; have := y.toNat_lt
    simp only [List.mem_cons, List.not_mem_nil, or_false] at hv
    omega
  | case3 x =>
    intro v hv
    have := x.toNat_lt
    simp only [List.mem_cons, List.not_mem_nil, or_false] at hv
    omega
  | case4 => simp

theorem join_split (bs : Bytes) : join (split bs) = some bs := by
  have key : ∀ (x : UInt8) (n : Nat), n = x.toNat → UInt8.ofNat n = x := by
    intro x n h; subst h; simp
  fun_induction split bs with
  | case1 x y z rest ih =>
    have := x.toNat_lt; have := y.toNat_lt; have := z.toNat_lt
    rw [join, ih]
    simp only [Option.map_some, Option.some.injEq, List.cons.injEq, and_true]
    exact ⟨key _ _ (by omega), key _ _ (by omega), key _ _ (by omega)⟩
  | case2 x y =>
    have := x.toNat_lt; have := y.toNat_lt
    simp only [join, Option.some.injEq, List.cons.injEq, and_true]
    exact ⟨key _ _ (by omega), key _ _ (by omega)⟩
  | case3 x =>
    have := x.toNat_lt
    simp only [join, Option.some.injEq, List.cons.injEq, and_true]
    exact key _ _ (by omega)
  | case4 => rfl

theorem mapM_value?_symbol (a : Alphabet) (vs : List Nat) (h : ∀ v ∈ vs, v < 64) :
    (vs.map a.symbol).mapM a.value? = some vs := by
  induction vs with
  | nil => rfl
  | cons v vs ih =>
    simp [value?_symbol a v (h v (by simp)), ih fun w hw => h w (by simp [hw])]

/-- Where the symbols of a text end and its padding begins. -/
theorem decodeIn_append (a : Alphabet) {symbols : List Char} (h : ∀ c ∈ symbols, c ≠ '=')
    (pads : Nat) :
    decodeIn a (symbols ++ List.replicate pads '=') =
      if pads ≤ padding symbols.length then (symbols.mapM a.value?).bind join else none := by
  have hs : ∀ c ∈ symbols, (c != '=') = true := by
    intro c hc
    simpa using h c hc
  have front : (symbols ++ List.replicate pads '=').takeWhile (· != '=') = symbols := by
    rw [List.takeWhile_append_of_pos hs]
    cases pads <;> simp [List.replicate_succ]
  have back : (symbols ++ List.replicate pads '=').dropWhile (· != '=') =
      List.replicate pads '=' := by
    rw [List.dropWhile_append_of_pos hs]
    cases pads <;> simp [List.replicate_succ]
  simp only [decodeIn, front, back]
  simp

/-- Reading takes back what writing gave, padded or not. -/
theorem decodeIn_encode (a : Alphabet) (padded : Bool) (bs : Bytes) :
    decodeIn a (encode a padded bs) = some bs := by
  have hm := mapM_value?_symbol a (split bs) lt_of_mem_split
  have hs : ∀ c ∈ (split bs).map a.symbol, c ≠ '=' := by
    intro c hc
    obtain ⟨v, hv, rfl⟩ := List.mem_map.1 hc
    exact symbol_ne_pad a v (lt_of_mem_split v hv)
  cases padded
  · have := decodeIn_append a hs 0
    simpa [encode, hm, join_split] using this
  · have := decodeIn_append a hs (padding ((split bs).map a.symbol).length)
    simpa [encode, hm, join_split] using this

end CarCatalog.Base64

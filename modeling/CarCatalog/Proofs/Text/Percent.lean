import CarCatalog.Text.Percent

/-!
# Percent-encoding is undone by decoding

Every byte is read back from what is written of it, and so is every text.  A text that is written has
letters, digits, `-`, `_`, `.`, `~` and `%` and no other characters, so nothing in it can end the part of
an address that it stands in.

    decodeBytes (encodeByte b ++ rest) = (decodeBytes rest).map (b :: ·)     (decodeBytes_encodeByte)
    decode (encode s).toList = some s                                                (decode_encode)
-/

namespace CarCatalog.Text

theorem toUtf8_append (s t : String) : toUtf8 (s ++ t) = toUtf8 s ++ toUtf8 t := by
  simp [toUtf8]

namespace Percent

/-- The characters that are written for the bytes of a text. -/
def isWritten (c : Char) : Bool := c == '%' || isUnreserved (UInt8.ofNat c.toNat)

/-! ## Single bytes -/

theorem decodeBytes_cons {c : Char} (plain : c ≠ '%') (cs : List Char) :
    decodeBytes (c :: cs) = (decodeBytes cs).map (toUtf8 (String.singleton c) ++ ·) := by
  rw [decodeBytes]
  · exact if_neg (by simpa using plain)
  · intro a b rest h
    exact absurd h plain

theorem hexValue?_hexDigit {n : Nat} (h : n < 16) : hexValue? (hexDigit n) = some n := by
  revert n
  decide

theorem unreserved_char_all : ∀ n < 256, isUnreserved (UInt8.ofNat n) = true →
    Char.ofNat n ≠ '%' ∧ toUtf8 (String.singleton (Char.ofNat n)) = [UInt8.ofNat n] := by
  decide +kernel

/-- An unreserved byte is a character of its own. -/
theorem unreserved_char {b : UInt8} (h : isUnreserved b = true) :
    Char.ofNat b.toNat ≠ '%' ∧ toUtf8 (String.singleton (Char.ofNat b.toNat)) = [b] := by
  have := unreserved_char_all b.toNat b.toNat_lt (by rwa [UInt8.ofNat_toNat])
  rwa [UInt8.ofNat_toNat] at this

theorem decodeBytes_encodeByte (b : UInt8) (rest : List Char) :
    decodeBytes (encodeByte b ++ rest) = (decodeBytes rest).map (b :: ·) := by
  unfold encodeByte
  split
  · next kept =>
    -- a character of its own, which is read as its one byte
    obtain ⟨plain, byte⟩ := unreserved_char kept
    show decodeBytes (Char.ofNat b.toNat :: rest) = _
    rw [decodeBytes_cons plain, byte]
    rfl
  · -- two digits in base sixteen
    have high : b.toNat / 16 < 16 := by
      have := b.toNat_lt
      omega
    have low : b.toNat % 16 < 16 := Nat.mod_lt _ (by decide)
    have whole : 16 * (b.toNat / 16) + b.toNat % 16 = b.toNat := Nat.div_add_mod _ _
    show decodeBytes ('%' :: hexDigit (b.toNat / 16) :: hexDigit (b.toNat % 16) :: rest) = _
    rw [decodeBytes, hexValue?_hexDigit high, hexValue?_hexDigit low]
    show (decodeBytes rest).bind (fun bs => some (UInt8.ofNat _ :: bs)) = _
    rw [whole, UInt8.ofNat_toNat, Option.map_eq_bind]
    rfl

/-! ## Texts -/

theorem decodeBytes_flatMap (bs : Bytes) : decodeBytes (bs.flatMap encodeByte) = some bs := by
  induction bs with
  | nil => rfl
  | cons b bs ih => rw [List.flatMap_cons, decodeBytes_encodeByte, ih, Option.map_some]

/-- A text is read back from what is written of it. -/
theorem decode_encode (s : String) : decode (encode s).toList = some s := by
  rw [encode, String.toList_ofList, decode, encodeChars, decodeBytes_flatMap, Option.bind_some,
    ofUtf8_toUtf8]

theorem encode_inj {s t : String} (h : encode s = encode t) : s = t := by
  have read := decode_encode s
  rw [h, decode_encode, Option.some.injEq] at read
  exact read.symm

theorem encodeChars_of_unreserved {cs : List Char}
    (h : ∀ c ∈ cs, c.toNat < 256 ∧ isUnreserved (UInt8.ofNat c.toNat) = true) :
    encodeChars (String.ofList cs) = cs := by
  induction cs with
  | nil => rfl
  | cons c cs ih =>
    obtain ⟨⟨small, kept⟩, rest⟩ := List.forall_mem_cons.mp h
    have whole : (UInt8.ofNat c.toNat).toNat = c.toNat := Nat.mod_eq_of_lt small
    have byte := (unreserved_char kept).2
    rw [whole, Char.ofNat_toNat] at byte
    have one : encodeByte (UInt8.ofNat c.toNat) = [c] := by
      rw [encodeByte, if_pos kept, whole, Char.ofNat_toNat]
    rw [encodeChars, String.ofList_cons, toUtf8_append, byte, List.singleton_append, List.flatMap_cons, one]
    exact congrArg (c :: ·) (ih rest)

/-- A text of unreserved characters is written as it is. -/
theorem encode_of_unreserved {s : String}
    (h : ∀ c ∈ s.toList, c.toNat < 256 ∧ isUnreserved (UInt8.ofNat c.toNat) = true) : encode s = s := by
  have chars := encodeChars_of_unreserved h
  rw [String.ofList_toList] at chars
  rw [encode, chars, String.ofList_toList]

/-! ## What is written -/

theorem isWritten_encodeByte_all :
    ∀ n < 256, (encodeByte (UInt8.ofNat n)).all isWritten = true := by
  decide +kernel

theorem isWritten_of_mem_encode {s : String} {c : Char} (h : c ∈ (encode s).toList) :
    isWritten c = true := by
  rw [encode, String.toList_ofList, encodeChars] at h
  obtain ⟨b, -, hc⟩ := List.mem_flatMap.mp h
  have all := isWritten_encodeByte_all b.toNat b.toNat_lt
  rw [UInt8.ofNat_toNat, List.all_eq_true] at all
  exact all c hc

theorem notMem_encode {c : Char} (other : isWritten c = false) (s : String) :
    c ∉ (encode s).toList := by
  intro h
  rw [isWritten_of_mem_encode h] at other
  cases other

end Percent

end CarCatalog.Text

/-!
# Texts as bytes

A text is sent and stored as its UTF-8 bytes.

    ofUtf8 (toUtf8 s) = some s          (ofUtf8_toUtf8)
-/

namespace CarCatalog

abbrev Bytes := List UInt8

namespace Text

def toUtf8 (s : String) : Bytes := s.toUTF8.data.toList

/-- The text that the bytes encode, if they are well-formed UTF-8. -/
def ofUtf8 (bs : Bytes) : Option String := String.fromUTF8? ⟨bs.toArray⟩

/-! ## Lemmas -/

theorem ofUtf8_toUtf8 (s : String) : ofUtf8 (toUtf8 s) = some s := by
  have h : (⟨(toUtf8 s).toArray⟩ : ByteArray) = s.toUTF8 := by
    simp [toUtf8]
  simp only [ofUtf8, h]
  simp [String.fromUTF8?, String.toUTF8, s.isValidUTF8, String.fromUTF8]

end Text

end CarCatalog

/-
# VectorClient.Text.Utf8 — text as bytes

The bytes of a text are its UTF-8 encoding; a byte string is a text if it is
the encoding of one.
-/
namespace VectorClient.Text

set_option autoImplicit false

def utf8 (s : String) : List UInt8 := s.toUTF8.data.toList

def ofUtf8? (bytes : List UInt8) : Option String := String.fromUTF8? ⟨bytes.toArray⟩

/-- Every text is read back from its bytes. -/
@[simp]
theorem ofUtf8?_utf8 (s : String) : ofUtf8? (utf8 s) = some s := by
  simp [ofUtf8?, utf8, String.fromUTF8?, String.fromUTF8, s.isValidUTF8]

end VectorClient.Text

import TestSkeleton.Text.Basic

set_option autoImplicit false

/-! # Encoding of texts

Texts are kept in files in the encoding UTF-8, where not all bytes are a text.
-/

namespace TestSkeleton.Text

/-- The bytes of a text. -/
def encode (t : Text) : List UInt8 := t.asString.toUTF8.toList

/-- The text that bytes stand for, if there is one. -/
def decode? (bs : List UInt8) : Option Text :=
  (String.fromUTF8? ⟨bs.toArray⟩).map String.toList

end TestSkeleton.Text

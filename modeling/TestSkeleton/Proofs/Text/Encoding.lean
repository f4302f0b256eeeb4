import TestSkeleton.Text.Encoding

set_option autoImplicit false

/-! # Bytes of texts

A text is read back from its bytes, and so no two texts have the same bytes.
-/

namespace TestSkeleton.Text

/-- The walk over an array of bytes collects those that are left. -/
theorem toList_loop_eq (bs : ByteArray) (i : Nat) (read : List UInt8) :
    ByteArray.toList.loop bs i read = read.reverse ++ bs.data.toList.drop i := by
  fun_induction ByteArray.toList.loop bs i read with
  | case1 i read h ih =>
      have hlength : i < bs.data.toList.length := h
      have hget : bs.get! i = bs.data.toList[i] := by simp [ByteArray.get!, getElem!_pos, h]
      rw [ih, hget, List.drop_eq_getElem_cons hlength]
      simp
  | case2 i read h =>
      rw [List.drop_eq_nil_of_le (Nat.le_of_not_lt h), List.append_nil]

theorem encode_eq (t : Text) : encode t = t.asString.toByteArray.data.toList :=
  toList_loop_eq t.asString.toByteArray 0 []

/-- **The bytes of a text stand for it.** -/
theorem decode?_encode (t : Text) : decode? (encode t) = some t := by
  have hbytes : (⟨(encode t).toArray⟩ : ByteArray) = t.asString.toByteArray := by
    rw [encode_eq]
  rw [decode?, hbytes, String.fromUTF8?, dif_pos t.asString.isValidUTF8]
  exact congrArg some String.toList_ofList

theorem encode_injective {s t : Text} (h : encode s = encode t) : s = t := by
  rw [← Option.some_inj, ← decode?_encode, h, decode?_encode]

end TestSkeleton.Text

/-
  A text written to a file is read back.

  `encodeUtf8` goes through the byte array of a string; its list of bytes is what the loop over the array
  collects (`toList_loop`), so that decoding finds the same array again (`decodeUtf8?_encodeUtf8`).
-/
import DocStub.Text.Bytes

namespace DocStub.Text

/-- The loop that lists the bytes of an array holds those in front of `i` in reverse, and puts the others behind them.
    -/
theorem toList_loop (bs : ByteArray) (i : Nat) (r : List UInt8) :
    ByteArray.toList.loop bs i r = r.reverse ++ bs.data.toList.drop i := by
  fun_induction ByteArray.toList.loop bs i r with
  | case1 i r h ih =>
    have hi : i < bs.data.toList.length := h
    have hget : bs.get! i = bs.data.toList[i] := by
      rw [Array.getElem_toList]
      exact getElem!_pos bs.data i h
    rw [ih, List.reverse_cons, List.append_assoc, List.drop_eq_getElem_cons hi, hget]
    rfl
  | case2 i r h =>
    rw [List.drop_eq_nil_of_le (Nat.le_of_not_lt h), List.append_nil]

/-- A text is what its bytes say. -/
theorem decodeUtf8?_encodeUtf8 (s : Text) : decodeUtf8? (encodeUtf8 s) = some s := by
  have hbytes : (⟨(encodeUtf8 s).toArray⟩ : ByteArray) = (String.ofList s).toUTF8 := by
    have hlist : encodeUtf8 s = (String.ofList s).toUTF8.data.toList := toList_loop _ 0 []
    rw [hlist]
  have hvalid : (String.ofList s).toUTF8.IsValidUTF8 := (String.ofList s).isValidUTF8
  rw [decodeUtf8?, hbytes, String.fromUTF8?, dif_pos hvalid]
  exact congrArg some String.toList_ofList

end DocStub.Text

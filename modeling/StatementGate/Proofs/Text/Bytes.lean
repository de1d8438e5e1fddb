import Mathlib.Data.List.Basic
import StatementGate.Text.Utf8

/-! # Bytes of texts

The byte at which a part of a text starts, and ASCII texts, which are their own lists of bytes. -/

namespace StatementGate

namespace Utf8

theorem size_append (s t : List Char) : size (s ++ t) = size s + size t := by
  induction s with
  | nil => exact (Nat.zero_add _).symm
  | cons c s ih =>
    change c.utf8Size + size (s ++ t) = c.utf8Size + size s + size t
    rw [ih, Nat.add_assoc]

theorem size_eq (s : List Char) : size s = (String.ofList s).utf8ByteSize := by
  induction s with
  | nil => rfl
  | cons c s ih =>
    have hsplit : String.ofList (c :: s) = String.singleton c ++ String.ofList s := by
      rw [String.singleton_eq_ofList, ← String.ofList_append]
      rfl
    rw [hsplit, String.utf8ByteSize_append, String.utf8ByteSize_singleton, ← ih]
    rfl

/-- What stands before a part of the text ends on the boundary of a character. -/
theorem isValid_size {text : String} {before after : List Char} (h : text.toList = before ++ after) :
    (String.Pos.Raw.mk (size before)).IsValid text := by
  rw [String.Pos.Raw.isValid_iff_exists_append]
  refine ⟨String.ofList before, String.ofList after, ?_, by rw [size_eq]; rfl⟩
  rw [← String.ofList_append, ← h, String.ofList_toList]

end Utf8

theorem toList_loop_eq (bytes : ByteArray) (i : Nat) (read : List UInt8) :
    ByteArray.toList.loop bytes i read = read.reverse ++ bytes.data.toList.drop i := by
  fun_induction ByteArray.toList.loop bytes i read with
  | case1 i read hlt ih =>
    have hi : i < bytes.data.toList.length := hlt
    have hget : bytes.get! i = bytes.data.toList[i] := getElem!_pos bytes.data i hlt
    rw [ih, List.reverse_cons, List.append_assoc, List.drop_eq_getElem_cons hi, hget,
      List.singleton_append]
  | case2 i read hge =>
    have hle : bytes.data.toList.length ≤ i := Nat.le_of_not_lt hge
    rw [List.drop_eq_nil_of_le hle, List.append_nil]

theorem toList_eq_data (bytes : ByteArray) : bytes.toList = bytes.data.toList := by
  rw [ByteArray.toList, toList_loop_eq]
  rfl

theorem utf8EncodeChar_ascii {c : Char} (h : c.toNat < 128) :
    String.utf8EncodeChar c = [UInt8.ofNat c.toNat] :=
  if_pos (Nat.le_of_lt_succ h)

theorem ofNat_byte_ascii {c : Char} (h : c.toNat < 128) :
    Char.ofNat (UInt8.ofNat c.toNat).toNat = c := by
  rw [UInt8.toNat_ofNat_of_lt' (by simpa using Nat.lt_trans h (by decide)), Char.ofNat_toNat]

/-- Read byte by byte, an ASCII text is the list of its characters. -/
theorem bytes_of_ascii {cs : List Char} (h : ∀ c ∈ cs, c.toNat < 128) :
    (String.ofList cs).toUTF8.toList.map (fun byte => Char.ofNat byte.toNat) = cs := by
  rw [toList_eq_data, String.toUTF8_eq_toByteArray, String.toByteArray_ofList, List.utf8Encode,
    List.toList_data_toByteArray]
  induction cs with
  | nil => rfl
  | cons c cs ih =>
    rw [List.forall_mem_cons] at h
    rw [List.flatMap_cons, List.map_append, ih h.2, utf8EncodeChar_ascii h.1, List.map_singleton,
      ofNat_byte_ascii h.1]
    rfl

end StatementGate

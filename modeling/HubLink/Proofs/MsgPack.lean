import HubLink.MsgPack.Read
import HubLink.MsgPack.Write
import HubLink.Proofs.BigEndian
/-!
Reading back written MessagePack headers. Each writer picks the shortest form, and the marker of
that form belongs to the family the reader asks for and announces the width that was written, so
a length below `2^32` (and an unsigned integer below `2^63`) comes back as it was, whatever
follows it. Longer values would not: the widest forms keep only their low bits.
-/
namespace HubLink.MsgPack

/-! The `fix` markers, checked over their whole ranges. -/

theorem ofByte_fixPos : ∀ n < 128, Marker.ofByte n.toUInt8 = .fixPos n := by decide

theorem ofByte_fixMap : ∀ n < 16, Marker.ofByte (0x80 + n).toUInt8 = .fixMap n := by decide

theorem ofByte_fixArray : ∀ n < 16, Marker.ofByte (0x90 + n).toUInt8 = .fixArray n := by decide

theorem ofByte_fixStr : ∀ n < 32, Marker.ofByte (0xA0 + n).toUInt8 = .fixStr n := by decide

@[simp]
theorem readData_toBigEndian (w n : Nat) (rest : List UInt8) :
    readData w (toBigEndian w n ++ rest) = .ok (n % 256 ^ w, rest) := by
  simp [readData]

theorem readArrayLen_writeArrayLen {n : Nat} (h : n < 2 ^ 32) (rest : List UInt8) :
    readArrayLen (writeArrayLen n ++ rest) = .ok (n, rest) := by
  by_cases h₁ : n < 16
  · simp only [writeArrayLen, h₁, if_true, List.cons_append, List.nil_append]
    simp only [readArrayLen, readMarker, ofByte_fixArray n h₁, bind, Except.bind]
  by_cases h₂ : n < 0x10000
  · simp only [writeArrayLen, h₁, h₂, if_true, if_false, List.cons_append]
    simp [readArrayLen, readMarker, Marker.ofByte, bind, Except.bind, Nat.mod_eq_of_lt h₂]
  · simp only [writeArrayLen, h₁, h₂, if_false, List.cons_append]
    simp [readArrayLen, readMarker, Marker.ofByte, bind, Except.bind]
    omega

theorem readMapLen_writeMapLen {n : Nat} (h : n < 2 ^ 32) (rest : List UInt8) :
    readMapLen (writeMapLen n ++ rest) = .ok (n, rest) := by
  by_cases h₁ : n < 16
  · simp only [writeMapLen, h₁, if_true, List.cons_append, List.nil_append]
    simp only [readMapLen, readMarker, ofByte_fixMap n h₁, bind, Except.bind]
  by_cases h₂ : n < 0x10000
  · simp only [writeMapLen, h₁, h₂, if_true, if_false, List.cons_append]
    simp [readMapLen, readMarker, Marker.ofByte, bind, Except.bind, Nat.mod_eq_of_lt h₂]
  · simp only [writeMapLen, h₁, h₂, if_false, List.cons_append]
    simp [readMapLen, readMarker, Marker.ofByte, bind, Except.bind]
    omega

theorem readStrLen_writeStrLen {n : Nat} (h : n < 2 ^ 32) (rest : List UInt8) :
    readStrLen (writeStrLen n ++ rest) = .ok (n, rest) := by
  by_cases h₁ : n < 32
  · simp only [writeStrLen, h₁, if_true, List.cons_append, List.nil_append]
    simp only [readStrLen, readMarker, ofByte_fixStr n h₁, bind, Except.bind]
  by_cases h₂ : n < 0x100
  · simp only [writeStrLen, h₁, h₂, if_true, if_false, List.cons_append]
    simp [readStrLen, readMarker, Marker.ofByte, bind, Except.bind, Nat.mod_eq_of_lt h₂]
  by_cases h₃ : n < 0x10000
  · simp only [writeStrLen, h₁, h₂, h₃, if_true, if_false, List.cons_append]
    simp [readStrLen, readMarker, Marker.ofByte, bind, Except.bind, Nat.mod_eq_of_lt h₃]
  · simp only [writeStrLen, h₁, h₂, h₃, if_false, List.cons_append]
    simp [readStrLen, readMarker, Marker.ofByte, bind, Except.bind]
    omega

/-- An unsigned integer below `2^63` reads back as a signed 64-bit integer, in every form. -/
theorem readInt_writeUInt {n : Nat} (h : n < 2 ^ 63) (rest : List UInt8) :
    readInt (writeUInt n ++ rest) = .ok (n, rest) := by
  by_cases h₁ : n < 0x80
  · simp only [writeUInt, h₁, if_true, List.cons_append, List.nil_append]
    simp only [readInt, readMarker, ofByte_fixPos n h₁, bind, Except.bind]
  by_cases h₂ : n < 0x100
  · simp only [writeUInt, h₁, h₂, if_true, if_false, List.cons_append]
    simp [readInt, readMarker, Marker.ofByte, bind, Except.bind, Nat.mod_eq_of_lt h₂]
    omega
  by_cases h₃ : n < 0x10000
  · simp only [writeUInt, h₁, h₂, h₃, if_true, if_false, List.cons_append]
    simp [readInt, readMarker, Marker.ofByte, bind, Except.bind, Nat.mod_eq_of_lt h₃]
    omega
  by_cases h₄ : n < 0x100000000
  · simp only [writeUInt, h₁, h₂, h₃, h₄, if_true, if_false, List.cons_append]
    simp [readInt, readMarker, Marker.ofByte, bind, Except.bind, Nat.mod_eq_of_lt h₄]
    omega
  · have hmod : n % 18446744073709551616 = n := Nat.mod_eq_of_lt (by omega)
    have hlt : n < 9223372036854775808 := h
    simp only [writeUInt, h₁, h₂, h₃, h₄, if_false, List.cons_append]
    simp [readInt, readMarker, Marker.ofByte, bind, Except.bind, hmod, hlt]

theorem writeStr_head (s : String) : ∃ b t, writeStr s = b :: t ∧ b ≠ 0xC0 := by
  have hfix : ∀ n < 32, (0xA0 + n).toUInt8 ≠ 0xC0 := by decide
  simp only [writeStr, writeStrLen]
  split
  · next h => exact ⟨_, _, rfl, hfix _ h⟩
  split
  · exact ⟨_, _, rfl, by decide⟩
  split
  · exact ⟨_, _, rfl, by decide⟩
  · exact ⟨_, _, rfl, by decide⟩

theorem writeStr_ne_nil (s : String) : writeStr s ≠ [] := by
  obtain ⟨b, t, hw, -⟩ := writeStr_head s
  simp [hw]

theorem writeStr_length (s : String) :
    (Utf8.encode s).length < (writeStr s).length := by
  have hlen : (writeStr s).length = (writeStrLen (Utf8.encode s).length).length +
      (Utf8.encode s).length := by
    simp [writeStr]
  have hpos : 0 < (writeStrLen (Utf8.encode s).length).length := by
    simp only [writeStrLen]
    split_ifs <;> simp
  omega

end HubLink.MsgPack

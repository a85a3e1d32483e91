import HubLink.Frame.Header
import HubLink.Proofs.BigEndian
/-!
Reading back a written frame header. A header is writable when its reserved bits fit in three
bits, its opcode is the one its wire value names, its length fits in 63 bits and an unmasked
header has no key. Parsing the bytes of such a header, whatever follows them, gives the header
and the number of bytes it took; every proper prefix of those bytes is still too short. The
reader also accepts longer length forms than needed, so the written form is the shortest of the
byte strings that read as the header (`encode_parse_roundtrip`).
-/
namespace HubLink

namespace OpCode

theorem ofNat_mod (n : Nat) : ofNat (n % 16) = ofNat n := by
  simp [ofNat]

theorem toNat_lt (op : OpCode) : op.toNat < 16 := by
  cases op <;> simp [toNat]
  omega

end OpCode

namespace FrameHeader

/-- A header whose bytes name it: three reserved bits, a named opcode (or a reserved one below
16), a length below `2^63`, and no key when unmasked. -/
structure Writable (h : FrameHeader) : Prop where
  rsv_lt : h.rsv < 8
  opcode_named : OpCode.ofNat h.opcode.toNat = h.opcode
  length_lt : h.payloadLength < 2 ^ 63
  unmasked_key : h.masked = false → h.mask = 0

theorem encode_length (h : FrameHeader) : h.encode.length = h.encodedLen := by
  by_cases hm : h.masked <;>
    simp only [encode, encodedLen, extendedLengthBytes, hm] <;> split_ifs <;> simp

theorem firstByte_fields (fin : Bool) {rsv : Nat} {op : OpCode} (hrsv : rsv < 8)
    (hop : OpCode.ofNat op.toNat = op) :
    let b := ((if fin then 128 else 0) + rsv % 8 * 16 + op.toNat).toUInt8
    (b.toNat / 128 = 1) = (fin = true) ∧ b.toNat / 16 % 8 = rsv ∧ OpCode.ofNat b.toNat = op := by
  have hl := op.toNat_lt
  have hb : ((if fin then 128 else 0) + rsv % 8 * 16 + op.toNat).toUInt8.toNat =
      (if fin then 128 else 0) + rsv % 8 * 16 + op.toNat := by
    simp only [Nat.toUInt8_eq, UInt8.toNat_ofNat']
    apply Nat.mod_eq_of_lt
    split <;> omega
  simp only [hb]
  refine ⟨?_, ?_, ?_⟩
  · cases fin <;> simp <;> omega
  · cases fin <;> simp <;> omega
  · have hmod : ((if fin then 128 else 0) + rsv % 8 * 16 + op.toNat) % 16 = op.toNat := by
      cases fin <;> simp <;> omega
    rw [← OpCode.ofNat_mod, hmod, hop]

theorem secondByte_fields (masked : Bool) {k : Nat} (hk : k < 128) :
    let b := ((if masked then 128 else 0) + k).toUInt8
    (b.toNat / 128 = 1) = (masked = true) ∧ b.toNat % 128 = k := by
  have hb : ((if masked then 128 else 0) + k).toUInt8.toNat = (if masked then 128 else 0) + k := by
    simp only [Nat.toUInt8_eq, UInt8.toNat_ofNat']
    apply Nat.mod_eq_of_lt
    split <;> omega
  simp only [hb]
  cases masked <;> simp <;> omega

theorem parse_encode_append {h : FrameHeader} (hw : h.Writable) (rest : List UInt8) :
    parse (h.encode ++ rest) = .ok (some (h, h.encodedLen)) := by
  obtain ⟨fin, rsv, opcode, masked, n, mask⟩ := h
  obtain ⟨hrsv, hop, hn, hmask⟩ := hw
  simp only at hrsv hop hn hmask
  obtain ⟨hf, hr, ho⟩ := firstByte_fields fin hrsv hop
  simp only [encode, encodedLen, extendedLengthBytes, List.cons_append]
  generalize ((if fin then 128 else 0) + rsv % 8 * 16 + opcode.toNat).toUInt8 = b0 at hf hr ho ⊢
  by_cases hshort : n ≤ 125
  · obtain ⟨hm, hl⟩ := secondByte_fields masked (show n < 128 by omega)
    simp only [if_pos hshort]
    generalize ((if masked then 128 else 0) + n).toUInt8 = b1 at hm hl ⊢
    cases masked <;>
      simp [parse, hf, hr, ho, hm, hl, hmask, show n ≠ 126 by omega, show n ≠ 127 by omega]
  · by_cases hmid : n ≤ 0xFFFF
    · obtain ⟨hm, hl⟩ := secondByte_fields masked (show 126 < 128 by omega)
      simp only [if_neg hshort, if_pos hmid]
      generalize ((if masked then 128 else 0) + 126).toUInt8 = b1 at hm hl ⊢
      cases masked <;> simp [parse, hf, hr, ho, hm, hl, hmask] <;> omega
    · obtain ⟨hm, hl⟩ := secondByte_fields masked (show 127 < 128 by omega)
      simp only [if_neg hshort, if_neg hmid]
      generalize ((if masked then 128 else 0) + 127).toUInt8 = b1 at hm hl ⊢
      have hmod : n % 18446744073709551616 = n := Nat.mod_eq_of_lt (by omega)
      cases masked <;>
        simp [parse, hf, hr, ho, hm, hl, hmask, hmod, show ¬ 9223372036854775808 ≤ n by omega]

theorem parse_short {buf : List UInt8} (h : buf.length < 2) : parse buf = .ok none := by
  match buf, h with
  | [], _ => rfl
  | [_], _ => rfl

theorem take_toBigEndian_append {w j : Nat} (n : Nat) (l : List UInt8) (hj : w ≤ j) :
    (MsgPack.toBigEndian w n ++ l).take j = MsgPack.toBigEndian w n ++ l.take (j - w) := by
  rw [List.take_append, List.take_of_length_le (by simp; omega)]
  simp

theorem readBigEndian_take_none {w j : Nat} {l : List UInt8} (hj : j < w) :
    MsgPack.readBigEndian w (l.take j) = none := by
  rw [MsgPack.readBigEndian_eq_none_iff]
  simp
  omega

theorem parse_take_encode {h : FrameHeader} (hw : h.Writable) {k : Nat} (hk : k < h.encodedLen) :
    parse (h.encode.take k) = .ok none := by
  by_cases h2 : k < 2
  · exact parse_short (by simp; omega)
  obtain ⟨fin, rsv, opcode, masked, n, mask⟩ := h
  have hn : n < 2 ^ 63 := hw.length_lt
  obtain ⟨j, rfl⟩ : ∃ j, k = j + 2 := ⟨k - 2, by omega⟩
  simp only [encode, encodedLen, extendedLengthBytes] at hk ⊢
  by_cases hshort : n ≤ 125
  · obtain ⟨hm, hl⟩ := secondByte_fields masked (show n < 128 by omega)
    simp only [if_pos hshort, List.cons_append, List.take_succ_cons] at hk ⊢
    generalize ((if masked then 128 else 0) + n).toUInt8 = b1 at hm hl ⊢
    cases masked
    · simp at hk
    · simp [parse, hm, hl, show n ≠ 126 by omega, show n ≠ 127 by omega,
        readBigEndian_take_none (show j < 4 by simp at hk; omega)]
  · by_cases hmid : n ≤ 0xFFFF
    · obtain ⟨hm, hl⟩ := secondByte_fields masked (show 126 < 128 by omega)
      simp only [if_neg hshort, if_pos hmid, List.cons_append, List.take_succ_cons] at hk ⊢
      generalize ((if masked then 128 else 0) + 126).toUInt8 = b1 at hm hl ⊢
      by_cases hj : j < 2
      · simp [parse, hl, readBigEndian_take_none hj]
      · cases masked
        · simp at hk
          omega
        · simp only [take_toBigEndian_append n _ (show 2 ≤ j by omega)]
          simp [parse, hm, hl, readBigEndian_take_none (show j - 2 < 4 by simp at hk; omega)]
    · obtain ⟨hm, hl⟩ := secondByte_fields masked (show 127 < 128 by omega)
      simp only [if_neg hshort, if_neg hmid, List.cons_append, List.take_succ_cons] at hk ⊢
      generalize ((if masked then 128 else 0) + 127).toUInt8 = b1 at hm hl ⊢
      by_cases hj : j < 8
      · simp [parse, hl, readBigEndian_take_none hj]
      · have hmod : n % 18446744073709551616 = n := Nat.mod_eq_of_lt (by omega)
        cases masked
        · simp at hk
          omega
        · simp only [take_toBigEndian_append n _ (show 8 ≤ j by omega)]
          simp [parse, hm, hl, hmod, show ¬ 9223372036854775808 ≤ n by omega,
            readBigEndian_take_none (show j - 8 < 4 by simp at hk; omega)]

/-- Bytes read as a header are at least as many as the header's written form: the 16-bit form
is read for lengths of at most 16 bits and the seven-bit one for lengths up to 125, so the
writer's choice is the shortest form the reader accepts. -/
theorem encodedLen_le_of_parse {buf : List UInt8} {h : FrameHeader} {k : Nat}
    (hp : parse buf = .ok (some (h, k))) : h.encodedLen ≤ k := by
  match buf with
  | [] | [_] => cases hp
  | b0 :: b1 :: rest =>
    by_cases h126 : b1.toNat % 128 = 126
    · rcases hr : MsgPack.readBigEndian 2 rest with _ | ⟨n, r⟩
      · simp [parse, h126, hr] at hp
      have hn := MsgPack.readBigEndian_lt hr
      by_cases hm : b1.toNat / 128 = 1
      · rcases hk : MsgPack.readBigEndian 4 r with _ | ⟨key, r'⟩ <;>
          simp [parse, h126, hr, hm, hk] at hp
        obtain ⟨rfl, rfl⟩ := hp
        simp only [encodedLen, extendedLengthBytes, ↓reduceIte]
        split_ifs <;> omega
      · simp [parse, h126, hr, hm] at hp
        obtain ⟨rfl, rfl⟩ := hp
        simp only [encodedLen, extendedLengthBytes, Bool.false_eq_true, ↓reduceIte]
        split_ifs <;> omega
    by_cases h127 : b1.toNat % 128 = 127
    · rcases hr : MsgPack.readBigEndian 8 rest with _ | ⟨n, r⟩
      · simp [parse, h127, hr] at hp
      by_cases htop : Nat.pow 2 63 ≤ n
      · simp [parse, h127, hr, htop] at hp
      by_cases hm : b1.toNat / 128 = 1
      · rcases hk : MsgPack.readBigEndian 4 r with _ | ⟨key, r'⟩ <;>
          simp [parse, h127, hr, htop, hm, hk] at hp
        obtain ⟨rfl, rfl⟩ := hp
        simp only [encodedLen, extendedLengthBytes, ↓reduceIte]
        split_ifs <;> omega
      · simp [parse, h127, hr, htop, hm] at hp
        obtain ⟨rfl, rfl⟩ := hp
        simp only [encodedLen, extendedLengthBytes, Bool.false_eq_true, ↓reduceIte]
        split_ifs <;> omega
    have hshort : b1.toNat % 128 ≤ 125 := by omega
    by_cases hm : b1.toNat / 128 = 1
    · rcases hk : MsgPack.readBigEndian 4 rest with _ | ⟨key, r'⟩ <;>
        simp [parse, h126, h127, hm, hk] at hp
      obtain ⟨rfl, rfl⟩ := hp
      simp [encodedLen, extendedLengthBytes, hshort]
    · simp [parse, h126, h127, hm] at hp
      obtain ⟨rfl, rfl⟩ := hp
      simp [encodedLen, extendedLengthBytes, hshort]

/-- A writable header is written in `encodedLen` bytes, in the shortest length form the reader
accepts (no bytes that read as the header are fewer). Its bytes read back as the header and
their count whatever follows them, and every proper prefix of them is still too short. -/
theorem encode_parse_roundtrip {h : FrameHeader} (hw : h.Writable) (rest : List UInt8) :
    h.encode.length = h.encodedLen ∧
      (∀ buf k, parse buf = .ok (some (h, k)) → h.encodedLen ≤ k) ∧
      parse (h.encode ++ rest) = .ok (some (h, h.encodedLen)) ∧
      ∀ k < h.encodedLen, parse (h.encode.take k) = .ok none :=
  ⟨encode_length h, fun _ _ hp => encodedLen_le_of_parse hp, parse_encode_append hw rest,
    fun _ hk => parse_take_encode hw hk⟩

/-- A masked binary header announcing 65536 bytes takes the 64-bit form: fourteen bytes. -/
theorem encode_parse_roundtrip_long :
    let h : FrameHeader :=
      { fin := true, rsv := 0, opcode := .binary, masked := true, payloadLength := 65536,
        mask := 0x01020304 }
    h.Writable ∧ h.encodedLen = 14 ∧ h.encode.length = h.encodedLen ∧
      (∀ buf k, parse buf = .ok (some (h, k)) → h.encodedLen ≤ k) ∧
      parse (h.encode ++ [0xAB]) = .ok (some (h, h.encodedLen)) ∧
      ∀ k < h.encodedLen, parse (h.encode.take k) = .ok none := by
  intro h
  have hw : h.Writable := ⟨by decide, by decide, by decide, by decide⟩
  exact ⟨hw, rfl, encode_parse_roundtrip hw [0xAB]⟩

end FrameHeader

end HubLink

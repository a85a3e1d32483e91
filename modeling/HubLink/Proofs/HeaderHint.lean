import HubLink.Proofs.DecoderStates
/-!
# The header length the first two bytes announce

A frame header's first two bytes announce how long it is: two, plus the extended length its
seven-bit length code names (two bytes for 126, eight for 127), plus four for the key when the
mask bit is set (`FrameDecoder.headerLenHint`). The decoder reports this figure when a stream
ends inside a header, while the parser reads the header in stages. They agree: the parser waits
exactly while fewer bytes than announced are there, reads the header from exactly as many, and
once it has answered, more bytes do not change its answer. The bytes a header is read from are
the header's own written form exactly when its length takes the shortest form; otherwise the
written form is shorter (`parse_agrees_with_headerLenHint`).
-/
namespace HubLink

namespace OpCode

@[simp]
theorem toNat_ofNat (n : Nat) : (ofNat n).toNat = n % 16 := by
  unfold ofNat
  split <;> simp_all [toNat]

end OpCode

namespace FrameHeader

open MsgPack

theorem firstByte_of_read (b0 : UInt8) :
    ((if decide (b0.toNat / 128 = 1) = true then 128 else 0) + b0.toNat / 16 % 8 % 8 * 16 +
      (OpCode.ofNat b0.toNat).toNat).toUInt8 = b0 := by
  have hb := b0.toNat_lt
  have hsum : (if decide (b0.toNat / 128 = 1) = true then 128 else 0) +
      b0.toNat / 16 % 8 % 8 * 16 + (OpCode.ofNat b0.toNat).toNat = b0.toNat := by
    rw [OpCode.toNat_ofNat]
    split <;> simp_all <;> omega
  rw [hsum]
  exact UInt8.ofNat_toNat

theorem toUInt8_of_toNat {k : Nat} {b : UInt8} (h : b.toNat = k) : k.toUInt8 = b := by
  subst h
  exact UInt8.ofNat_toNat

/-- The written form of a header with the fields read from the bytes `b0` and `b1`, whose second
byte carries the shortest length code for its length and whose extended length `ext` is written
in the form that code names: these bytes, then the key when masked. -/
theorem encode_of_fields {b0 b1 : UInt8} {ext : List UInt8} (h : FrameHeader)
    (hfin : h.fin = decide (b0.toNat / 128 = 1)) (hrsv : h.rsv = b0.toNat / 16 % 8)
    (hop : h.opcode = OpCode.ofNat b0.toNat) (hmask : h.masked = decide (b1.toNat / 128 = 1))
    (hform : (h.payloadLength ≤ 125 ∧ b1.toNat % 128 = h.payloadLength ∧ ext = []) ∨
      (125 < h.payloadLength ∧ h.payloadLength ≤ 0xFFFF ∧ b1.toNat % 128 = 126 ∧
        ext = toBigEndian 2 h.payloadLength) ∨
      (0xFFFF < h.payloadLength ∧ b1.toNat % 128 = 127 ∧ ext = toBigEndian 8 h.payloadLength)) :
    h.encode = b0 :: b1 :: ext ++ (if h.masked then toBigEndian 4 h.mask.toNat else []) := by
  obtain ⟨fin, rsv, opcode, masked, len, mask⟩ := h
  simp only at hfin hrsv hop hmask hform
  subst hfin hrsv hop hmask
  have hb1 := b1.toNat_lt
  have hsecond : ∀ c, b1.toNat % 128 = c →
      ((if decide (b1.toNat / 128 = 1) = true then 128 else 0) + c).toUInt8 = b1 := by
    intro c hc
    apply toUInt8_of_toNat
    split <;> simp_all <;> omega
  simp only [encode, firstByte_of_read, List.cons_append]
  rcases hform with ⟨hl, hc, rfl⟩ | ⟨hl, hl', hc, rfl⟩ | ⟨hl, hc, rfl⟩
  · simp only [if_pos hl, hsecond len hc, List.cons_append, List.nil_append]
  · simp only [if_neg (show ¬ len ≤ 125 by omega), if_pos hl', hsecond 126 hc, List.cons_append]
  · simp only [if_neg (show ¬ len ≤ 125 by omega), if_neg (show ¬ len ≤ 0xFFFF by omega),
      hsecond 127 hc, List.cons_append]

theorem toBigEndian_key {r r' : List UInt8} {key : Nat} (hk : readBigEndian 4 r = some (key, r')) :
    r = toBigEndian 4 key.toUInt32.toNat ++ r' := by
  have hlt : key < 4294967296 := by simpa using readBigEndian_lt hk
  rw [readBigEndian_eq_some hk, Nat.toUInt32_eq, UInt32.toNat_ofNat', Nat.mod_eq_of_lt hlt]

theorem take_eq_encode_of_parse {buf : List UInt8} {h : FrameHeader} {n : Nat}
    (hp : parse buf = .ok (some (h, n))) (hlen : h.encodedLen = n) : buf.take n = h.encode := by
  match buf with
  | [] | [_] => cases hp
  | b0 :: b1 :: rest =>
    by_cases h126 : b1.toNat % 128 = 126
    · rcases hr : readBigEndian 2 rest with _ | ⟨len, r⟩
      · simp [parse, h126, hr] at hp
      have hn := readBigEndian_lt hr
      by_cases hm : b1.toNat / 128 = 1
      · rcases hk : readBigEndian 4 r with _ | ⟨key, r'⟩ <;>
          simp [parse, h126, hr, hm, hk] at hp
        obtain ⟨rfl, rfl⟩ := hp
        simp [encodedLen, extendedLengthBytes] at hlen
        have hlong : 125 < len ∧ len ≤ 0xFFFF := by split_ifs at hlen <;> omega
        rw [encode_of_fields _ rfl rfl rfl (by simp [hm])
          (.inr (.inl ⟨hlong.1, hlong.2, h126, rfl⟩)), readBigEndian_eq_some hr, toBigEndian_key hk]
        simp [List.take_append, List.take_of_length_le]
      · simp [parse, h126, hr, hm] at hp
        obtain ⟨rfl, rfl⟩ := hp
        simp [encodedLen, extendedLengthBytes] at hlen
        have hlong : 125 < len ∧ len ≤ 0xFFFF := by split_ifs at hlen <;> omega
        rw [encode_of_fields _ rfl rfl rfl (by simp [hm])
          (.inr (.inl ⟨hlong.1, hlong.2, h126, rfl⟩)), readBigEndian_eq_some hr]
        simp
    by_cases h127 : b1.toNat % 128 = 127
    · rcases hr : readBigEndian 8 rest with _ | ⟨len, r⟩
      · simp [parse, h127, hr] at hp
      by_cases htop : Nat.pow 2 63 ≤ len
      · simp [parse, h127, hr, htop] at hp
      by_cases hm : b1.toNat / 128 = 1
      · rcases hk : readBigEndian 4 r with _ | ⟨key, r'⟩ <;>
          simp [parse, h127, hr, htop, hm, hk] at hp
        obtain ⟨rfl, rfl⟩ := hp
        simp [encodedLen, extendedLengthBytes] at hlen
        have hlong : 0xFFFF < len := by split_ifs at hlen <;> omega
        rw [encode_of_fields _ rfl rfl rfl (by simp [hm]) (.inr (.inr ⟨hlong, h127, rfl⟩)),
          readBigEndian_eq_some hr, toBigEndian_key hk]
        simp [List.take_append, List.take_of_length_le]
      · simp [parse, h127, hr, htop, hm] at hp
        obtain ⟨rfl, rfl⟩ := hp
        simp [encodedLen, extendedLengthBytes] at hlen
        have hlong : 0xFFFF < len := by split_ifs at hlen <;> omega
        rw [encode_of_fields _ rfl rfl rfl (by simp [hm]) (.inr (.inr ⟨hlong, h127, rfl⟩)),
          readBigEndian_eq_some hr]
        simp
    have hshort : b1.toNat % 128 ≤ 125 := by omega
    by_cases hm : b1.toNat / 128 = 1
    · rcases hk : readBigEndian 4 rest with _ | ⟨key, r'⟩ <;>
        simp [parse, h126, h127, hm, hk] at hp
      obtain ⟨rfl, rfl⟩ := hp
      rw [encode_of_fields _ rfl rfl rfl (by simp [hm]) (.inl ⟨hshort, rfl, rfl⟩),
        toBigEndian_key hk]
      simp
    · simp [parse, h126, h127, hm] at hp
      obtain ⟨rfl, rfl⟩ := hp
      rw [encode_of_fields _ rfl rfl rfl (by simp [hm]) (.inl ⟨hshort, rfl, rfl⟩)]
      simp

/-- Bytes read as a header are its written form exactly when they are as many as the written
form, that is when they write the length in the shortest form. -/
theorem encodedLen_eq_iff_take {buf : List UInt8} {h : FrameHeader} {n : Nat}
    (hp : parse buf = .ok (some (h, n))) : h.encodedLen = n ↔ buf.take n = h.encode := by
  refine ⟨take_eq_encode_of_parse hp, fun htake => ?_⟩
  have hlen := congrArg List.length htake
  rw [List.length_take, Nat.min_eq_left (parse_some hp).2, encode_length] at hlen
  exact hlen.symm

/-- The header length the first two bytes announce agrees with the parser: while the parser waits
for bytes, fewer than announced are there; a header is read from exactly as many bytes as
announced, which are at least as many as its written form and are that form exactly when their
length takes the shortest form; once the parser has read a header or refused one, more bytes do
not change its answer. -/
theorem parse_agrees_with_headerLenHint (buf : List UInt8) :
    (parse buf = .ok none → buf.length < FrameDecoder.headerLenHint buf) ∧
      (∀ h n, parse buf = .ok (some (h, n)) → n = FrameDecoder.headerLenHint buf ∧
        h.encodedLen ≤ n ∧ (h.encodedLen = n ↔ buf.take n = h.encode)) ∧
      (parse buf ≠ .ok none → ∀ t, parse (buf ++ t) = parse buf) :=
  ⟨parse_none, fun _ _ hp => ⟨(parse_some hp).1, encodedLen_le_of_parse hp,
    encodedLen_eq_iff_take hp⟩, parse_append⟩

/-- A final binary frame's length of five in the 16-bit form: four bytes are read, the written
form takes two. -/
example : parse [0x82, 0x7E, 0x00, 0x05] = .ok (some (⟨true, 0, .binary, false, 5, 0⟩, 4)) := by
  rfl

example : (⟨true, 0, .binary, false, 5, 0⟩ : FrameHeader).encode = [0x82, 0x05] := by decide

end FrameHeader

end HubLink

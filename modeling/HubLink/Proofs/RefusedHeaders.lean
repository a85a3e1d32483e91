import HubLink.Proofs.DecoderStates
/-!
# A refused header changes nothing

A frame decoder fails only on a header: while it waits for one, the header parser refuses a
64-bit length with its top bit set as soon as the eight length bytes are in (`LengthTopBit`), and
the checks refuse a whole header that breaks the framing rules (`FrameDecoder.Accepts`). A decoder
collecting a payload never fails. A failed decode hands back no bytes and leaves the decoder
exactly as it was, so after an error the caller's buffer and the decoder are those before the
call. For a decoder in a phase (`FrameDecoder.Between`), and so for every decoder reached from a
new one, that is all a failure can be (`decode_error_leaves_decoder`).
-/
namespace HubLink

namespace FrameHeader

open MsgPack

/-- The first two bytes announce a 64-bit length, and the eight bytes after them, read as a
big-endian number, have the top bit set. -/
def LengthTopBit (src : List UInt8) : Prop :=
  ∃ b0 b1 len rest, src = b0 :: b1 :: (len ++ rest) ∧ b1.toNat % 128 = 127 ∧ len.length = 8 ∧
    Nat.pow 2 63 ≤ ofBigEndian len

/-- The only header the parser refuses is one whose 64-bit length has its top bit set, and it
refuses it once the length bytes are in, before the key. -/
theorem parse_eq_error_iff (src : List UInt8) (e : Error) :
    parse src = .error e ↔ e = .lengthTopBit ∧ LengthTopBit src := by
  constructor
  · intro hp
    refine ⟨parse_error hp, ?_⟩
    match src, hp with
    | b0 :: b1 :: rest, hp =>
      simp only [parse] at hp
      split at hp
      · rename_i heq
        by_cases h126 : b1.toNat % 128 = 126
        · simp only [h126, if_true] at heq
          split at heq <;> cases heq
        by_cases h127 : b1.toNat % 128 = 127
        · simp only [h127, if_true] at heq
          rcases hr : readBigEndian 8 rest with _ | ⟨n, r⟩
          · simp [hr] at heq
          obtain ⟨hlen, rfl⟩ := readBigEndian_some hr
          by_cases htop : Nat.pow 2 63 ≤ n
          · have hn : ofBigEndian (rest.take 8) = n := by
              simp only [readBigEndian, takeBytes, List.length_take, Nat.min_eq_left hlen,
                if_true, Option.map_some, Option.some.injEq, Prod.mk.injEq] at hr
              exact hr.1
            exact ⟨b0, b1, rest.take 8, rest.drop 8, by simp, h127, by simp; omega, hn ▸ htop⟩
          · simp [hr, htop] at heq
        · simp [h126, h127] at heq
      · cases hp
      · split at hp
        · split at hp <;> cases hp
        · cases hp
  · rintro ⟨rfl, b0, b1, len, rest, rfl, h127, hlen, htop⟩
    have hr : readBigEndian 8 (len ++ rest) = some (ofBigEndian len, rest) := by
      simp [readBigEndian, takeBytes, hlen]
    simp [parse, h127, hr, htop]

end FrameHeader

namespace FrameDecoder

variable {max : Nat} {d : FrameDecoder} {held : List UInt8}

theorem not_accepts_of_validate {h : FrameHeader} {e : Error} (hv : d.validate h = .error e) :
    ¬ Accepts d.maxPayloadSize h := fun ha => by
  rw [validate_eq_ok.mpr ha] at hv
  cases hv

/-- What a decode from a decoder waiting for a header fails on: the header parser's refusal, or
the checks' refusal of a whole header. In both cases the decoder is left as it was. -/
theorem step_awaiting_error (hs : d.state = .awaitingHeader) (src : List UInt8) (e : Error) :
    ((d.step src).1 = .error e ↔ FrameHeader.parse src = .error e ∨
      ∃ h n, FrameHeader.parse src = .ok (some (h, n)) ∧ d.validate h = .error e) ∧
    ((d.step src).1 = .error e → (d.step src).2 = d) := by
  rcases hp : FrameHeader.parse src with e' | _ | ⟨h, n⟩
  · rw [step_parse_error hs hp]
    simp
  · rw [step_parse_none hs hp]
    simp
  rcases hv : d.validate h with e' | _
  · rw [step_refused hs hp hv]
    simp [hv]
  · rw [step_header hs hp hv]
    simp [hv]

theorem step_collecting_ok {h : FrameHeader} (hs : d.state = .accumulatingPayload)
    (hh : d.header = some h) (src : List UInt8) (e : Error) : (d.step src).1 ≠ .error e := by
  rw [step_of_header hs hh]
  simp

/-- A decode from a decoder in a phase fails exactly when the decoder waits for a header and the
header is refused, by the parser or by the checks; a failed decode leaves the decoder as it was. -/
theorem step_error_of_between (hb : Between max d held) (src : List UInt8) (e : Error) :
    ((d.step src).1 = .error e ↔ d.state = .awaitingHeader ∧ (FrameHeader.parse src = .error e ∨
      ∃ h n, FrameHeader.parse src = .ok (some (h, n)) ∧ d.validate h = .error e)) ∧
    ((d.step src).1 = .error e → (d.step src).2 = d) := by
  cases hb with
  | idle hd =>
    obtain ⟨hiff, hsame⟩ := step_awaiting_error hd.state src e
    exact ⟨by simp [hd.state, hiff], hsame⟩
  | collecting state header =>
    have hok := step_collecting_ok state header src e
    exact ⟨by simp [hok, state], fun h => absurd h hok⟩

end FrameDecoder

/-- A decode that fails, from a frame decoder made with payload limit `max` after any
operations, leaves the decoder exactly as it was (state, header, payload received and key
position) and hands back no bytes, so the caller's buffer stays as it was. It fails exactly when
the decoder waits for a header and the bytes at the front of the buffer are refused: by the
header parser, for a 64-bit length with its top bit set, as soon as the eight length bytes are
in; or by the checks, for a whole header that is unmasked, has reserved bits, a reserved opcode,
a payload over `max`, or is a control frame that is fragmented or over 125 bytes. -/
theorem decode_error_leaves_decoder (max : Nat) (ops : List FrameDecoder.Op) (src : List UInt8)
    (e : Error) :
    let d := ((FrameDecoder.new max).run [] ops).2.1
    ((d.step src).1 = .error e → (d.step src).2 = d) ∧
      ((d.step src).1 = .error e ↔ d.state = .awaitingHeader ∧
        ((e = .lengthTopBit ∧ FrameHeader.LengthTopBit src) ∨
          ∃ h n, FrameHeader.parse src = .ok (some (h, n)) ∧ ¬ FrameDecoder.Accepts max h ∧
            d.validate h = .error e)) := by
  intro d
  have hnew : (FrameDecoder.new max).Idle max := ⟨rfl, rfl, rfl, rfl⟩
  have hb := (FrameDecoder.run_between ops (FrameDecoder.Between.idle hnew)).1
  change FrameDecoder.Between max d _ at hb
  obtain ⟨hiff, hsame⟩ := FrameDecoder.step_error_of_between hb src e
  refine ⟨hsame, hiff.trans (and_congr_right fun _ => or_congr ?_ ?_)⟩
  · exact FrameHeader.parse_eq_error_iff src e
  · constructor
    · rintro ⟨h, n, hp, hv⟩
      exact ⟨h, n, hp, hb.limit ▸ FrameDecoder.not_accepts_of_validate hv, hv⟩
    · rintro ⟨h, n, hp, -, hv⟩
      exact ⟨h, n, hp, hv⟩

end HubLink

import HubLink.Proofs.FrameDecoding
/-!
# The states a frame decoder reaches

A frame decoder is driven by two operations: decoding from a buffer of received bytes, and
dropping the frame in progress. Between operations it is in one of two phases (`Between`):
idle, with no header and no payload, or collecting the payload of a header it checked, holding
the payload bytes received so far unmasked, fewer than the header announces, with its key
position at their count modulo 4. It is never left holding a complete frame: the decode that
completes a frame hands it out.

The phases are stated against the bytes the decoder took for the frame in progress: the header's
own bytes, which read back as the header, then the payload bytes as they arrived. One decode
keeps the decoder in a phase (`step_between`), so every run of operations does
(`run_between`). Hence the guards for a decoder past its header without one are never reached,
and every frame handed out has the payload its header announces and a header that passed the
checks.
-/
namespace HubLink

namespace FrameHeader

open MsgPack

theorem mask_bit_iff (b : UInt8) : b.toNat / 128 = 1 ↔ b.toNat ≥ 128 := by
  have := b.toNat_lt
  omega

/-- What a parse answers: it waits while it has fewer bytes than the first two announce, or it
refuses a 64-bit length with its top bit set, or it reads the header from as many bytes as the
first two announce; once it has stopped waiting, more bytes do not change its answer. -/
theorem parse_cases (src : List UInt8) :
    (parse src = .ok none ∧ src.length < FrameDecoder.headerLenHint src) ∨
    ((parse src = .error .lengthTopBit ∨
        ∃ h, parse src = .ok (some (h, FrameDecoder.headerLenHint src)) ∧
          FrameDecoder.headerLenHint src ≤ src.length) ∧
      ∀ t, parse (src ++ t) = parse src) := by
  match src with
  | [] | [_] => exact .inl ⟨rfl, by simp [FrameDecoder.headerLenHint]⟩
  | b0 :: b1 :: rest =>
    simp only [parse, FrameDecoder.headerLenHint, List.cons_append, List.length_cons,
      ← mask_bit_iff]
    by_cases h126 : b1.toNat % 128 = 126
    · rcases hr : readBigEndian 2 rest with _ | ⟨len, r⟩
      · have := readBigEndian_eq_none_iff.mp hr
        left
        simp [h126]
        omega
      obtain ⟨hl, rfl⟩ := readBigEndian_some hr
      by_cases hm : b1.toNat / 128 = 1
      · rcases hk : readBigEndian 4 (rest.drop 2) with _ | ⟨k, r'⟩
        · have := readBigEndian_eq_none_iff.mp hk
          left
          simp at this
          simp [h126, hm, hk]
          omega
        · have := (readBigEndian_some hk).1
          right
          simp at this
          simp [h126, hm, hk, readBigEndian_append hr, readBigEndian_append hk]
          omega
      · right
        simp [h126, hm, readBigEndian_append hr]
        omega
    by_cases h127 : b1.toNat % 128 = 127
    · rcases hr : readBigEndian 8 rest with _ | ⟨len, r⟩
      · have := readBigEndian_eq_none_iff.mp hr
        left
        simp [h127]
        omega
      obtain ⟨hl, rfl⟩ := readBigEndian_some hr
      by_cases htop : len ≥ Nat.pow 2 63
      · right
        simp [h127, htop, readBigEndian_append hr]
      by_cases hm : b1.toNat / 128 = 1
      · rcases hk : readBigEndian 4 (rest.drop 8) with _ | ⟨k, r'⟩
        · have := readBigEndian_eq_none_iff.mp hk
          left
          simp at this
          simp [h127, htop, hm, hk]
          omega
        · have := (readBigEndian_some hk).1
          right
          simp at this
          simp [h127, htop, hm, hk, readBigEndian_append hr, readBigEndian_append hk]
          omega
      · right
        simp [h127, htop, hm, readBigEndian_append hr]
        omega
    by_cases hm : b1.toNat / 128 = 1
    · rcases hk : readBigEndian 4 rest with _ | ⟨k, r'⟩
      · have := readBigEndian_eq_none_iff.mp hk
        left
        simp [h126, h127, hm, hk]
        omega
      · have := (readBigEndian_some hk).1
        right
        simp [h126, h127, hm, hk, readBigEndian_append hk]
        omega
    · right
      simp [h126, h127, hm]

/-- A parse that is no longer waiting for bytes is not changed by more of them. -/
theorem parse_append {src : List UInt8} (h : parse src ≠ .ok none) (t : List UInt8) :
    parse (src ++ t) = parse src := by
  rcases parse_cases src with ⟨hnone, -⟩ | ⟨-, hmore⟩
  · exact absurd hnone h
  · exact hmore t

theorem parse_some {src : List UInt8} {h : FrameHeader} {n : Nat}
    (hp : parse src = .ok (some (h, n))) :
    n = FrameDecoder.headerLenHint src ∧ n ≤ src.length := by
  rcases parse_cases src with ⟨hnone, -⟩ | ⟨herr | ⟨h', hread, hle⟩, -⟩
  · simp [hp] at hnone
  · simp [hp] at herr
  · rw [hp] at hread
    cases hread
    exact ⟨rfl, hle⟩

theorem parse_none {src : List UInt8} (hp : parse src = .ok none) :
    src.length < FrameDecoder.headerLenHint src := by
  rcases parse_cases src with ⟨-, hshort⟩ | ⟨herr | ⟨h', hread, -⟩, -⟩
  · exact hshort
  · simp [hp] at herr
  · simp [hp] at hread

theorem headerLenHint_take {k : Nat} (hk : 2 ≤ k) (src : List UInt8) :
    FrameDecoder.headerLenHint (src.take k) = FrameDecoder.headerLenHint src := by
  obtain ⟨k, rfl⟩ : ∃ j, k = j + 2 := ⟨k - 2, by omega⟩
  match src with
  | [] | [_] => rfl
  | _ :: _ :: _ => rfl

theorem two_le_headerLenHint (src : List UInt8) : 2 ≤ FrameDecoder.headerLenHint src := by
  unfold FrameDecoder.headerLenHint
  split
  · simp only
    omega
  · exact Nat.le_refl 2

theorem parse_take {src : List UInt8} {h : FrameHeader} {n : Nat}
    (hp : parse src = .ok (some (h, n))) : parse (src.take n) = .ok (some (h, n)) := by
  obtain ⟨hn, hle⟩ := parse_some hp
  have hsplit := List.take_append_drop n src
  rcases hq : parse (src.take n) with e | _ | x
  · have := @parse_append (src.take n) (by simp [hq]) (src.drop n)
    rw [hsplit, hq, hp] at this
    cases this
  · have hlt := parse_none hq
    have h2 : 2 ≤ n := hn ▸ two_le_headerLenHint src
    rw [headerLenHint_take h2, List.length_take, Nat.min_eq_left hle] at hlt
    omega
  · have := @parse_append (src.take n) (by simp [hq]) (src.drop n)
    rw [hsplit, hq, hp] at this
    exact this.symm

/-- The only fault a parse finds is a 64-bit length with its top bit set. -/
theorem parse_error {src : List UInt8} {e : Error} (hp : parse src = .error e) :
    e = .lengthTopBit := by
  rcases parse_cases src with ⟨hnone, -⟩ | ⟨herr | ⟨h', hread, -⟩, -⟩
  · simp [hp] at hnone
  · rw [hp] at herr
    cases herr
    rfl
  · simp [hp] at hread

end FrameHeader

namespace FrameDecoder

/-- The checks a header passes, as conditions: masked, no reserved bits, a named opcode, within
the payload limit, and a control frame final and of at most 125 bytes. -/
structure Accepts (max : Nat) (h : FrameHeader) : Prop where
  masked : h.masked = true
  rsv : h.rsv = 0
  named : h.opcode.isReserved = false
  within : h.payloadLength ≤ max
  control : h.opcode.isControl = true → h.fin = true ∧ h.payloadLength ≤ 125

theorem validate_eq_ok {d : FrameDecoder} {h : FrameHeader} :
    d.validate h = .ok () ↔ Accepts d.maxPayloadSize h := by
  constructor
  · intro hv
    simp only [validate] at hv
    split_ifs at hv with h₁ h₂ h₃ h₄ h₅ h₆
    exact ⟨by simpa using h₁, by simpa using h₂, by simpa using h₃, by omega,
      fun hc => ⟨by simpa [hc] using h₅, by simp [hc] at h₆; omega⟩⟩
  · rintro ⟨hm, hr, hn, hw, hc⟩
    simp only [validate, hm, hr, hn, Bool.not_true, Bool.false_eq_true, if_false, ne_eq,
      not_true_eq_false]
    by_cases hctl : h.opcode.isControl = true
    · obtain ⟨hfin, hsmall⟩ := hc hctl
      simp [hctl, hfin, show ¬ h.payloadLength > d.maxPayloadSize by omega,
        show ¬ h.payloadLength > 125 by omega]
    · simp [hctl, show ¬ h.payloadLength > d.maxPayloadSize by omega]

theorem validate_error {d : FrameDecoder} {h : FrameHeader} {e : Error}
    (hv : d.validate h = .error e) :
    e ≠ .payloadWithoutHeader ∧ e ≠ .completedWithoutHeader := by
  simp only [validate] at hv
  split_ifs at hv <;> cases hv <;> simp

/-- Collecting from a decoder past its header: it takes what `src` holds of the payload still to
come, unmasked from its key position, and hands out the frame once the payload is complete. -/
theorem collect_eq {d : FrameDecoder} {h : FrameHeader} (hs : d.state = .accumulatingPayload)
    (hh : d.header = some h) (src : List UInt8) :
    d.collect src =
      let c := src.take (h.payloadLength - d.payload.size)
      let payload := d.payload ++ (Mask.apply h.mask d.maskIndex c).toArray
      if c = [] then (none, d, src)
      else if c.length < h.payloadLength - d.payload.size then
        (none, ⟨.accumulatingPayload, some h, payload, (d.maskIndex + c.length) % 4,
          d.maxPayloadSize⟩, src.drop c.length)
      else
        (some ⟨h, payload.toList⟩,
          ⟨.awaitingHeader, none, #[], (d.maskIndex + c.length) % 4, d.maxPayloadSize⟩,
          src.drop c.length) := by
  obtain ⟨state, header, payload, index, max⟩ := d
  simp only at hs hh
  subst hs hh
  simp only [collect, emit, Mask.byBlocks_fst, Mask.byBlocks_snd, List.length_eq_zero_iff]

section Collecting

variable {d : FrameDecoder} {h : FrameHeader} (hs : d.state = .accumulatingPayload)
  (hh : d.header = some h) {s : List UInt8}

include hs hh

theorem collect_of_take_nil (hnil : s.take (h.payloadLength - d.payload.size) = []) :
    d.collect s = (none, d, s) := by
  rw [collect_eq hs hh]
  exact if_pos hnil

theorem collect_of_lt (hne : s ≠ []) (hshort : s.length < h.payloadLength - d.payload.size) :
    d.collect s = (none, ⟨.accumulatingPayload, some h,
      d.payload ++ (Mask.apply h.mask d.maskIndex s).toArray, (d.maskIndex + s.length) % 4,
      d.maxPayloadSize⟩, []) := by
  have hall : s.take (h.payloadLength - d.payload.size) = s := List.take_of_length_le (by omega)
  rw [collect_eq hs hh]
  simp only
  rw [hall, if_neg hne, if_pos hshort, List.drop_length]

/-- As many bytes as the payload still needs, or more: the frame is handed out and the decoder
waits for the next header. -/
theorem collect_of_le (hpos : 0 < h.payloadLength - d.payload.size)
    (hle : h.payloadLength - d.payload.size ≤ s.length) :
    d.collect s = (some ⟨h, (d.payload ++ (Mask.apply h.mask d.maskIndex
          (s.take (h.payloadLength - d.payload.size))).toArray).toList⟩,
        ⟨.awaitingHeader, none, #[], (d.maskIndex + (h.payloadLength - d.payload.size)) % 4,
          d.maxPayloadSize⟩, s.drop (h.payloadLength - d.payload.size)) := by
  have hlen : (s.take (h.payloadLength - d.payload.size)).length =
      h.payloadLength - d.payload.size := by
    rw [List.length_take]
    omega
  have hnil : s.take (h.payloadLength - d.payload.size) ≠ [] := by
    rw [← List.length_pos_iff, hlen]
    exact hpos
  rw [collect_eq hs hh]
  simp only
  rw [if_neg hnil, hlen, if_neg (Nat.lt_irrefl _)]

end Collecting

theorem collect_cases {d : FrameDecoder} {h : FrameHeader} (hs : d.state = .accumulatingPayload)
    (hh : d.header = some h) (s : List UInt8) :
    (s.take (h.payloadLength - d.payload.size) = [] ∧ d.collect s = (none, d, s)) ∨
    (s ≠ [] ∧ s.length < h.payloadLength - d.payload.size ∧
      d.collect s = (none, ⟨.accumulatingPayload, some h,
        d.payload ++ (Mask.apply h.mask d.maskIndex s).toArray, (d.maskIndex + s.length) % 4,
        d.maxPayloadSize⟩, [])) ∨
    (0 < h.payloadLength - d.payload.size ∧ h.payloadLength - d.payload.size ≤ s.length ∧
      d.collect s = (some ⟨h, (d.payload ++ (Mask.apply h.mask d.maskIndex
          (s.take (h.payloadLength - d.payload.size))).toArray).toList⟩,
        ⟨.awaitingHeader, none, #[], (d.maskIndex + (h.payloadLength - d.payload.size)) % 4,
          d.maxPayloadSize⟩, s.drop (h.payloadLength - d.payload.size))) := by
  by_cases hnil : s.take (h.payloadLength - d.payload.size) = []
  · exact .inl ⟨hnil, collect_of_take_nil hs hh hnil⟩
  have hpos : 0 < (s.take (h.payloadLength - d.payload.size)).length :=
    List.length_pos_iff.mpr hnil
  rw [List.length_take] at hpos
  by_cases hshort : s.length < h.payloadLength - d.payload.size
  · have hne : s ≠ [] := by
      rintro rfl
      simp at hnil
    exact .inr (.inl ⟨hne, hshort, collect_of_lt hs hh hne hshort⟩)
  · exact .inr (.inr ⟨by omega, by omega, collect_of_le hs hh (by omega) (by omega)⟩)

/-- An operation on a frame decoder: decoding from a buffer of received bytes, or dropping the
frame in progress. -/
inductive Op where
  | decode (src : List UInt8)
  | reset
  deriving Repr

/-- What a decode answers: an error, or the frame it completed (if one) with the bytes it left. -/
abbrev Answer := Except Error (Option Frame × List UInt8)

/-- The bytes taken for the frame in progress after a decode from `src` answered `a`, `held`
having been taken before: nothing once a frame is handed out, and after an error what was. -/
def heldAfter (held src : List UInt8) : Answer → List UInt8
  | .ok (some _, _) => []
  | .ok (none, rest) => held ++ src.take (src.length - rest.length)
  | .error _ => held

/-- Runs operations on a decoder that took `held` for the frame in progress: the answers of the
decodes in order, the decoder after them, and what it then holds taken. -/
def run (d : FrameDecoder) (held : List UInt8) : List Op → List Answer × FrameDecoder × List UInt8
  | [] => ([], d, held)
  | .reset :: ops => run d.reset [] ops
  | .decode src :: ops =>
    let (a, d') := d.step src
    let (answers, d'', held') := run d' (heldAfter held src a) ops
    (a :: answers, d'', held')

/-- The phases of a decoder between operations, given the bytes it took for the frame in
progress: idle with none taken, or collecting the payload of a header it checked, having
taken the header's bytes and then `raw`, which it holds unmasked. -/
inductive Between (max : Nat) : FrameDecoder → List UInt8 → Prop
  | idle {d : FrameDecoder} (hd : d.Idle max) : Between max d []
  | collecting {d : FrameDecoder} {h : FrameHeader} {hb raw : List UInt8}
      (state : d.state = .accumulatingPayload) (header : d.header = some h)
      (accepts : Accepts max h) (parsed : FrameHeader.parse hb = .ok (some (h, hb.length)))
      (short : raw.length < h.payloadLength) (index : d.maskIndex = raw.length % 4)
      (unmasked : d.payload.toList = Mask.apply h.mask 0 raw) (limit : d.maxPayloadSize = max) :
      Between max d (hb ++ raw)

/-- What a decode may answer: never one of the guards of a decoder past its header without one,
and only frames with the payload their header announces and a header that passed the checks. -/
structure Sound (max : Nat) (a : Answer) : Prop where
  payload_guard : a ≠ .error .payloadWithoutHeader
  complete_guard : a ≠ .error .completedWithoutHeader
  frames : ∀ f rest, a = .ok (some f, rest) →
    f.payload.length = f.header.payloadLength ∧ Accepts max f.header

theorem sound_none (max : Nat) (rest : List UInt8) : Sound max (.ok (none, rest)) :=
  ⟨by simp, by simp, by simp⟩

theorem sound_frame {max : Nat} {f : Frame} (rest : List UInt8)
    (hlen : f.payload.length = f.header.payloadLength) (ha : Accepts max f.header) :
    Sound max (.ok (some f, rest)) :=
  ⟨by simp, by simp, by rintro _ _ ⟨⟩; exact ⟨hlen, ha⟩⟩

theorem idle_emitted {max : Nat} (index : Nat) :
    (⟨.awaitingHeader, none, #[], index, max⟩ : FrameDecoder).Idle max :=
  ⟨rfl, rfl, rfl, rfl⟩

theorem collect_suffix (d : FrameDecoder) (src : List UInt8) : (d.collect src).2.2 <:+ src := by
  simp only [collect, emit]
  split
  · exact List.suffix_refl src
  · split
    · exact List.suffix_refl src
    · exact List.suffix_refl src
    · split_ifs
      · exact List.suffix_refl src
      · exact List.drop_suffix _ src
      · exact List.drop_suffix _ src

theorem step_of_header {d : FrameDecoder} {h : FrameHeader}
    (hs : d.state = .accumulatingPayload) (hh : d.header = some h) (src : List UInt8) :
    d.step src = (.ok ((d.collect src).1, (d.collect src).2.2), (d.collect src).2.1) := by
  simp [step, hs, hh]

/-- The bytes a decode took, after the bytes taken before: splitting what it read into two
buffers does not change them. -/
theorem heldAfter_append {s t rest : List UInt8} (hrest : rest <:+ t) (x : Option Frame) :
    heldAfter [] (s ++ t) (.ok (x, rest)) = heldAfter s t (.ok (x, rest)) := by
  cases x with
  | some f => rfl
  | none =>
    have hle := hrest.length_le
    simp only [heldAfter, List.nil_append, List.length_append]
    rw [show s.length + t.length - rest.length = s.length + (t.length - rest.length) by omega,
      List.take_append, List.take_of_length_le (by omega)]
    simp

/-- A decoder collecting a payload stays in a phase: it takes more of the payload, or hands out
the frame and is idle. -/
theorem collect_between {max : Nat} {d : FrameDecoder} {h : FrameHeader} {hb raw : List UInt8}
    (state : d.state = .accumulatingPayload) (header : d.header = some h)
    (accepts : Accepts max h) (parsed : FrameHeader.parse hb = .ok (some (h, hb.length)))
    (short : raw.length < h.payloadLength) (index : d.maskIndex = raw.length % 4)
    (unmasked : d.payload.toList = Mask.apply h.mask 0 raw) (limit : d.maxPayloadSize = max)
    (src : List UInt8) :
    Between max (d.collect src).2.1
        (heldAfter (hb ++ raw) src (.ok ((d.collect src).1, (d.collect src).2.2))) ∧
      Sound max (.ok ((d.collect src).1, (d.collect src).2.2)) := by
  have hsize : d.payload.size = raw.length := by
    rw [← Array.length_toList, unmasked, Mask.apply_length]
  have hpiece : ∀ c, (d.payload ++ (Mask.apply h.mask d.maskIndex c).toArray).toList =
      Mask.apply h.mask 0 (raw ++ c) := by
    intro c
    rw [Array.toList_append, unmasked, List.toList_toArray, index, Mask.apply_mod,
      Mask.apply_append, Nat.zero_add]
  rcases collect_cases state header src with ⟨-, hc⟩ | ⟨-, hshort, hc⟩ | ⟨-, hle, hc⟩ <;>
    rw [hc]
  · refine ⟨?_, sound_none max src⟩
    simpa [heldAfter] using
      Between.collecting state header accepts parsed short index unmasked limit
  · refine ⟨?_, sound_none max _⟩
    simp only [heldAfter, List.length_nil, Nat.sub_zero, List.take_length, List.append_assoc]
    rw [hsize] at hshort
    exact Between.collecting rfl rfl accepts parsed (by simp; omega)
      (by simp only [List.length_append, index]; omega) (hpiece src) limit
  · refine ⟨Between.idle ⟨rfl, rfl, rfl, limit⟩, sound_frame _ ?_ accepts⟩
    simp only [hpiece, Mask.apply_length, List.length_append, List.length_take, hsize]
    omega

/-! What one decode does from a decoder waiting for a header, by what the header bytes say. -/

section Awaiting

variable {d : FrameDecoder} {src : List UInt8}

theorem step_parse_error (hs : d.state = .awaitingHeader) {e : Error}
    (hp : FrameHeader.parse src = .error e) : d.step src = (.error e, d) := by
  simp [step, hs, readHeader, hp, bind, Except.bind]

theorem step_parse_none (hs : d.state = .awaitingHeader) (hp : FrameHeader.parse src = .ok none) :
    d.step src = (.ok (none, src), d) := by
  simp [step, hs, readHeader, hp, bind, Except.bind]

theorem step_refused (hs : d.state = .awaitingHeader) {h : FrameHeader} {n : Nat} {e : Error}
    (hp : FrameHeader.parse src = .ok (some (h, n))) (hv : d.validate h = .error e) :
    d.step src = (.error e, d) := by
  simp [step, hs, readHeader, hp, hv, bind, Except.bind]

theorem step_header (hs : d.state = .awaitingHeader) {h : FrameHeader} {n : Nat}
    (hp : FrameHeader.parse src = .ok (some (h, n))) (hv : d.validate h = .ok ()) :
    d.step src = (.ok (((d.begin h).collect (src.drop n)).1,
      ((d.begin h).collect (src.drop n)).2.2), ((d.begin h).collect (src.drop n)).2.1) := by
  simp [step, hs, readHeader, hp, hv, bind, Except.bind]

end Awaiting

@[simp]
theorem begin_header (d : FrameDecoder) (h : FrameHeader) : (d.begin h).header = some h := rfl

@[simp]
theorem begin_payload (d : FrameDecoder) (h : FrameHeader) : (d.begin h).payload = #[] := rfl

@[simp]
theorem begin_maskIndex (d : FrameDecoder) (h : FrameHeader) : (d.begin h).maskIndex = 0 := rfl

@[simp]
theorem begin_maxPayloadSize (d : FrameDecoder) (h : FrameHeader) :
    (d.begin h).maxPayloadSize = d.maxPayloadSize := rfl

theorem begin_state {d : FrameDecoder} {h : FrameHeader} (hpos : h.payloadLength ≠ 0) :
    (d.begin h).state = .accumulatingPayload := by
  simp [begin, hpos]

/-- A header without payload is a whole frame at once. -/
theorem begin_collect_empty (d : FrameDecoder) {h : FrameHeader} (hzero : h.payloadLength = 0)
    (src : List UInt8) :
    (d.begin h).collect src =
      (some ⟨h, []⟩, ⟨.awaitingHeader, none, #[], 0, d.maxPayloadSize⟩, src) := by
  simp [begin, collect, emit, hzero]

/-- An idle decoder reads a header, refuses it, or starts collecting its payload (handing out at
once a frame with none). -/
theorem step_idle {max : Nat} {d : FrameDecoder} (hd : d.Idle max) (src : List UInt8) :
    Between max (d.step src).2 (heldAfter [] src (d.step src).1) ∧ Sound max (d.step src).1 := by
  rcases hp : FrameHeader.parse src with e | _ | ⟨h, n⟩
  · have he := FrameHeader.parse_error hp
    subst he
    rw [step_parse_error hd.state hp]
    exact ⟨Between.idle hd, ⟨by simp, by simp, by simp⟩⟩
  · rw [step_parse_none hd.state hp]
    refine ⟨?_, sound_none max src⟩
    simpa [heldAfter] using Between.idle hd
  rcases hv : d.validate h with e | _
  · rw [step_refused hd.state hp hv]
    obtain ⟨h₁, h₂⟩ := validate_error hv
    exact ⟨Between.idle hd, ⟨by simpa using h₁, by simpa using h₂, by simp⟩⟩
  have haccepts : Accepts max h := hd.limit ▸ validate_eq_ok.mp hv
  rw [step_header hd.state hp hv]
  by_cases hzero : h.payloadLength = 0
  · rw [begin_collect_empty d hzero]
    exact ⟨Between.idle (hd.limit ▸ idle_emitted 0), sound_frame _ (by simp [hzero]) haccepts⟩
  have hn := (FrameHeader.parse_some hp).2
  have hparsed : FrameHeader.parse (src.take n) = .ok (some (h, (src.take n).length)) := by
    rw [List.length_take, Nat.min_eq_left hn]
    exact FrameHeader.parse_take hp
  have hc := @collect_between max (d.begin h) h (src.take n) [] (begin_state hzero)
    (begin_header d h) haccepts hparsed (by simp; omega) (by simp) (by simp) (by simp [hd.limit])
    (src.drop n)
  rw [List.append_nil, ← heldAfter_append (collect_suffix _ _)] at hc
  rwa [List.take_append_drop] at hc

theorem step_between {max : Nat} {d : FrameDecoder} {held : List UInt8}
    (hb : Between max d held) (src : List UInt8) :
    Between max (d.step src).2 (heldAfter held src (d.step src).1) ∧ Sound max (d.step src).1 := by
  cases hb with
  | idle hd => exact step_idle hd src
  | collecting state header accepts parsed short index unmasked limit =>
    rw [step_of_header state header]
    exact collect_between state header accepts parsed short index unmasked limit src

theorem reset_idle (max : Nat) {d : FrameDecoder} (hd : d.maxPayloadSize = max) :
    d.reset.Idle max :=
  ⟨rfl, rfl, rfl, hd⟩

theorem Between.limit {max : Nat} {d : FrameDecoder} {held : List UInt8}
    (hb : Between max d held) : d.maxPayloadSize = max := by
  cases hb with
  | idle hd => exact hd.limit
  | collecting _ _ _ _ _ _ _ limit => exact limit

/-- Every run of operations keeps a decoder in a phase, and every decode answers soundly. -/
theorem run_between {max : Nat} (ops : List Op) :
    ∀ {d : FrameDecoder} {held : List UInt8}, Between max d held →
      Between max (d.run held ops).2.1 (d.run held ops).2.2 ∧
        ∀ a ∈ (d.run held ops).1, Sound max a := by
  induction ops with
  | nil => intro d held hb; exact ⟨hb, by simp [run]⟩
  | cons op ops ih =>
    intro d held hb
    cases op with
    | reset => exact ih (Between.idle (reset_idle max hb.limit))
    | decode src =>
      obtain ⟨hb', hsound⟩ := step_between hb src
      obtain ⟨hend, hall⟩ := ih hb'
      refine ⟨hend, ?_⟩
      intro a ha
      simp only [run, List.mem_cons] at ha
      rcases ha with rfl | ha
      · exact hsound
      · exact hall a ha

end FrameDecoder

/-- A frame decoder made with payload limit `max`, after any operations (decodes from any
buffers, resets), is never left holding a complete frame. Waiting for a header, it holds none
and no payload. Collecting a payload, it holds a header that passed the checks, fewer payload
bytes than the header announces (so the bytes still to come are counted without underflow),
its key position at their count modulo 4, and the payload bytes it took after the header's own
bytes, unmasked with the key. No decode answers that the header is missing, and every frame
handed out has the payload its header announces, within the limit, from a masked header without
reserved bits or a reserved opcode; a control frame is final and of at most 125 bytes. -/
theorem decoder_reachable_states (max : Nat) (ops : List FrameDecoder.Op) :
    let d := ((FrameDecoder.new max).run [] ops).2.1
    let held := ((FrameDecoder.new max).run [] ops).2.2
    d.state ≠ .payloadComplete ∧
      (d.state = .awaitingHeader → d.header = none ∧ d.payload = #[]) ∧
      (d.state = .accumulatingPayload → ∃ h, d.header = some h ∧ d.validate h = .ok () ∧
        d.payload.size < h.payloadLength ∧ d.maskIndex = d.payload.size % 4 ∧
        ∃ hb raw, held = hb ++ raw ∧ FrameHeader.parse hb = .ok (some (h, hb.length)) ∧
          d.payload.toList = Mask.apply h.mask 0 raw) ∧
      ∀ a ∈ ((FrameDecoder.new max).run [] ops).1,
        a ≠ .error .payloadWithoutHeader ∧ a ≠ .error .completedWithoutHeader ∧
        ∀ f rest, a = .ok (some f, rest) →
          f.payload.length = f.header.payloadLength ∧ f.header.payloadLength ≤ max ∧
          f.header.masked = true ∧ f.header.rsv = 0 ∧ f.header.opcode.isReserved = false ∧
          (f.header.opcode.isControl = true → f.header.fin = true ∧ f.payload.length ≤ 125) := by
  intro d held
  have hnew : (FrameDecoder.new max).Idle max := ⟨rfl, rfl, rfl, rfl⟩
  obtain ⟨hb, hall⟩ := FrameDecoder.run_between ops (FrameDecoder.Between.idle hnew)
  change FrameDecoder.Between max d held at hb
  clear_value d held
  refine ⟨?_, ?_, ?_, ?_⟩
  · cases hb with
    | idle hd => simp [hd.state]
    | collecting state => simp [state]
  · intro hs
    cases hb with
    | idle hd => exact ⟨hd.header, hd.payload⟩
    | collecting state => simp [state] at hs
  · intro hs
    cases hb with
    | idle hd => simp [hd.state] at hs
    | @collecting h hb raw _ header accepts parsed short index unmasked limit =>
      have hsize : d.payload.size = raw.length := by
        rw [← Array.length_toList, unmasked, Mask.apply_length]
      refine ⟨h, header, FrameDecoder.validate_eq_ok.mpr (limit ▸ accepts), by omega,
        by rw [hsize]; exact index, hb, raw, rfl, parsed, unmasked⟩
  · intro a ha
    have hs := hall a ha
    refine ⟨hs.payload_guard, hs.complete_guard, ?_⟩
    intro f rest hf
    obtain ⟨hlen, ⟨hm, hr, hn, hw, hc⟩⟩ := hs.frames f rest hf
    exact ⟨hlen, hw, hm, hr, hn, fun hctl => ⟨(hc hctl).1, hlen ▸ (hc hctl).2⟩⟩

end HubLink

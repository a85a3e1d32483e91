import HubLink.Frame.Decoder
import HubLink.Proofs.FrameHeader
import HubLink.Proofs.Mask
/-!
Decoding the frames a client writes. A client frame is an opcode, a final bit, a key and a
payload; its bytes are the masked frame `buildFrame` writes. A decoder reading such bytes is at
every moment partway through one frame: still collecting its header (held in the source
bytes), or collecting its payload (unmasked as it arrives). One step either completes the frame
or moves the decoder further into it, so decoding after each chunk hands out exactly the frames
the chunk completes, however the bytes were cut.
-/
namespace HubLink

/-- A frame as a client sends it: opcode, final bit, key and the payload before masking. -/
structure ClientFrame where
  opcode : OpCode
  fin : Bool
  key : UInt32
  payload : List UInt8
  deriving Repr

namespace ClientFrame

/-- The header the frame is sent with. -/
def header (f : ClientFrame) : FrameHeader :=
  { fin := f.fin, rsv := 0, opcode := f.opcode, masked := true,
    payloadLength := f.payload.length, mask := f.key }

/-- The frame's bytes on the wire. -/
def bytes (f : ClientFrame) : List UInt8 := buildFrame f.opcode f.fin (some f.key) f.payload

/-- The frame a decoder should hand out for it. -/
def decoded (f : ClientFrame) : Frame := ⟨f.header, f.payload⟩

/-- What a client may send to a decoder with payload limit `max`: a named opcode, control frames
final and at most 125 bytes, the payload within the limit, and (as every byte buffer) below
`2^63` bytes. -/
structure Sendable (max : Nat) (f : ClientFrame) : Prop where
  named : f.opcode.isReserved = false
  control : f.opcode.isControl = true → f.fin = true ∧ f.payload.length ≤ 125
  within : f.payload.length ≤ max
  fits : f.payload.length < 2 ^ 63

theorem bytes_eq (f : ClientFrame) :
    f.bytes = f.header.encode ++ Mask.apply f.key 0 f.payload := by
  simp [bytes, buildFrame, header]

theorem bytes_length (f : ClientFrame) :
    f.bytes.length = f.header.encodedLen + f.payload.length := by
  simp [bytes_eq, FrameHeader.encode_length]

theorem bytes_drop_header (f : ClientFrame) (j : Nat) :
    f.bytes.drop (f.header.encodedLen + j) = (Mask.apply f.key 0 f.payload).drop j := by
  rw [bytes_eq, List.drop_append, List.drop_eq_nil_of_le (by simp [FrameHeader.encode_length])]
  simp [FrameHeader.encode_length]

theorem bytes_take_header (f : ClientFrame) (j : Nat) :
    f.bytes.take (f.header.encodedLen + j) =
      f.header.encode ++ (Mask.apply f.key 0 f.payload).take j := by
  rw [bytes_eq, List.take_append, List.take_of_length_le (by simp [FrameHeader.encode_length])]
  simp [FrameHeader.encode_length]

/-- The bytes of frames sent one after the other. -/
def wire (frames : List ClientFrame) : List UInt8 := (frames.map bytes).flatten

@[simp]
theorem wire_nil : wire [] = [] := rfl

@[simp]
theorem wire_cons (f : ClientFrame) (frames : List ClientFrame) :
    wire (f :: frames) = f.bytes ++ wire frames := rfl

theorem wire_take_drop (frames : List ClientFrame) (k : Nat) :
    wire frames = wire (frames.take k) ++ wire (frames.drop k) := by
  simp only [wire, ← List.flatten_append, ← List.map_append, List.take_append_drop]

theorem headerLen_pos (f : ClientFrame) : 2 ≤ f.header.encodedLen := by
  simp [FrameHeader.encodedLen]
  omega

theorem header_writable {max : Nat} {f : ClientFrame} (hs : f.Sendable max) :
    f.header.Writable where
  rsv_lt := by simp [header]
  opcode_named := by
    have := hs.named
    cases h : f.opcode <;> simp_all [header, OpCode.isReserved, OpCode.toNat, OpCode.ofNat]
  length_lt := hs.fits
  unmasked_key := by simp [header]

theorem validate_header {max : Nat} {f : ClientFrame} (hs : f.Sendable max) {d : FrameDecoder}
    (hd : d.maxPayloadSize = max) : d.validate f.header = .ok () := by
  have hc := hs.control
  have hw := hs.within
  have hn := hs.named
  simp only [FrameDecoder.validate, header, hd]
  by_cases hop : f.opcode.isControl = true
  · obtain ⟨hfin, hsmall⟩ := hc hop
    simp [hop, hfin, hn, show ¬ f.payload.length > max by omega,
      show ¬ f.payload.length > 125 by omega]
  · simp [hop, hn, show ¬ f.payload.length > max by omega]

end ClientFrame

namespace FrameDecoder

/-- A decoder between frames, with payload limit `max`. -/
structure Idle (max : Nat) (d : FrameDecoder) : Prop where
  state : d.state = .awaitingHeader
  header : d.header = none
  payload : d.payload = #[]
  limit : d.maxPayloadSize = max

/-- The decoder that has read `f`'s header and the first `j` bytes of its payload. -/
def collecting (f : ClientFrame) (j max : Nat) : FrameDecoder :=
  ⟨.accumulatingPayload, some f.header, (f.payload.take j).toArray, j % 4, max⟩

theorem unmask_drop (f : ClientFrame) (j : Nat) :
    (Mask.byBlocks f.key (j % 4) ((Mask.apply f.key 0 f.payload).drop j)).1 = f.payload.drop j := by
  rw [Mask.byBlocks_fst, Mask.apply_mod, Mask.apply_drop, Nat.zero_add, Mask.apply_apply]

theorem collect_finish (f : ClientFrame) {j : Nat} (max : Nat) (hj : j < f.payload.length)
    (rest : List UInt8) :
    ∃ d, (collecting f j max).collect ((Mask.apply f.key 0 f.payload).drop j ++ rest) =
      (some f.decoded, d, rest) ∧ d.Idle max := by
  have hlen : ((Mask.apply f.key 0 f.payload).drop j).length = f.payload.length - j := by simp
  refine ⟨⟨.awaitingHeader, none, #[], (j % 4 + (f.payload.length - j)) % 4, max⟩, ?_,
    ⟨rfl, rfl, rfl, rfl⟩⟩
  simp only [collect, collecting, emit, ClientFrame.header, List.size_toArray, List.length_take,
    Nat.min_eq_left (Nat.le_of_lt hj), List.take_left' hlen, hlen,
    show f.payload.length - j ≠ 0 by omega, if_false, Nat.lt_irrefl, unmask_drop,
    List.drop_left' hlen]
  simp [ClientFrame.decoded, ClientFrame.header]

theorem collect_partial (f : ClientFrame) {j : Nat} (max : Nat) {t : List UInt8}
    (ht : t <+: (Mask.apply f.key 0 f.payload).drop j) (hlt : j + t.length < f.payload.length) :
    (collecting f j max).collect t = (none, collecting f (j + t.length) max, []) := by
  by_cases hne : t = []
  · subst hne
    simp [collect, collecting]
  have htake : t = ((Mask.apply f.key 0 f.payload).drop j).take t.length :=
    List.prefix_iff_eq_take.mp ht
  have hpos : 0 < t.length := List.length_pos_iff.mpr hne
  have hpiece : Mask.apply f.key (j % 4) t = (f.payload.drop j).take t.length := by
    conv => lhs; rw [htake]
    rw [Mask.apply_mod, Mask.apply_drop, Mask.apply_take, Nat.zero_add,
      Mask.apply_apply]
  have hfit : t.length ≤ f.payload.length - j := by omega
  simp only [collect, collecting, ClientFrame.header, List.size_toArray, List.length_take,
    Nat.min_eq_left (show j ≤ f.payload.length by omega), List.take_of_length_le hfit]
  simp [hpiece, hne, show t.length < f.payload.length - j by omega, List.take_add, Nat.add_mod]

theorem begin_eq_collecting {max : Nat} {d : FrameDecoder} (hd : d.maxPayloadSize = max)
    (f : ClientFrame) (hP : f.payload ≠ []) : d.begin f.header = collecting f 0 max := by
  simp [begin, collecting, ClientFrame.header, hP, hd]

theorem readHeader_frame {max : Nat} {f : ClientFrame} (hs : f.Sendable max) {d : FrameDecoder}
    (hd : d.maxPayloadSize = max) (rest : List UInt8) :
    d.readHeader (f.header.encode ++ rest) = .ok (some (f.header, f.header.encodedLen)) := by
  simp [readHeader, FrameHeader.parse_encode_append (ClientFrame.header_writable hs),
    ClientFrame.validate_header hs hd, bind, Except.bind]

theorem readHeader_short {max : Nat} {f : ClientFrame} (hs : f.Sendable max) (d : FrameDecoder)
    {k : Nat} (hk : k < f.header.encodedLen) : d.readHeader (f.bytes.take k) = .ok none := by
  rw [ClientFrame.bytes_eq,
    List.take_append_of_le_length (by simp [FrameHeader.encode_length]; omega)]
  simp [readHeader, FrameHeader.parse_take_encode (ClientFrame.header_writable hs) hk, bind,
    Except.bind]

/-- A decoder partway through a frame `f`: it has taken the first `n` bytes of `f`'s bytes,
holding them in `src` while the header is incomplete and as unmasked payload after. -/
inductive Partway (max : Nat) (f : ClientFrame) : FrameDecoder → List UInt8 → Nat → Prop
  | inHeader {d : FrameDecoder} {n : Nat} (idle : d.Idle max) (short : n < f.header.encodedLen) :
      Partway max f d (f.bytes.take n) n
  | inPayload {j : Nat} (inside : j < f.payload.length) :
      Partway max f (collecting f j max) [] (f.header.encodedLen + j)

theorem partway_start {max : Nat} (f : ClientFrame) {d : FrameDecoder} (hd : d.Idle max) :
    Partway max f d [] 0 := by
  have h := @Partway.inHeader max f d 0 hd (by have := f.headerLen_pos; omega)
  simpa using h

theorem step_finish {max : Nat} {f : ClientFrame} (hs : f.Sendable max) {d : FrameDecoder}
    {src : List UInt8} {n : Nat} (hp : Partway max f d src n) (rest : List UInt8) :
    ∃ d', d.step (src ++ (f.bytes.drop n ++ rest)) = (.ok (some f.decoded, rest), d') ∧
      d'.Idle max := by
  cases hp with
  | inHeader idle short =>
    rw [← List.append_assoc, List.take_append_drop, ClientFrame.bytes_eq, List.append_assoc]
    by_cases hP : f.payload = []
    · refine ⟨⟨.awaitingHeader, none, #[], 0, d.maxPayloadSize⟩, ?_, ⟨rfl, rfl, rfl, idle.limit⟩⟩
      simp only [step, idle.state, readHeader_frame hs idle.limit,
        List.drop_left' (FrameHeader.encode_length _)]
      simp [begin, ClientFrame.header, hP, collect, emit, ClientFrame.decoded]
    · obtain ⟨d', hc, hi⟩ := collect_finish f max (List.length_pos_iff.mpr hP) rest
      refine ⟨d', ?_, hi⟩
      simp only [step, idle.state, readHeader_frame hs idle.limit]
      rw [List.drop_left' (FrameHeader.encode_length _), begin_eq_collecting idle.limit f hP]
      rw [List.drop_zero] at hc
      rw [hc]
  | inPayload hj =>
    obtain ⟨d', hc, hi⟩ := collect_finish f max hj rest
    refine ⟨d', ?_, hi⟩
    rw [List.nil_append, ClientFrame.bytes_drop_header]
    simp only [step, collecting]
    simp only [collecting] at hc
    rw [hc]

theorem step_advance {max : Nat} {f : ClientFrame} (hs : f.Sendable max) {d : FrameDecoder}
    {src : List UInt8} {n : Nat} (hp : Partway max f d src n) {t : List UInt8}
    (ht : t <+: f.bytes.drop n) (hlt : n + t.length < f.bytes.length) :
    ∃ d' src', d.step (src ++ t) = (.ok (none, src'), d') ∧
      Partway max f d' src' (n + t.length) := by
  have htake : t = (f.bytes.drop n).take t.length := List.prefix_iff_eq_take.mp ht
  have hbytes := f.bytes_length
  cases hp with
  | inHeader idle short =>
    have hsrc : f.bytes.take n ++ t = f.bytes.take (n + t.length) := by
      conv => lhs; rw [htake]
      rw [← List.take_add]
    rw [hsrc]
    by_cases hh : n + t.length < f.header.encodedLen
    · refine ⟨d, _, ?_, Partway.inHeader idle hh⟩
      simp [step, idle.state, readHeader_short hs d hh]
    · obtain ⟨m, hm⟩ : ∃ m, n + t.length = f.header.encodedLen + m :=
        ⟨n + t.length - f.header.encodedLen, by omega⟩
      have hP : f.payload ≠ [] := by
        intro h
        simp [h] at hbytes
        omega
      have hpre :
          (Mask.apply f.key 0 f.payload).take m <+: (Mask.apply f.key 0 f.payload).drop 0 := by
        simpa using List.take_prefix m (Mask.apply f.key 0 f.payload)
      have hc := collect_partial f max hpre (by simp; omega)
      refine ⟨collecting f m max, [], ?_, ?_⟩
      · rw [hm, ClientFrame.bytes_take_header]
        simp only [step, idle.state, readHeader_frame hs idle.limit,
          List.drop_left' (FrameHeader.encode_length _), begin_eq_collecting idle.limit f hP]
        rw [hc]
        simp [Nat.min_eq_left (show m ≤ f.payload.length by omega)]
      · rw [hm]
        exact Partway.inPayload (by omega)
  | @inPayload j hj =>
    rw [ClientFrame.bytes_drop_header] at ht
    rw [ClientFrame.bytes_length] at hlt
    have hc := collect_partial f max ht (by omega)
    refine ⟨collecting f (j + t.length) max, [], ?_, ?_⟩
    · simp only [List.nil_append, step, collecting]
      simp only [collecting] at hc
      rw [hc]
    · rw [Nat.add_assoc]
      exact Partway.inPayload (by omega)

theorem Partway.lt_length {max : Nat} {f : ClientFrame} {d : FrameDecoder} {src : List UInt8}
    {n : Nat} (hp : Partway max f d src n) : n < f.bytes.length := by
  cases hp with
  | inHeader idle short => rw [ClientFrame.bytes_length]; omega
  | inPayload hj => rw [ClientFrame.bytes_length]; omega

theorem step_idle_nil {max : Nat} {d : FrameDecoder} (hd : d.Idle max) :
    d.step [] = (.ok (none, []), d) := by
  simp [step, hd.state, readHeader, FrameHeader.parse_short, bind, Except.bind]

/-- Where a decoder stands in a run of frames still to come: idle with nothing held when none
are left, otherwise partway through the first. -/
def Pending (max : Nat) (d : FrameDecoder) (src : List UInt8) :
    List ClientFrame → Nat → Prop
  | [], n => d.Idle max ∧ src = [] ∧ n = 0
  | f :: _, n => Partway max f d src n

theorem pending_start {max : Nat} {d : FrameDecoder} (hd : d.Idle max) :
    ∀ frames : List ClientFrame, Pending max d [] frames 0
  | [] => ⟨hd, rfl, rfl⟩
  | f :: _ => partway_start f hd

/-- Decoding until nothing more is complete hands out every frame the new bytes complete, in
order, and leaves the decoder partway through the next one. -/
theorem drainLoop_frames {max : Nat} {todo : List ClientFrame} (hs : ∀ f ∈ todo, f.Sendable max)
    {d : FrameDecoder} {src : List UInt8} {n : Nat} (hp : Pending max d src todo n)
    {c : List UInt8} (hc : c <+: (ClientFrame.wire todo).drop n) (fuel : Nat)
    (hfuel : c.length < fuel) :
    ∃ k m d' src', d.drainLoop (src ++ c) fuel =
        ((todo.take k).map ClientFrame.decoded, none, d', src') ∧
      Pending max d' src' (todo.drop k) m ∧
      n + c.length = (ClientFrame.wire (todo.take k)).length + m := by
  induction todo generalizing d src n c fuel with
  | nil =>
    obtain ⟨fuel, rfl⟩ : ∃ f, fuel = f + 1 := ⟨fuel - 1, by omega⟩
    obtain ⟨hd, rfl, rfl⟩ := hp
    have hc' : c = [] := by simpa using hc
    subst hc'
    exact ⟨0, 0, d, [], by simp [drainLoop, step_idle_nil hd], ⟨hd, rfl, rfl⟩, rfl⟩
  | cons f rest ih =>
    obtain ⟨fuel, rfl⟩ : ∃ f, fuel = f + 1 := ⟨fuel - 1, by omega⟩
    have hf := hs f (by simp)
    have hn := Partway.lt_length hp
    have hwire :
        (ClientFrame.wire (f :: rest)).drop n = f.bytes.drop n ++ ClientFrame.wire rest := by
      simp [List.drop_append_of_le_length (Nat.le_of_lt hn)]
    rw [hwire] at hc
    by_cases hlt : n + c.length < f.bytes.length
    · have hc' : c <+: f.bytes.drop n :=
        List.prefix_of_prefix_length_le hc (List.prefix_append _ _) (by simp; omega)
      obtain ⟨d', src', hstep, hp'⟩ := step_advance hf hp hc' hlt
      exact ⟨0, n + c.length, d', src', by simp [drainLoop, hstep], hp', by simp⟩
    · have hsplit :
          c = f.bytes.drop n ++ (ClientFrame.wire rest).take (c.length - (f.bytes.length - n)) := by
        rw [List.prefix_iff_eq_take.mp hc, List.take_append,
          List.take_of_length_le (by simp; omega)]
        simp
      generalize hc₂ : (ClientFrame.wire rest).take (c.length - (f.bytes.length - n)) = c₂ at hsplit
      obtain ⟨d₁, hstep, hd₁⟩ := step_finish hf hp c₂
      have hlen : c.length = f.bytes.length - n + c₂.length := by rw [hsplit]; simp
      obtain ⟨k, m, d', src', hloop, hp', heq⟩ :=
        ih (fun g hg => hs g (by simp [hg])) (pending_start hd₁ rest)
          (show c₂ <+: (ClientFrame.wire rest).drop 0 by rw [← hc₂]; exact List.take_prefix _ _)
          fuel (by omega)
      refine ⟨k + 1, m, d', src', ?_, hp', ?_⟩
      · rw [hsplit]
        simp only [drainLoop, hstep]
        rw [List.nil_append] at hloop
        simp [hloop]
      · simp only [List.take_succ_cons, ClientFrame.wire_cons, List.length_append] at heq ⊢
        omega

/-- Feeds chunks one after the other: each is appended to the bytes not yet decoded, and frames
are decoded until none is complete. Stops at the first error. -/
def feed (d : FrameDecoder) (src : List UInt8) :
    List (List UInt8) → List Frame × Option Error × FrameDecoder × List UInt8
  | [] => ([], none, d, src)
  | c :: cs =>
    match d.drain (src ++ c) with
    | (frames, some e, d, src) => (frames, some e, d, src)
    | (frames, none, d, src) =>
      let (more, e, d, src) := d.feed src cs
      (frames ++ more, e, d, src)

/-- Feeding the rest of a run of frames in any chunks hands out every frame still to come and
ends idle with nothing held. -/
theorem feed_frames {max : Nat} {todo : List ClientFrame} (hs : ∀ f ∈ todo, f.Sendable max)
    {d : FrameDecoder} {src : List UInt8} {n : Nat} (hp : Pending max d src todo n)
    (chunks : List (List UInt8)) (hc : chunks.flatten = (ClientFrame.wire todo).drop n) :
    ∃ d', d.feed src chunks = (todo.map ClientFrame.decoded, none, d', []) ∧ d'.Idle max := by
  induction chunks generalizing d src n todo with
  | nil =>
    cases todo with
    | nil =>
      obtain ⟨hd, rfl, rfl⟩ := hp
      exact ⟨d, rfl, hd⟩
    | cons f rest =>
      have hn := Partway.lt_length hp
      have : ((ClientFrame.wire (f :: rest)).drop n).length = 0 := by rw [← hc]; simp
      simp at this
      omega
  | cons c cs ih =>
    have hpre : c <+: (ClientFrame.wire todo).drop n := by
      rw [← hc, List.flatten_cons]
      exact List.prefix_append _ _
    obtain ⟨k, m, d₁, src₁, hloop, hp₁, heq⟩ :=
      drainLoop_frames hs hp hpre ((src ++ c).length + 2) (by simp; omega)
    have hrest : cs.flatten = (ClientFrame.wire (todo.drop k)).drop m := by
      have h := congrArg (List.drop c.length) hc
      rw [List.flatten_cons, List.drop_left, List.drop_drop, ClientFrame.wire_take_drop todo k,
        heq, List.drop_length_add_append] at h
      exact h
    obtain ⟨d', hfeed, hd'⟩ := ih (fun g hg => hs g (List.mem_of_mem_drop hg)) hp₁ hrest
    refine ⟨d', ?_, hd'⟩
    simp only [feed, drain, hloop, hfeed]
    rw [← List.map_append, List.take_append_drop]

end FrameDecoder

/-- Frames written by a client arrive intact however the bytes are cut: feeding the bytes of any
run of sendable frames to a fresh decoder, in any chunks, hands out exactly those frames with
their headers and unmasked payloads, and leaves the decoder waiting for a header with no bytes
held. -/
theorem decoder_feed_chunks (max : Nat) (frames : List ClientFrame) (chunks : List (List UInt8))
    (hs : ∀ f ∈ frames, f.Sendable max) (hc : chunks.flatten = ClientFrame.wire frames) :
    ∃ d, (FrameDecoder.new max).feed [] chunks = (frames.map ClientFrame.decoded, none, d, []) ∧
      d.state = .awaitingHeader := by
  have hidle : (FrameDecoder.new max).Idle max := ⟨rfl, rfl, rfl, rfl⟩
  obtain ⟨d, hfeed, hd⟩ :=
    FrameDecoder.feed_frames hs (FrameDecoder.pending_start hidle frames) chunks (by simp [hc])
  exact ⟨d, hfeed, hd.state⟩


namespace ClientFrame

/-- A text fragment and a ping, cut inside the first header, inside the key and after it. -/
theorem decoder_feed_three_chunks :
    let frames : List ClientFrame := [⟨.text, false, 0x11223344, [104, 105]⟩, ⟨.ping, true, 0, []⟩]
    let chunks : List (List UInt8) :=
      [[0x01], [0x82, 0x11, 0x22], [0x33, 0x44, 0x79, 0x4B, 0x89, 0x80, 0, 0, 0, 0]]
    (∀ f ∈ frames, f.Sendable 125) ∧ chunks.flatten = wire frames ∧
      ∃ d, (FrameDecoder.new 125).feed [] chunks = (frames.map decoded, none, d, []) ∧
        d.state = .awaitingHeader := by
  intro frames chunks
  have hs : ∀ f ∈ frames, f.Sendable 125 := by
    intro f hf
    simp only [frames, List.mem_cons, List.not_mem_nil, or_false] at hf
    rcases hf with rfl | rfl <;> exact ⟨rfl, by decide, by decide, by decide⟩
  have hc : chunks.flatten = wire frames := by
    simp [chunks, frames, wire, bytes_eq, header, FrameHeader.encode, Mask.apply, Mask.keyByte,
      MsgPack.toBigEndian]
    decide
  exact ⟨hs, hc, decoder_feed_chunks 125 frames chunks hs hc⟩

end ClientFrame

end HubLink

import HubLink.Frame.Reader
import HubLink.Proofs.DecoderStates
import HubLink.Proofs.FrameReading
/-!
# Reading frames however the stream arrives

A frame reader asks its source for bytes whenever the decoder completes no frame, and the source
may hand over any number of them at a time. Here the source is any rule `cut` that, asked at a
position of the stream, delivers the bytes up to `cut p` (at least one); the reader of a
configuration is the source that delivers `readChunkSize` bytes at a time
(`readFrame_eq_readFrameBy`).

Whatever the source, repeated reads answer what decoding the whole stream at once gives: the
frames the decoder hands out, then the clean end when the stream ends between frames, the
decoder's error at the first header it refuses, or a truncation when the stream ends inside a
header or a payload, with fewer bytes received than expected (`readFrame_any_delivery`).

This rests on one property of a decoder in a phase (`FrameDecoder.Between`): more bytes after
an input do not change a decode that completed a frame or failed, and a decode that completed
nothing can be continued from what it left (`step_none_append`).
-/
namespace HubLink

namespace FrameDecoder

variable {max : Nat} {d : FrameDecoder} {held : List UInt8}

/-- Payload bytes unmasked in two pieces, the key of the second picking up where the first
left it. -/
theorem append_apply_append (p : Array UInt8) (mask : UInt32) (i : Nat) (s u : List UInt8) :
    p ++ (Mask.apply mask i (s ++ u)).toArray =
      p ++ (Mask.apply mask i s).toArray ++ (Mask.apply mask ((i + s.length) % 4) u).toArray := by
  rw [Mask.apply_append, Mask.apply_mod]
  simp [Array.append_assoc]

theorem collect_frame_append {h : FrameHeader} (hs : d.state = .accumulatingPayload)
    (hh : d.header = some h) {s : List UInt8} {f : Frame} {d' : FrameDecoder} {r : List UInt8}
    (hc : d.collect s = (some f, d', r)) (t : List UInt8) :
    d.collect (s ++ t) = (some f, d', r ++ t) := by
  rcases collect_cases hs hh s with ⟨-, hcs⟩ | ⟨-, -, hcs⟩ | ⟨hpos, hle, hcs⟩ <;>
    rw [hcs] at hc <;> cases hc
  rw [collect_of_le hs hh hpos (by simp; omega), List.take_append_of_le_length hle,
    List.drop_append_of_le_length hle]

/-- Collecting what a payload still needs, in two pieces: the decoder after the first piece
collects the second. -/
theorem collect_none_append {h : FrameHeader} (hs : d.state = .accumulatingPayload)
    (hh : d.header = some h) (hlt : d.payload.size < h.payloadLength) {s : List UInt8}
    {d' : FrameDecoder} {r : List UInt8} (hc : d.collect s = (none, d', r)) (t : List UInt8) :
    d.collect (s ++ t) = d'.collect (r ++ t) := by
  rcases collect_cases hs hh s with ⟨hnil, hcs⟩ | ⟨hne, hshort, hcs⟩ | ⟨-, -, hcs⟩ <;>
    rw [hcs] at hc
  · cases hc
    obtain rfl : s = [] := (List.take_eq_nil_iff.mp hnil).resolve_left (by omega)
    rfl
  · simp only [Prod.mk.injEq, true_and] at hc
    obtain ⟨hd', rfl⟩ := hc
    have hs' : d'.state = .accumulatingPayload := by rw [← hd']
    have hh' : d'.header = some h := by rw [← hd']
    have hneed : h.payloadLength - (d.payload.size + (Mask.apply h.mask d.maskIndex s).length) =
        h.payloadLength - d.payload.size - s.length := by
      rw [Mask.apply_length]
      omega
    rw [List.nil_append]
    rcases collect_cases hs' hh' t with ⟨hnil', hct⟩ | ⟨hne', hshort', hct⟩ | ⟨hpos', hle', hct⟩ <;>
      subst hd'
    · simp only [Array.size_append, List.size_toArray, hneed] at hnil'
      obtain rfl : t = [] := (List.take_eq_nil_iff.mp hnil').resolve_left (by omega)
      rw [List.append_nil, hcs, hct]
    · simp only [Array.size_append, List.size_toArray, hneed] at hshort'
      rw [collect_of_lt hs hh (by simp [hne]) (by simp; omega), hct, append_apply_append]
      simp only [List.length_append, Nat.mod_add_mod, Nat.add_assoc]
    · simp only [Array.size_append, List.size_toArray, hneed] at hpos' hle' hct
      generalize hk : h.payloadLength - d.payload.size - s.length = k at hpos' hle' hct
      rw [collect_of_le hs hh (by omega) (by simp; omega), hct,
        show h.payloadLength - d.payload.size = s.length + k by omega,
        List.take_length_add_append, List.drop_length_add_append, append_apply_append]
      simp only [Nat.mod_add_mod, Nat.add_assoc]
  · cases hc

theorem collect_none_rest {h : FrameHeader} (hs : d.state = .accumulatingPayload)
    (hh : d.header = some h) (hlt : d.payload.size < h.payloadLength) {s : List UInt8}
    {d' : FrameDecoder} {r : List UInt8} (hc : d.collect s = (none, d', r)) :
    r = [] ∧ d'.state = .accumulatingPayload ∧ d'.header = some h ∧
      d'.payload.size < h.payloadLength := by
  rcases collect_cases hs hh s with ⟨hnil, hcs⟩ | ⟨-, hshort, hcs⟩ | ⟨-, -, hcs⟩ <;>
    rw [hcs] at hc <;> cases hc
  · exact ⟨(List.take_eq_nil_iff.mp hnil).resolve_left (by omega), hs, hh, hlt⟩
  · refine ⟨rfl, rfl, rfl, ?_⟩
    simp only [Array.size_append, List.size_toArray, Mask.apply_length]
    omega

theorem collect_frame_shorter {h : FrameHeader} (hs : d.state = .accumulatingPayload)
    (hh : d.header = some h) {s : List UInt8} {f : Frame} {d' : FrameDecoder} {r : List UInt8}
    (hc : d.collect s = (some f, d', r)) : r.length < s.length := by
  rcases collect_cases hs hh s with ⟨-, hcs⟩ | ⟨-, -, hcs⟩ | ⟨hpos, hle, hcs⟩ <;>
    rw [hcs] at hc <;> cases hc
  rw [List.length_drop]
  omega

theorem begin_collecting {h : FrameHeader} (hpos : h.payloadLength ≠ 0) :
    (d.begin h).payload.size < h.payloadLength := by
  simp only [begin_payload, List.size_toArray, List.length_nil]
  omega

/-- A decode's result, repacked from what `collect` returned. -/
theorem collected_eq {c : Option Frame × FrameDecoder × List UInt8} {x : Option Frame}
    {r : List UInt8} {d' : FrameDecoder}
    (h : ((.ok (c.1, c.2.2), c.2.1) : Answer × FrameDecoder) = (.ok (x, r), d')) :
    c = (x, d', r) := by
  obtain ⟨x₀, d₀, r₀⟩ := c
  simp only [Prod.mk.injEq, Except.ok.injEq] at h
  obtain ⟨⟨rfl, rfl⟩, rfl⟩ := h
  rfl

/-- What one decode does for a decoder in a phase, on its input and on that input with more
bytes after it: it refuses a header, leaving the decoder as it was; it waits for the rest of a
header, taking nothing; it collects a payload, from a decoder collecting it and a suffix of the
input; or it hands out a frame without payload after a header of at least two bytes. -/
theorem step_cases (hb : Between max d held) (s : List UInt8) :
    (∃ e, d.step s = (.error e, d) ∧ ∀ t, d.step (s ++ t) = (.error e, d)) ∨
    (d.state = .awaitingHeader ∧ FrameHeader.parse s = .ok none ∧
      d.step s = (.ok (none, s), d)) ∨
    (∃ (c : FrameDecoder) (h : FrameHeader) (x : List UInt8), c.state = .accumulatingPayload ∧
      c.header = some h ∧ c.payload.size < h.payloadLength ∧ x <:+ s ∧
      d.step s = (.ok ((c.collect x).1, (c.collect x).2.2), (c.collect x).2.1) ∧
      ∀ t, d.step (s ++ t) =
        (.ok ((c.collect (x ++ t)).1, (c.collect (x ++ t)).2.2), (c.collect (x ++ t)).2.1)) ∨
    (∃ (h : FrameHeader) (n : Nat), 0 < n ∧ n ≤ s.length ∧
      d.step s = (.ok (some ⟨h, []⟩, s.drop n), ⟨.awaitingHeader, none, #[], 0, d.maxPayloadSize⟩) ∧
      ∀ t, d.step (s ++ t) =
        (.ok (some ⟨h, []⟩, s.drop n ++ t),
          ⟨.awaitingHeader, none, #[], 0, d.maxPayloadSize⟩)) := by
  cases hb with
  | @collecting h hb raw state header accepts parsed short index unmasked =>
    have hsize : d.payload.size < h.payloadLength := by
      rw [← Array.length_toList, unmasked, Mask.apply_length]
      exact short
    exact .inr (.inr (.inl ⟨d, h, s, state, header, hsize, List.suffix_refl s,
      step_of_header state header s, fun t => step_of_header state header (s ++ t)⟩))
  | idle hd =>
    rcases hp : FrameHeader.parse s with e | _ | ⟨h, n⟩
    · have happ : ∀ t, FrameHeader.parse (s ++ t) = .error e := fun t => by
        rw [FrameHeader.parse_append (by simp [hp]), hp]
      exact .inl ⟨e, step_parse_error hd.state hp, fun t => step_parse_error hd.state (happ t)⟩
    · exact .inr (.inl ⟨hd.state, rfl, step_parse_none hd.state hp⟩)
    have happ : ∀ t, FrameHeader.parse (s ++ t) = .ok (some (h, n)) := fun t => by
      rw [FrameHeader.parse_append (by simp [hp]), hp]
    obtain ⟨hhint, hn⟩ := FrameHeader.parse_some hp
    rcases hv : d.validate h with e | _
    · exact .inl ⟨e, step_refused hd.state hp hv, fun t => step_refused hd.state (happ t) hv⟩
    by_cases hzero : h.payloadLength = 0
    · have h2 := FrameHeader.two_le_headerLenHint s
      refine .inr (.inr (.inr ⟨h, n, by omega, hn, ?_, fun t => ?_⟩))
      · rw [step_header hd.state hp hv, begin_collect_empty d hzero]
      · rw [step_header hd.state (happ t) hv, List.drop_append_of_le_length hn,
          begin_collect_empty d hzero]
    · refine .inr (.inr (.inl ⟨d.begin h, h, s.drop n, begin_state hzero, begin_header d h,
        begin_collecting hzero, List.drop_suffix n s, step_header hd.state hp hv, fun t => ?_⟩))
      rw [step_header hd.state (happ t) hv, List.drop_append_of_le_length hn]

/-- A decode that failed fails the same way with more bytes: only a header is refused, and a
refused header was read whole. -/
theorem step_error_append (hb : Between max d held) {s : List UInt8} {e : Error}
    {d' : FrameDecoder} (h : d.step s = (.error e, d')) (t : List UInt8) :
    d.step (s ++ t) = (.error e, d') := by
  rcases step_cases hb s with ⟨e', he, hall⟩ | ⟨-, -, hw⟩ | ⟨c, hdr, x, -, -, -, -, hc0, -⟩ |
      ⟨hdr, n, -, -, hz0, -⟩
  · rw [hall t, ← he, h]
  · rw [hw] at h
    cases h
  · rw [hc0] at h
    cases h
  · rw [hz0] at h
    cases h

/-- A decode that completed a frame completes it the same way with more bytes, and leaves them
after what it left. -/
theorem step_frame_append (hb : Between max d held) {s : List UInt8} {f : Frame}
    {d' : FrameDecoder} {r : List UInt8} (h : d.step s = (.ok (some f, r), d')) (t : List UInt8) :
    d.step (s ++ t) = (.ok (some f, r ++ t), d') := by
  rcases step_cases hb s with ⟨e', he, -⟩ | ⟨-, -, hw⟩ | ⟨c, hdr, x, hs, hh, -, -, hc0, hc⟩ |
      ⟨hdr, n, -, -, hz0, hz⟩
  · rw [he] at h
    cases h
  · rw [hw] at h
    cases h
  · rw [hc0] at h
    rw [hc t, collect_frame_append hs hh (collected_eq h) t]
  · rw [hz0] at h
    simp only [Prod.mk.injEq, Except.ok.injEq, Option.some.injEq] at h
    obtain ⟨⟨rfl, rfl⟩, rfl⟩ := h
    exact hz t

/-- A decode that completed nothing is continued, with more bytes, by the decoder it left from
the bytes it left. -/
theorem step_none_append (hb : Between max d held) {s : List UInt8} {d' : FrameDecoder}
    {r : List UInt8} (h : d.step s = (.ok (none, r), d')) (t : List UInt8) :
    d.step (s ++ t) = d'.step (r ++ t) := by
  rcases step_cases hb s with ⟨e', he, -⟩ | ⟨-, -, hw⟩ | ⟨c, hdr, x, hs, hh, hlt, -, hc0, hc⟩ |
      ⟨hdr, n, -, -, hz0, -⟩
  · rw [he] at h
    cases h
  · rw [hw] at h
    simp only [Prod.mk.injEq, Except.ok.injEq] at h
    obtain ⟨⟨-, rfl⟩, rfl⟩ := h
    rfl
  · rw [hc0] at h
    have hcol := collected_eq h
    obtain ⟨-, hs', hh', -⟩ := collect_none_rest hs hh hlt hcol
    rw [hc t, collect_none_append hs hh hlt hcol t, step_of_header hs' hh']
  · rw [hz0] at h
    simp at h

theorem step_frame_shorter (hb : Between max d held) {s : List UInt8} {f : Frame}
    {d' : FrameDecoder} {r : List UInt8} (h : d.step s = (.ok (some f, r), d')) :
    r.length < s.length := by
  rcases step_cases hb s with ⟨e', he, -⟩ | ⟨-, -, hw⟩ | ⟨c, hdr, x, hs, hh, -, hx, hc0, -⟩ |
      ⟨hdr, n, hpos, hn, hz0, -⟩
  · rw [he] at h
    cases h
  · rw [hw] at h
    cases h
  · rw [hc0] at h
    exact Nat.lt_of_lt_of_le (collect_frame_shorter hs hh (collected_eq h)) hx.length_le
  · rw [hz0] at h
    simp only [Prod.mk.injEq, Except.ok.injEq] at h
    obtain ⟨⟨-, rfl⟩, -⟩ := h
    simp only [List.length_drop]
    omega

/-- A decode that completed nothing took everything, or was waiting for a header's bytes and
took none. -/
theorem step_none_rest (hb : Between max d held) {s : List UInt8} {d' : FrameDecoder}
    {r : List UInt8} (h : d.step s = (.ok (none, r), d')) :
    r = [] ∨ (r = s ∧ d' = d ∧ d.state = .awaitingHeader ∧ FrameHeader.parse s = .ok none) := by
  rcases step_cases hb s with ⟨e', he, -⟩ | ⟨hst, hp, hw⟩ | ⟨c, hdr, x, hs, hh, hlt, -, hc0, -⟩ |
      ⟨hdr, n, -, -, hz0, -⟩
  · rw [he] at h
    cases h
  · rw [hw] at h
    simp only [Prod.mk.injEq, Except.ok.injEq] at h
    obtain ⟨⟨-, rfl⟩, rfl⟩ := h
    exact .inr ⟨rfl, rfl, hst, hp⟩
  · rw [hc0] at h
    exact .inl (collect_none_rest hs hh hlt (collected_eq h)).1
  · rw [hz0] at h
    simp at h

theorem step_rest_suffix (hb : Between max d held) {s : List UInt8} {x : Option Frame}
    {d' : FrameDecoder} {r : List UInt8} (h : d.step s = (.ok (x, r), d')) : r <:+ s := by
  rcases step_cases hb s with ⟨e', he, -⟩ | ⟨-, -, hw⟩ | ⟨c, hdr, y, -, -, -, hy, hc0, -⟩ |
      ⟨hdr, n, -, -, hz0, -⟩
  · rw [he] at h
    cases h
  · rw [hw] at h
    simp only [Prod.mk.injEq, Except.ok.injEq] at h
    obtain ⟨⟨-, rfl⟩, -⟩ := h
    exact List.suffix_refl s
  · rw [hc0] at h
    have hcol := collected_eq h
    have hsuf := collect_suffix c y
    rw [hcol] at hsuf
    exact hsuf.trans hy
  · rw [hz0] at h
    simp only [Prod.mk.injEq, Except.ok.injEq] at h
    obtain ⟨⟨-, rfl⟩, -⟩ := h
    exact List.drop_suffix n s

/-- The bytes taken for a frame still in progress, then what the decode left, are what it was
given after those held before. -/
theorem heldAfter_none_append {s r : List UInt8} (hr : r <:+ s) (held : List UInt8) :
    heldAfter held s (.ok (none, r)) ++ r = held ++ s := by
  obtain ⟨t, rfl⟩ := hr
  simp [heldAfter, List.take_left']

/-- How reading a stream `s` ends after its last whole frame, given where decoding all of it
stopped (the error, the decoder and the bytes left): with the decoder's error; cleanly between
frames; or short, inside a header (expected as many bytes as its first two announce, received
those left) or inside a payload (expected its length, received the payload bytes that came). -/
inductive Finish (s : List UInt8) :
    Option Error → FrameDecoder → List UInt8 → List (Option Frame) → Option Error → Prop
  | refused {e : Error} {d : FrameDecoder} {rest : List UInt8} :
      Finish s (some e) d rest [] (some e)
  | clean {d : FrameDecoder} (header : d.header = none) : Finish s none d [] [none] none
  | inHeader {d : FrameDecoder} {rest : List UInt8} (header : d.header = none)
      (nonempty : rest ≠ []) (suffix : rest <:+ s) (parsed : FrameHeader.parse rest = .ok none)
      (short : rest.length < headerLenHint rest) :
      Finish s none d rest [] (some (.truncatedFrame (headerLenHint rest) rest.length))
  | inPayload {d : FrameDecoder} {h : FrameHeader} {hb raw : List UInt8}
      (header : d.header = some h) (suffix : hb ++ raw <:+ s)
      (parsed : FrameHeader.parse hb = .ok (some (h, hb.length)))
      (short : raw.length < h.payloadLength) (received : d.payload.size = raw.length) :
      Finish s none d [] [] (some (.truncatedFrame h.payloadLength raw.length))

/-- A decoder in a phase that completed nothing and is not idle at the end of its bytes reports a
truncation, and it is a shortfall inside the header or the payload it holds. -/
theorem finish_short {s r : List UInt8} (hb : Between max d held) (hs : held ++ r <:+ s)
    (hr : r = [] ∨ (d.state = .awaitingHeader ∧ FrameHeader.parse r = .ok none))
    (hc : (r.isEmpty && d.header.isNone) = false) :
    Finish s none d r [] (some (.truncatedFrame (d.truncation r).1 (d.truncation r).2)) := by
  cases hb with
  | idle hd =>
    have hne : r ≠ [] := by
      rintro rfl
      simp [hd.header] at hc
    have hp : FrameHeader.parse r = .ok none := by
      rcases hr with h | ⟨-, h⟩
      · exact absurd h hne
      · exact h
    simp only [truncation, hd.header]
    exact .inHeader hd.header hne (by simpa using hs) hp (FrameHeader.parse_none hp)
  | @collecting h hb raw state header accepts parsed short index unmasked =>
    have hnil : r = [] := by
      rcases hr with h | ⟨h, -⟩
      · exact h
      · rw [state] at h
        cases h
    subst hnil
    have hsize : d.payload.size = raw.length := by
      rw [← Array.length_toList, unmasked, Mask.apply_length]
    simp only [truncation, header, state, hsize]
    exact .inPayload header (by simpa using hs) parsed short hsize

theorem Finish.unique {s : List UInt8} {err : Option Error} {rest : List UInt8}
    {t₁ t₂ : List (Option Frame)} {f₁ f₂ : Option Error} (h₁ : Finish s err d rest t₁ f₁)
    (h₂ : Finish s err d rest t₂ f₂) : t₁ = t₂ ∧ f₁ = f₂ := by
  cases h₁ with
  | refused => cases h₂; exact ⟨rfl, rfl⟩
  | clean header =>
    cases h₂ with
    | clean => exact ⟨rfl, rfl⟩
    | inHeader _ nonempty => exact absurd rfl nonempty
    | inPayload header' => simp [header] at header'
  | inHeader header nonempty =>
    cases h₂ with
    | clean => exact absurd rfl nonempty
    | inHeader => exact ⟨rfl, rfl⟩
    | inPayload header' => simp [header] at header'
  | inPayload header _ _ _ received =>
    cases h₂ with
    | clean header' => simp [header] at header'
    | inHeader header' => simp [header] at header'
    | inPayload header' _ _ _ received' =>
      rw [header, Option.some.injEq] at header'
      subst header'
      exact ⟨rfl, by rw [← received, ← received']⟩

end FrameDecoder

namespace FrameReader

open FrameDecoder

/-- Reads as `readFrameLoop` does, with the stream handed over in reads that end where `cut`
says: a read at `position` delivers the bytes up to `cut position`, and at least one. -/
def readFrameVia (cut : Nat → Nat) (stream : Array UInt8) (decoder : FrameDecoder)
    (buffer : List UInt8) (position : Nat) :
    Except Error (Option Frame) × FrameDecoder × List UInt8 × Nat :=
  match decoder.step buffer with
  | (.error e, decoder) => (.error e, decoder, buffer, position)
  | (.ok (some f, buffer), decoder) => (.ok (some f), decoder, buffer, position)
  | (.ok (none, buffer), decoder) =>
    if _h : position < stream.size then
      let next := max (cut position) (position + 1)
      readFrameVia cut stream decoder (buffer ++ (stream.extract position next).toList) next
    else if buffer.isEmpty && decoder.header.isNone then (.ok none, decoder, buffer, position)
    else
      let (expected, received) := decoder.truncation buffer
      (.error (.truncatedFrame expected received), decoder, buffer, position)
termination_by stream.size - position
decreasing_by omega

/-- Reads the next frame with the stream handed over as `cut` says. -/
def readFrameBy (cut : Nat → Nat) (r : FrameReader) : Except Error (Option Frame) × FrameReader :=
  let (result, decoder, buffer, position) :=
    readFrameVia cut r.stream r.decoder r.buffer r.position
  (result, { r with decoder, buffer, position })

/-- The bytes a reader has not decoded: those buffered, then the stream's unread ones. -/
def undecoded (r : FrameReader) : List UInt8 := r.buffer ++ r.stream.toList.drop r.position

/-- The reader's own loop is the source that delivers `chunk` bytes at a time. -/
theorem readFrameLoop_eq_via (chunk : Nat) (stream : Array UInt8) :
    ∀ (p : Nat) (d : FrameDecoder) (b : List UInt8),
      readFrameLoop chunk stream d b p = readFrameVia (· + chunk) stream d b p := by
  intro p
  induction hm : stream.size - p using Nat.strong_induction_on generalizing p with
  | _ m ih =>
  intro d b
  rw [readFrameLoop, readFrameVia]
  rcases d.step b with ⟨_ | ⟨_ | f, r⟩, d'⟩
  · rfl
  · by_cases hpos : p < stream.size
    · have hnext : max (p + chunk) (p + 1) = p + max chunk 1 := Nat.add_max_add_left p chunk 1
      simp only [dif_pos hpos, hnext]
      exact ih _ (by omega) _ rfl d' _
    · simp only [dif_neg hpos]
  · rfl

theorem readFrame_eq_readFrameBy (r : FrameReader) :
    r.readFrame = readFrameBy (· + r.config.readChunkSize) r := by
  rw [readFrame, readFrameBy, readFrameLoop_eq_via]

section Delivery

variable {limit : Nat} (cut : Nat → Nat) (stream : Array UInt8)

/-- The reads of one frame come to an iteration that does not read on: its decode failed or
completed a frame, or the stream is over. Decoding all that is ahead at that iteration decodes
all that was ahead at the start. -/
theorem readFrameVia_last :
    ∀ (p : Nat) (d : FrameDecoder) (held b : List UInt8), Between limit d held →
      ∃ d₀ held₀ b₀ p₀, Between limit d₀ held₀ ∧
        d.step (b ++ stream.toList.drop p) = d₀.step (b₀ ++ stream.toList.drop p₀) ∧
        readFrameVia cut stream d b p = readFrameVia cut stream d₀ b₀ p₀ ∧
        ∀ r d', d₀.step b₀ = (.ok (none, r), d') → stream.size ≤ p₀ := by
  intro p
  induction hm : stream.size - p using Nat.strong_induction_on generalizing p with
  | _ m ih =>
  intro d held b hb
  rcases hstep : d.step b with ⟨_ | ⟨_ | f, r⟩, d'⟩
  · exact ⟨d, held, b, p, hb, rfl, rfl, by simp [hstep]⟩
  · by_cases hpos : p < stream.size
    · have hle : p ≤ Max.max (cut p) (p + 1) := by
        have := Nat.le_max_right (cut p) (p + 1)
        omega
      have hb' : Between limit d' (heldAfter held b (.ok (none, r))) := by
        have := (step_between hb b).1
        rwa [hstep] at this
      obtain ⟨d₀, held₀, b₀, p₀, hb₀, hs₀, hr₀, hend⟩ :=
        ih _ (by have := Nat.le_max_right (cut p) (p + 1); omega) (Max.max (cut p) (p + 1)) rfl d'
          _ (r ++ (stream.extract p (Max.max (cut p) (p + 1))).toList) hb'
      refine ⟨d₀, held₀, b₀, p₀, hb₀, ?_, ?_, hend⟩
      · rw [step_none_append hb hstep, ← extract_append_drop stream hle, ← List.append_assoc, hs₀]
      · rw [← hr₀, readFrameVia, hstep]
        simp only [dif_pos hpos]
    · exact ⟨d, held, b, p, hb, rfl, rfl, fun _ _ _ => by omega⟩
  · exact ⟨d, held, b, p, hb, rfl, rfl, by simp [hstep]⟩

variable {r : FrameReader} {d' : FrameDecoder}

theorem readFrameBy_error (hb : Between limit r.decoder held) {e : Error}
    (h : r.decoder.step r.undecoded = (.error e, d')) : (readFrameBy cut r).1 = .error e := by
  obtain ⟨d₀, held₀, b₀, p₀, hb₀, hs, hr, hend⟩ :=
    readFrameVia_last cut r.stream r.position r.decoder held r.buffer hb
  rw [undecoded, hs] at h
  rw [readFrameBy]
  simp only
  rw [hr, readFrameVia]
  rcases h₀ : d₀.step b₀ with ⟨_ | ⟨_ | f, r'⟩, d''⟩
  · rw [step_error_append hb₀ h₀] at h
    simp only [Prod.mk.injEq, Except.error.injEq] at h
    rw [h.1]
  · rw [List.drop_eq_nil_of_le (by simpa using hend _ _ h₀), List.append_nil, h₀] at h
    cases h
  · rw [step_frame_append hb₀ h₀] at h
    cases h

/-- A read hands out the frame decoding all that is ahead completes, and leaves ahead what that
decode left. -/
theorem readFrameBy_frame (hb : Between limit r.decoder held) {f : Frame} {rest : List UInt8}
    (h : r.decoder.step r.undecoded = (.ok (some f, rest), d')) :
    (readFrameBy cut r).1 = .ok (some f) ∧ (readFrameBy cut r).2.decoder = d' ∧
      (readFrameBy cut r).2.undecoded = rest := by
  obtain ⟨d₀, held₀, b₀, p₀, hb₀, hs, hr, hend⟩ :=
    readFrameVia_last cut r.stream r.position r.decoder held r.buffer hb
  rw [undecoded, hs] at h
  rw [readFrameBy]
  simp only
  rw [hr, readFrameVia]
  rcases h₀ : d₀.step b₀ with ⟨_ | ⟨_ | f', r'⟩, d''⟩
  · rw [step_error_append hb₀ h₀] at h
    cases h
  · rw [List.drop_eq_nil_of_le (by simpa using hend _ _ h₀), List.append_nil, h₀] at h
    cases h
  · rw [step_frame_append hb₀ h₀] at h
    simp only [Prod.mk.injEq, Except.ok.injEq, Option.some.injEq] at h
    obtain ⟨⟨rfl, rfl⟩, rfl⟩ := h
    exact ⟨rfl, rfl, rfl⟩

/-- A read of a stream that decoding all that is ahead leaves short answers the clean end, or
the truncation of the frame in progress. -/
theorem readFrameBy_none (hb : Between limit r.decoder held) {rest : List UInt8}
    (h : r.decoder.step r.undecoded = (.ok (none, rest), d')) :
    (readFrameBy cut r).1 = if rest.isEmpty && d'.header.isNone then .ok none
      else .error (.truncatedFrame (d'.truncation rest).1 (d'.truncation rest).2) := by
  obtain ⟨d₀, held₀, b₀, p₀, hb₀, hs, hr, hend⟩ :=
    readFrameVia_last cut r.stream r.position r.decoder held r.buffer hb
  rw [undecoded, hs] at h
  rw [readFrameBy]
  simp only
  rw [hr, readFrameVia]
  rcases h₀ : d₀.step b₀ with ⟨_ | ⟨_ | f', r'⟩, d''⟩
  · rw [step_error_append hb₀ h₀] at h
    cases h
  · have hge := hend _ _ h₀
    rw [List.drop_eq_nil_of_le (by simpa using hge), List.append_nil, h₀] at h
    simp only [Prod.mk.injEq, Except.ok.injEq] at h
    obtain ⟨⟨-, rfl⟩, rfl⟩ := h
    simp only [dif_neg (Nat.not_lt.mpr hge)]
    split <;> rfl
  · rw [step_frame_append hb₀ h₀] at h
    cases h

/-- A read at which decoding all that is ahead completes nothing is the last one: it answers the
clean end or the truncation of the frame in progress, as `Finish` says. -/
theorem repeatRead_none {s rest : List UInt8} (hb : Between limit r.decoder held)
    (hs : held ++ r.undecoded <:+ s) (hstep : r.decoder.step r.undecoded = (.ok (none, rest), d'))
    (count : Nat) :
    ∃ tail failure, Finish s none d' rest tail failure ∧
      (r.repeatRead (readFrameBy cut) (count + 1)).1 = tail ∧
      (r.repeatRead (readFrameBy cut) (count + 1)).2.1 = failure := by
  have hn := readFrameBy_none cut hb hstep
  rcases hr : readFrameBy cut r with ⟨res, r'⟩
  rw [hr] at hn
  subst hn
  have hb' : Between limit d' (heldAfter held r.undecoded (.ok (none, rest))) := by
    simpa [hstep] using (step_between hb r.undecoded).1
  have hsuf : heldAfter held r.undecoded (.ok (none, rest)) ++ rest <:+ s := by
    rw [heldAfter_none_append (step_rest_suffix hb hstep)]
    exact hs
  have hrest : rest = [] ∨ (d'.state = .awaitingHeader ∧ FrameHeader.parse rest = .ok none) := by
    rcases step_none_rest hb hstep with h | ⟨rfl, rfl, hst, hp⟩
    · exact .inl h
    · exact .inr ⟨hst, hp⟩
  by_cases hend : (rest.isEmpty && d'.header.isNone) = true
  · have hclean : rest = [] ∧ d'.header = none := by simpa using hend
    obtain ⟨rfl, hh⟩ := hclean
    exact ⟨[none], none, .clean hh, by simp [repeatRead, hr, hh], by simp [repeatRead, hr, hh]⟩
  · rw [if_neg hend] at hr
    exact ⟨[], some (.truncatedFrame (d'.truncation rest).1 (d'.truncation rest).2),
      finish_short hb' hsuf hrest (by simpa only [Bool.not_eq_true] using hend),
      by simp [repeatRead, hr], by simp [repeatRead, hr]⟩

/-- Reading frame after frame answers the frames decoding all that is ahead at once hands out,
then ends as `Finish` says. The induction is on the reads, one frame each; `held`, the bytes the
decoder took for the frame in progress, and what is ahead make up the end of the stream `s`. -/
theorem repeatRead_readFrameBy {s : List UInt8} :
    ∀ (count fuel : Nat) (r : FrameReader) (held : List UInt8), Between limit r.decoder held →
      held ++ r.undecoded <:+ s → r.undecoded.length < count → r.undecoded.length < fuel →
      ∃ tail failure,
        Finish s (r.decoder.drainLoop r.undecoded fuel).2.1
          (r.decoder.drainLoop r.undecoded fuel).2.2.1 (r.decoder.drainLoop r.undecoded fuel).2.2.2
          tail failure ∧
        (r.repeatRead (readFrameBy cut) count).1 =
          (r.decoder.drainLoop r.undecoded fuel).1.map some ++ tail ∧
        (r.repeatRead (readFrameBy cut) count).2.1 = failure := by
  intro count
  induction count with
  | zero => intro _ _ _ _ _ hc; omega
  | succ count ih =>
  intro fuel r held hb hs hc hf
  obtain ⟨fuel, rfl⟩ : ∃ k, fuel = k + 1 := ⟨fuel - 1, by omega⟩
  rcases hr : readFrameBy cut r with ⟨res, r'⟩
  rcases hstep : r.decoder.step r.undecoded with ⟨e | ⟨_ | f, rest⟩, d'⟩
  · have he := readFrameBy_error cut hb hstep
    rw [hr] at he
    subst he
    refine ⟨[], some e, ?_, by simp [repeatRead, hr, drainLoop, hstep], by simp [repeatRead, hr]⟩
    simp only [drainLoop, hstep]
    exact .refused
  · obtain ⟨tail, failure, hfin, h1, h2⟩ := repeatRead_none cut hb hs hstep count
    refine ⟨tail, failure, ?_, by simp [drainLoop, hstep, h1], h2⟩
    simpa [drainLoop, hstep] using hfin
  · obtain ⟨hres, hdec, hund⟩ := readFrameBy_frame cut hb hstep
    rw [hr] at hres hdec hund
    simp only at hres hdec hund
    subst hres
    have hlt := step_frame_shorter hb hstep
    have hb' : Between limit r'.decoder [] := by
      simpa [hstep, heldAfter, hdec] using (step_between hb r.undecoded).1
    have hsuf : [] ++ r'.undecoded <:+ s := by
      rw [List.nil_append, hund]
      exact (step_rest_suffix hb hstep).trans ((List.suffix_append _ _).trans hs)
    obtain ⟨tail, failure, hfin, h1, h2⟩ :=
      ih fuel r' [] hb' hsuf (by rw [hund]; omega) (by rw [hund]; omega)
    rw [hdec, hund] at hfin h1
    rcases hdrain : d'.drainLoop rest fuel with ⟨frames, e, d'', rest'⟩
    rcases hrun : r'.repeatRead (readFrameBy cut) count with ⟨items, e', r''⟩
    rw [hdrain] at hfin h1
    rw [hrun] at h1 h2
    refine ⟨tail, failure, ?_, ?_, ?_⟩
    · simpa [drainLoop, hstep, hdrain] using hfin
    · simp [repeatRead, hr, hrun, drainLoop, hstep, hdrain, h1]
    · simpa [repeatRead, hr, hrun] using h2

end Delivery

theorem readFrameBy_config (cut : Nat → Nat) (r : FrameReader) :
    (readFrameBy cut r).2.config = r.config := rfl

/-- Reading with the reader's own chunks is reading from the source that delivers them. -/
theorem repeatRead_readFrame (r : FrameReader) (count : Nat) :
    r.repeatRead readFrame count =
      r.repeatRead (readFrameBy (· + r.config.readChunkSize)) count := by
  induction count generalizing r with
  | zero => rfl
  | succ count ih =>
    rw [repeatRead, repeatRead, readFrame_eq_readFrameBy]
    rcases hr : readFrameBy (· + r.config.readChunkSize) r with ⟨_ | _ | x, r'⟩
    · rfl
    · rfl
    · have hc : r'.config = r.config := by
        rw [← readFrameBy_config (· + r.config.readChunkSize) r, hr]
      simp only [ih r', hc]

end FrameReader

/-- A stream read frame by frame, whether in the reader's chunks or handed over in any nonempty
reads, answers the frames that decoding it all at once hands out, then ends the same way: with the
decoder's error at the first header it refuses, cleanly when the stream ends between frames, or
with the truncation of the frame the stream ends inside. -/
theorem readFrame_any_delivery (config : ReaderConfig) (s : List UInt8) {count : Nat}
    (hcount : s.length < count) :
    let drained := (FrameDecoder.new config.maxPayloadSize).drain s
    ∃ tail failure, FrameDecoder.Finish s drained.2.1 drained.2.2.1 drained.2.2.2 tail failure ∧
      ((FrameReader.new s config).repeatRead FrameReader.readFrame count).1 =
        drained.1.map some ++ tail ∧
      ((FrameReader.new s config).repeatRead FrameReader.readFrame count).2.1 = failure ∧
      ∀ cut : Nat → Nat,
        ((FrameReader.new s config).repeatRead (FrameReader.readFrameBy cut) count).1 =
          drained.1.map some ++ tail ∧
        ((FrameReader.new s config).repeatRead (FrameReader.readFrameBy cut) count).2.1 = failure := by
  intro drained
  have hnew : (FrameReader.new s config).undecoded = s := by
    simp [FrameReader.new, FrameReader.undecoded]
  have hidle : (FrameDecoder.new config.maxPayloadSize).Idle config.maxPayloadSize :=
    ⟨rfl, rfl, rfl, rfl⟩
  have hany : ∀ cut : Nat → Nat, ∃ tail failure,
      FrameDecoder.Finish s drained.2.1 drained.2.2.1 drained.2.2.2 tail failure ∧
        ((FrameReader.new s config).repeatRead (FrameReader.readFrameBy cut) count).1 =
          drained.1.map some ++ tail ∧
        ((FrameReader.new s config).repeatRead (FrameReader.readFrameBy cut) count).2.1 =
          failure := by
    intro cut
    have h := FrameReader.repeatRead_readFrameBy cut count (s.length + 2)
      (FrameReader.new s config) [] (.idle hidle)
      (show [] ++ (FrameReader.new s config).undecoded <:+ s by simp [hnew])
      (lt_of_eq_of_lt (congrArg List.length hnew) hcount)
      (lt_of_eq_of_lt (congrArg List.length hnew) (by omega))
    rwa [hnew] at h
  obtain ⟨tail, failure, hfin, h1, h2⟩ := hany (· + config.readChunkSize)
  refine ⟨tail, failure, hfin, ?_, ?_, ?_⟩
  · rw [FrameReader.repeatRead_readFrame]
    exact h1
  · rw [FrameReader.repeatRead_readFrame]
    exact h2
  · intro cut
    obtain ⟨tail', failure', hfin', h1', h2'⟩ := hany cut
    obtain ⟨rfl, rfl⟩ := hfin'.unique hfin
    exact ⟨h1', h2'⟩

/-- A masked ping without payload, read however its bytes arrive. -/
theorem ping_any_delivery :
    ([0x89, 0x80, 1, 2, 3, 4] : List UInt8).length < 7 ∧
      let drained := (FrameDecoder.new ({} : ReaderConfig).maxPayloadSize).drain
        [0x89, 0x80, 1, 2, 3, 4]
      ∃ tail failure,
        FrameDecoder.Finish [0x89, 0x80, 1, 2, 3, 4] drained.2.1 drained.2.2.1 drained.2.2.2
          tail failure ∧
        ((FrameReader.new [0x89, 0x80, 1, 2, 3, 4] {}).repeatRead FrameReader.readFrame 7).1 =
          drained.1.map some ++ tail ∧
        ((FrameReader.new [0x89, 0x80, 1, 2, 3, 4] {}).repeatRead FrameReader.readFrame 7).2.1 =
          failure ∧
        ∀ cut : Nat → Nat,
          ((FrameReader.new [0x89, 0x80, 1, 2, 3, 4] {}).repeatRead
            (FrameReader.readFrameBy cut) 7).1 = drained.1.map some ++ tail ∧
          ((FrameReader.new [0x89, 0x80, 1, 2, 3, 4] {}).repeatRead
            (FrameReader.readFrameBy cut) 7).2.1 = failure :=
  ⟨by decide, readFrame_any_delivery {} [0x89, 0x80, 1, 2, 3, 4] (by decide)⟩

end HubLink

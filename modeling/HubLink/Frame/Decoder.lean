import HubLink.Frame.Header
/-!
The frame decoder: a state machine fed with received bytes that hands out unmasked frames one
at a time. It waits for a whole header, checks it (masked, no reserved bits, no reserved
opcode, payload within the limit, control frames final and at most 125 bytes), then collects
and unmasks the payload as it arrives, in any number of pieces. A refused header leaves the
decoder and the received bytes as they were.
-/
namespace HubLink

/-- Where the decoder stands. -/
inductive DecoderState where
  | awaitingHeader
  | accumulatingPayload
  | payloadComplete
  deriving DecidableEq, Repr

/-- The name of a decoder state. -/
def DecoderState.name : DecoderState → String
  | .awaitingHeader => "AwaitingHeader"
  | .accumulatingPayload => "AccumulatingPayload"
  | .payloadComplete => "PayloadComplete"

/-- A decoded frame, its payload unmasked. -/
structure Frame where
  header : FrameHeader
  payload : List UInt8
  deriving DecidableEq, Repr

/-- A frame decoder: its state, the header and payload of the frame being read, the key
position reached, and the payload limit. The payload is an array, since it grows at its end
by as little as a byte at a time. -/
structure FrameDecoder where
  state : DecoderState
  header : Option FrameHeader
  payload : Array UInt8
  maskIndex : Nat
  maxPayloadSize : Nat
  deriving DecidableEq, Repr

/-- The payload limit of a decoder made without one: 16 MiB. -/
def FrameDecoder.defaultMaxPayload : Nat := 16 * 1024 * 1024

namespace FrameDecoder

/-- A decoder waiting for its first header. -/
def new (maxPayloadSize : Nat := defaultMaxPayload) : FrameDecoder :=
  ⟨.awaitingHeader, none, #[], 0, maxPayloadSize⟩

/-- The checks a header must pass, in order. -/
def validate (d : FrameDecoder) (h : FrameHeader) : Except Error Unit :=
  if !h.masked then .error .unmaskedFrame
  else if h.rsv ≠ 0 then .error (.reservedBits h.rsv)
  else if h.opcode.isReserved then .error (.reservedOpCode h.opcode.toNat)
  else if h.payloadLength > d.maxPayloadSize then
    .error (.frameTooLarge h.payloadLength d.maxPayloadSize)
  else if h.opcode.isControl && !h.fin then .error .fragmentedControl
  else if h.opcode.isControl && h.payloadLength > 125 then
    .error (.controlTooLarge h.payloadLength)
  else .ok ()

/-- Hands out the completed frame and waits for the next header. -/
def emit (d : FrameDecoder) (h : FrameHeader) : Option Frame × FrameDecoder :=
  (some ⟨h, d.payload.toList⟩, { d with state := .awaitingHeader, header := none, payload := #[] })

/-- Continues a frame whose header is read: collects and unmasks what payload `src` holds,
handing out the frame once it is complete. -/
def collect (d : FrameDecoder) (src : List UInt8) : Option Frame × FrameDecoder × List UInt8 :=
  match d.header with
  | none => (none, d, src)
  | some h =>
    match d.state with
    | .payloadComplete =>
      let (f, d) := d.emit h
      (f, d, src)
    | .awaitingHeader => (none, d, src)
    | .accumulatingPayload =>
      let remaining := h.payloadLength - d.payload.size
      let arrived := src.take remaining
      let take := arrived.length
      if take = 0 then (none, d, src)
      else
        let (piece, next) := Mask.byBlocks h.mask d.maskIndex arrived
        -- taken apart first, so that the payload is extended in place
        let ⟨state, header, payload, _, maxPayloadSize⟩ := d
        let d : FrameDecoder := ⟨state, header, payload ++ piece.toArray, next, maxPayloadSize⟩
        let src := src.drop take
        if take < remaining then (none, d, src)
        else
          let (f, d) := { d with state := .payloadComplete }.emit h
          (f, d, src)

/-- Reads the header at the front of `src` and checks it: the header and its length, or `none`
while the bytes are too few. -/
def readHeader (d : FrameDecoder) (src : List UInt8) :
    Except Error (Option (FrameHeader × Nat)) := do
  match ← FrameHeader.parse src with
  | none => .ok none
  | some (h, n) =>
    d.validate h
    .ok (some (h, n))

/-- Starts collecting the payload of a checked header. -/
def begin (d : FrameDecoder) (h : FrameHeader) : FrameDecoder :=
  { d with state := if h.payloadLength = 0 then .payloadComplete else .accumulatingPayload,
           header := some h, payload := #[], maskIndex := 0 }

/-- Decodes at most one frame from the front of `src`: the frame, if one was completed, and the
bytes left after it, with the decoder. A refused header leaves the decoder and the bytes as
they were. A decoder past its header that holds none is refused (no decoder reaches one). -/
def step (d : FrameDecoder) (src : List UInt8) :
    Except Error (Option Frame × List UInt8) × FrameDecoder :=
  match d.state with
  | .awaitingHeader =>
    match d.readHeader src with
    | .error e => (.error e, d)
    | .ok none => (.ok (none, src), d)
    | .ok (some (h, n)) =>
      let (f, d, rest) := (d.begin h).collect (src.drop n)
      (.ok (f, rest), d)
  | .accumulatingPayload =>
    match d.header with
    | none => (.error .payloadWithoutHeader, d)
    | some _ =>
      let (f, d, rest) := d.collect src
      (.ok (f, rest), d)
  | .payloadComplete =>
    match d.header with
    | none => (.error .completedWithoutHeader, { d with state := .awaitingHeader })
    | some _ =>
      let (f, d, rest) := d.collect src
      (.ok (f, rest), d)

/-- Decodes at most one frame from the front of `src`: the frame, if one was completed, with
the decoder and the bytes left after it. -/
def decode (d : FrameDecoder) (src : List UInt8) :
    Except Error (Option Frame × FrameDecoder × List UInt8) :=
  match d.step src with
  | (.ok (f, rest), d) => .ok (f, d, rest)
  | (.error e, _) => .error e

/-- The header length the first two bytes announce: two, plus the extended length, plus the
key; two while fewer than two bytes are known. -/
def headerLenHint (buf : List UInt8) : Nat :=
  match buf with
  | _ :: b1 :: _ =>
    let short := b1.toNat % 128
    2 + (if short = 126 then 2 else if short = 127 then 8 else 0) + (if b1.toNat ≥ 128 then 4 else 0)
  | _ => 2

/-- The expected and received byte counts of a frame cut off by the end of the stream, given
the bytes still buffered. -/
def truncation (d : FrameDecoder) (buffered : List UInt8) : Nat × Nat :=
  match d.header, d.state with
  | some h, .accumulatingPayload => (h.payloadLength, d.payload.size)
  | _, _ => (headerLenHint buffered, buffered.length)

/-- Decodes frames from `src` until none is complete or one fails, at most `fuel` of them: the
frames, the error that stopped the run if one did, the decoder and the bytes left. -/
def drainLoop (d : FrameDecoder) (src : List UInt8) :
    Nat → List Frame × Option Error × FrameDecoder × List UInt8
  | 0 => ([], none, d, src)
  | fuel + 1 =>
    match d.step src with
    | (.error e, d) => ([], some e, d, src)
    | (.ok (none, src), d) => ([], none, d, src)
    | (.ok (some f, src), d) =>
      let (frames, e, d, src) := d.drainLoop src fuel
      (f :: frames, e, d, src)

/-- Decodes every frame `src` completes. Every frame but one whose header was already read
takes at least two bytes of `src`, so its length bounds their number. -/
def drain (d : FrameDecoder) (src : List UInt8) :
    List Frame × Option Error × FrameDecoder × List UInt8 :=
  d.drainLoop src (src.length + 2)

/-- Drops any partial frame. -/
def reset (d : FrameDecoder) : FrameDecoder :=
  { d with state := .awaitingHeader, header := none, payload := #[], maskIndex := 0 }

end FrameDecoder

end HubLink

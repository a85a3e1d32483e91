import HubLink.Frame.Decoder
/-!
The frame reader: reads a byte stream in chunks through a frame decoder. `readFrame` answers
the next frame, or `none` when the stream ends between frames; a stream that ends inside a
frame is an error. `readMessage` reassembles fragmented messages: a data frame without the
final bit starts one, continuation frames extend it, the final one completes it. Control
frames may come between fragments and are answered at once. A reassembled or single message
over the size limit is refused.
-/
namespace HubLink

/-- The reader's limits and read size. -/
structure ReaderConfig where
  maxPayloadSize : Nat := FrameDecoder.defaultMaxPayload
  maxMessageSize : Nat := 64 * 1024 * 1024
  readChunkSize : Nat := 8 * 1024
  deriving DecidableEq, Repr

/-- A complete message: one unfragmented frame, a reassembled sequence of fragments, or a
control frame. -/
structure FrameMessage where
  opcode : OpCode
  payload : List UInt8
  deriving DecidableEq, Repr

/-- Whether the message is a control message. -/
def FrameMessage.isControl (m : FrameMessage) : Bool := m.opcode.isControl

/-- A frame reader over a stream: the stream and the position up to which it has been read,
the bytes read but not yet decoded, the decoder, and the message being reassembled. -/
structure FrameReader where
  stream : Array UInt8
  position : Nat
  buffer : List UInt8
  decoder : FrameDecoder
  pending : Option FrameMessage
  config : ReaderConfig
  deriving Repr

namespace FrameReader

/-- A reader at the start of a stream. -/
def new (stream : List UInt8) (config : ReaderConfig := {}) : FrameReader :=
  ⟨stream.toArray, 0, [], FrameDecoder.new config.maxPayloadSize, none, config⟩

/-- The number of stream bytes not yet read. -/
def unread (r : FrameReader) : Nat := r.stream.size - r.position

/-- Decodes from the buffer, reading the stream from `position` one chunk at a time while no
frame is complete. At the end of the stream, nothing buffered and no frame begun means a clean
end. Answers the frame or error with the decoder, the buffer and the new position. -/
def readFrameLoop (chunk : Nat) (stream : Array UInt8) (decoder : FrameDecoder)
    (buffer : List UInt8) (position : Nat) :
    Except Error (Option Frame) × FrameDecoder × List UInt8 × Nat :=
  match decoder.step buffer with
  | (.error e, decoder) => (.error e, decoder, buffer, position)
  | (.ok (some f, buffer), decoder) => (.ok (some f), decoder, buffer, position)
  | (.ok (none, buffer), decoder) =>
    if _h : position < stream.size then
      let next := position + max chunk 1
      readFrameLoop chunk stream decoder (buffer ++ (stream.extract position next).toList) next
    else if buffer.isEmpty && decoder.header.isNone then (.ok none, decoder, buffer, position)
    else
      let (expected, received) := decoder.truncation buffer
      (.error (.truncatedFrame expected received), decoder, buffer, position)
termination_by stream.size - position
decreasing_by omega

/-- Reads the next frame. -/
def readFrame (r : FrameReader) : Except Error (Option Frame) × FrameReader :=
  let (result, decoder, buffer, position) :=
    readFrameLoop r.config.readChunkSize r.stream r.decoder r.buffer r.position
  (result, { r with decoder, buffer, position })

/-- Reads frames until a message is complete, for at most `fuel` frames. -/
def readMessageLoop (r : FrameReader) : Nat → Except Error (Option FrameMessage) × FrameReader
  | 0 => (.ok none, r)
  | fuel + 1 =>
    match r.readFrame with
    | (.error e, r) => (.error e, r)
    | (.ok none, r) =>
      if r.pending.isSome then (.error .unfinishedMessage, r) else (.ok none, r)
    | (.ok (some f), r) =>
      let op := f.header.opcode
      if op.isControl then (.ok (some ⟨op, f.payload⟩), r)
      else if op = .continuation then
        match r.pending with
        | none => (.error .orphanContinuation, r)
        | some pm =>
          let size := pm.payload.length + f.payload.length
          if size > r.config.maxMessageSize then
            (.error (.messageTooLarge size r.config.maxMessageSize), r)
          else
            let pm := { pm with payload := pm.payload ++ f.payload }
            if f.header.fin then (.ok (some pm), { r with pending := none })
            else readMessageLoop { r with pending := some pm } fuel
      else if r.pending.isSome then (.error (.interleavedData op), r)
      else if f.payload.length > r.config.maxMessageSize then
        (.error (.messageTooLarge f.payload.length r.config.maxMessageSize), r)
      else if f.header.fin then (.ok (some ⟨op, f.payload⟩), r)
      else readMessageLoop { r with pending := some ⟨op, f.payload⟩ } fuel

/-- Reads the next complete message. Every frame read takes at least two bytes, so the bytes
not yet decoded bound the number of frames. -/
def readMessage (r : FrameReader) : Except Error (Option FrameMessage) × FrameReader :=
  r.readMessageLoop (r.unread + r.buffer.length + 1)

/-- Repeats a read until it answers `none` or fails, at most `count` times: what each read
answered (a final `none` included), the error that stopped the run if one did, and the
reader. -/
def repeatRead {α : Type} (read : FrameReader → Except Error (Option α) × FrameReader)
    (r : FrameReader) : Nat → List (Option α) × Option Error × FrameReader
  | 0 => ([], none, r)
  | count + 1 =>
    match read r with
    | (.error e, r) => ([], some e, r)
    | (.ok none, r) => ([none], none, r)
    | (.ok (some x), r) =>
      let (items, e, r) := repeatRead read r count
      (some x :: items, e, r)

end FrameReader

end HubLink

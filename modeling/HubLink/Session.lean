import HubLink.Frame.Reader
import HubLink.Hub.Buffer
/-!
A session: hub messages carried in frames. Messages are read from the frame stream one at a
time; control messages are reported as they come, and the payload of every data message is
pushed into one message buffer, which hands out the hub messages it completes. The session
ends with the stream, or at the first error of either layer.
-/
namespace HubLink

/-- What a session reports for each step. -/
inductive SessionEvent where
  /-- A control message. -/
  | control (opcode : OpCode) (payload : List UInt8)
  /-- A data message, with the hub messages it completed and what stays buffered. -/
  | data (opcode : OpCode) (messages : List HubMessage) (buffered unknownSkipped : Nat)
  /-- The clean end of the stream, with the bytes left buffered. -/
  | finished (buffered : Nat)
  /-- The error that ended the session. -/
  | failed (e : Error)
  deriving Repr

namespace Session

/-- Reads messages until the stream ends or fails, for at most `fuel` of them. -/
def loop (p : Protocol) (binder : InvocationBinder) (reader : FrameReader) (buffer : MessageBuffer) :
    Nat → List SessionEvent
  | 0 => []
  | fuel + 1 =>
    match reader.readMessage with
    | (.error e, _) => [.failed e]
    | (.ok none, _) => [.finished buffer.size]
    | (.ok (some m), reader) =>
      if m.isControl then .control m.opcode m.payload :: loop p binder reader buffer fuel
      else
        match buffer.push p binder m.payload with
        | (.error e, _) => [.failed e]
        | (.ok messages, buffer) =>
          .data m.opcode messages buffer.size buffer.unknownSkipped ::
            loop p binder reader buffer fuel

end Session

/-- Runs a session over a byte stream; every message takes at least one byte, so the stream's
length bounds their number. -/
def runSession (p : Protocol) (binder : InvocationBinder) (config : ReaderConfig)
    (stream : List UInt8) : List SessionEvent :=
  Session.loop p binder (FrameReader.new stream config) MessageBuffer.empty (stream.length + 1)

end HubLink

import HubLink.MsgPack.Read
import HubLink.Text.Utf8
import HubLink.Value.Decode
import HubLink.Hub.MessageType
import HubLink.Frame.OpCode
/-!
The errors of the library, each a cause: a hub field that could not be read, a body too short
for its type, an envelope or message over its limit, a frame that breaks the framing rules, a
stream that ends mid-frame. `Error.message` gives the text of each.
-/
namespace HubLink

/-- The MessagePack family a hub field is read as. -/
inductive FieldShape where
  | array
  | map
  | int64
  | string
  deriving DecidableEq, Repr

/-- The family's name in error texts. -/
def FieldShape.name : FieldShape → String
  | .array => "Array"
  | .map => "Map"
  | .int64 => "Int64"
  | .string => "String"

/-- Why a hub field could not be read. -/
inductive FieldFault where
  /-- The header or integer itself failed. -/
  | read (e : MsgPack.ReadError)
  /-- A string announced more bytes than were left. -/
  | short (needed left : Nat)
  /-- A string's bytes are no UTF-8. -/
  | utf8 (e : Utf8.Error)
  deriving DecidableEq, Repr

/-- The text of a field fault. -/
def FieldFault.message : FieldFault → String
  | .read e => e.message
  | .short needed left => s!"need {needed} bytes, {left} left"
  | .utf8 e => e.message

/-- Writes `n` in binary, with the `0b` prefix, padded with zeros to three digits. -/
def binaryText3 (n : Nat) : String :=
  let digits := Nat.toDigits 2 n
  "0b" ++ String.ofList (List.replicate (3 - digits.length) '0' ++ digits)

/-- An error of the library. -/
inductive Error where
  /-- A hub message field could not be read as its family. -/
  | field (name : String) (shape : FieldShape) (fault : FieldFault)
  /-- A body has fewer items than its message type needs. -/
  | tooFewFields (type : MessageType) (count : Nat)
  /-- A header key appears twice. -/
  | duplicateHeader (key : String)
  /-- A length prefix announces 2 GB or more. -/
  | envelopeTooLarge
  /-- A completion's result kind tag is unknown. -/
  | invalidResultKind
  /-- A completion with an error or a result has fewer than five items. -/
  | completionTooShort (kind : ResultKind) (count : Nat)
  /-- A message over the size limit. -/
  | messageTooLarge (size max : Nat)
  /-- A message that cannot be written, by its name. -/
  | unexpectedMessage (name : String)
  /-- A typed value could not be read. -/
  | msgPackDecode (e : DecodeError)
  /-- A frame from a client without a mask. -/
  | unmaskedFrame
  /-- A frame's payload is over the limit. -/
  | frameTooLarge (size max : Nat)
  /-- The stream ended inside a frame. -/
  | truncatedFrame (expected received : Nat)
  /-- A 64-bit payload length has its top bit set. -/
  | lengthTopBit
  /-- Reserved header bits are set. -/
  | reservedBits (rsv : Nat)
  /-- The opcode is a reserved one. -/
  | reservedOpCode (value : Nat)
  /-- A control frame without the final bit. -/
  | fragmentedControl
  /-- A control frame's payload is over 125 bytes. -/
  | controlTooLarge (size : Nat)
  /-- A continuation frame with no message to continue. -/
  | orphanContinuation
  /-- A data frame that is no continuation while a message is being reassembled. -/
  | interleavedData (op : OpCode)
  /-- The stream ended while a message was being reassembled. -/
  | unfinishedMessage
  /-- A decoder collecting a payload holds no header. -/
  | payloadWithoutHeader
  /-- A decoder with a complete frame holds no header. -/
  | completedWithoutHeader
  deriving Repr

/-- The text of an error. -/
def Error.message : Error → String
  | .field name shape fault =>
    let kind := shape.name
    let text := fault.message
    s!"Invalid data: Reading '{name}' as {kind} failed: {text}"
  | .tooFewFields type count =>
    let kind := type.name
    let min := type.minFieldCount
    s!"Invalid data: Invalid {kind} message: expected at least {min} elements, got {count}"
  | .duplicateHeader key => s!"Invalid data: Duplicate header key '{key}'"
  | .envelopeTooLarge => "Invalid data: Messages over 2GB in size are not supported."
  | .invalidResultKind => "Invalid data: Invalid invocation result kind."
  | .completionTooShort kind count =>
    let k := kind.name
    s!"Invalid data: Invalid Completion message: {k} result needs 5 elements, got {count}"
  | .messageTooLarge size max => s!"Message too large: {size} bytes (max: {max})"
  | .unexpectedMessage name => s!"Unexpected message type: {name}"
  | .msgPackDecode e => "MsgPack decode error: " ++ e.message
  | .unmaskedFrame => "Frame is not masked"
  | .frameTooLarge size max => s!"Frame payload of {size} bytes exceeds maximum {max}"
  | .truncatedFrame expected received =>
    s!"Stream ended mid-frame: expected {expected} bytes, got {received}"
  | .lengthTopBit => "Protocol error: 64-bit payload length has its most significant bit set"
  | .reservedBits rsv =>
    "Protocol error: Reserved bits set without a negotiated extension: " ++ binaryText3 rsv
  | .reservedOpCode value =>
    "Protocol error: Reserved opcode 0x" ++ String.ofList (Nat.toDigits 16 value)
  | .fragmentedControl => "Protocol error: Fragmented control frame"
  | .controlTooLarge size => s!"Protocol error: Control frame payload of {size} bytes exceeds 125"
  | .orphanContinuation => "Protocol error: Continuation frame without a message in progress"
  | .interleavedData op =>
    "Protocol error: " ++ op.name ++ " frame while a fragmented message is in progress"
  | .unfinishedMessage => "Protocol error: Stream ended inside a fragmented message"
  | .payloadWithoutHeader => "Protocol error: payload state without a header"
  | .completedWithoutHeader => "Protocol error: completed frame without a header"

/-- The family of an error: malformed hub data, a size limit, a message that cannot be written,
a value that cannot be decoded, one of the framing faults with their own names, or a breach
of the framing protocol. -/
def Error.kind : Error → String
  | .field .. | .tooFewFields .. | .duplicateHeader _ | .envelopeTooLarge | .invalidResultKind
  | .completionTooShort .. => "InvalidData"
  | .messageTooLarge .. => "MessageTooLarge"
  | .unexpectedMessage _ => "UnexpectedMessage"
  | .msgPackDecode _ => "MsgPackDecode"
  | .unmaskedFrame => "UnmaskedFrame"
  | .frameTooLarge .. => "FrameTooLarge"
  | .truncatedFrame .. => "TruncatedFrame"
  | .lengthTopBit | .reservedBits _ | .reservedOpCode _ | .fragmentedControl | .controlTooLarge _
  | .orphanContinuation | .interleavedData _ | .unfinishedMessage | .payloadWithoutHeader
  | .completedWithoutHeader => "Protocol"

end HubLink

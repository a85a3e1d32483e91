import HubLink.Hub.Message
import HubLink.Hub.Envelope
import HubLink.Value.Encode
/-!
Writing hub messages. A body is a MessagePack array: the type's tag, then (for all but ping
and close) the headers as a map (empty when there are none), then the type's own fields.
Invocations always write six items: an empty invocation id as nil, no stream ids as an empty
array. A completion writes four items, or five with its error text or its result (nil when it
claims a result it does not hold). The message on the wire is the body behind its length
prefix. Binding failures cannot be written.
-/
namespace HubLink

namespace HubMessage

open MsgPack

/-- The headers map; none is an empty map. -/
def writeHeaders (h : Option Headers) : List UInt8 :=
  let entries := (h.getD .empty).entries
  writeMapLen entries.length ++ entries.flatMap fun (k, v) => writeStr k ++ writeStr v

/-- A string or nil. -/
def writeNullableStr : Option String → List UInt8
  | some s => writeStr s
  | none => writeNil

/-- The body of an invocation of type `type`. -/
def writeInvocation (type : MessageType) (m : Invocation) : List UInt8 :=
  let ids := m.streamIds.getD []
  writeArrayLen 6 ++ writeUInt type.tag ++ writeHeaders m.headers ++
    writeNullableStr m.canonicalId ++ writeStr m.target ++
    writeArrayLen m.arguments.length ++ m.arguments.flatMap Argument.encode ++
    writeArrayLen ids.length ++ ids.flatMap writeStr

/-- The body of a completion. -/
def writeCompletion (m : Completion) : List UInt8 :=
  let kind := m.resultKind
  let tail :=
    match kind with
    | .error => writeStr (m.error.getD "")
    | .nonVoid =>
      match m.result with
      | some r => r.encode
      | none => writeNil
    | .void => []
  writeArrayLen (if kind = .void then 4 else 5) ++ writeUInt MessageType.completion.tag ++
    writeHeaders m.headers ++ writeStr m.invocationId ++ writeUInt kind.tag ++ tail

/-- The body of a message; binding failures are refused by name. -/
def body : HubMessage → Except Error (List UInt8)
  | .invocation m => .ok (writeInvocation .invocation m)
  | .streamInvocation m => .ok (writeInvocation .streamInvocation m)
  | .streamItem m =>
    .ok (writeArrayLen 4 ++ writeUInt MessageType.streamItem.tag ++ writeHeaders m.headers ++
      writeStr m.invocationId ++ m.item.encode)
  | .completion m => .ok (writeCompletion m)
  | .cancelInvocation m =>
    .ok (writeArrayLen 3 ++ writeUInt MessageType.cancelInvocation.tag ++
      writeHeaders m.headers ++ writeStr m.invocationId)
  | .ping => .ok (writeArrayLen 1 ++ writeUInt MessageType.ping.tag)
  | .close error => .ok (writeArrayLen 2 ++ writeUInt MessageType.close.tag ++ writeNullableStr error)
  | m => .error (.unexpectedMessage m.name)

/-- The message on the wire: its body behind the body's length prefix. -/
def toBytes (m : HubMessage) : Except Error (List UInt8) := do
  let b ← m.body
  let p ← Envelope.writePrefix b.length
  .ok (p ++ b)

/-- Appends the message to an output buffer: the body is written apart, then its length prefix
goes onto the buffer, then the body. The buffer is left as it was on an error. -/
def writeTo (m : HubMessage) (out : List UInt8) : Except Error (List UInt8) := do
  let b ← m.body
  let out ← (Envelope.writePrefix b.length).map (out ++ ·)
  .ok (out ++ b)

end HubMessage

end HubLink

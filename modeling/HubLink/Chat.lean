import HubLink.Session
import HubLink.Hub.Encode
/-!
A small chat exchange run through every layer, with no network. A client writes three hub
messages as masked frames: a broadcast of a chat line, then (fragmented over two frames with a
ping between them) a late completion nobody waits for and a call of an unknown method. The
server reads the frames, reassembles the messages, decodes them with its method table, and
prints one line per event: the chat line, the ping, and the two binding failures, which do not
end the connection.
-/
namespace HubLink.Chat

/-- The server's resolver: the standard types and chat lines. -/
def resolver : Resolver := Resolver.standard.register (.record .chatLine)

/-- The server's protocol settings. -/
def protocol : Protocol := ⟨resolver, none⟩

/-- The server's method table: `Broadcast` takes one chat line. -/
def binder : MethodTable := MethodTable.empty.registerMethod "Broadcast" [.record .chatLine]

/-- The client's broadcast of a chat line. -/
def broadcast : HubMessage :=
  .invocation ((Invocation.new "Broadcast"
    [⟨.record .chatLine, .record .chatLine [.string "ada", .string "hello, hub"]⟩]).withInvocationId "1")

/-- A completion for an invocation nobody waits for. -/
def lateCompletion : HubMessage :=
  .completion (Completion.withResult "forgotten" ⟨.i32, .int 7⟩)

/-- A call of a method the server does not have. -/
def unknownCall : HubMessage :=
  .invocation (Invocation.new "Shout" [])

/-- The client's bytes on the wire: the broadcast in one frame, the other two messages split
in half over a fragment and its continuation, with a ping between them. -/
def clientStream : Except Error (List UInt8) := do
  let first ← broadcast.toBytes
  let late ← lateCompletion.toBytes
  let bad ← unknownCall.toBytes
  let rest := late ++ bad
  let half := rest.length / 2
  .ok (buildFrame .binary true (some 0x11223344) first ++
    buildFrame .binary false (some 0xA1B2C3D4) (rest.take half) ++
    buildFrame .ping true (some 0x0F0F0F0F) (Utf8.encode "keepalive") ++
    buildFrame .continuation true (some 0x55667788) (rest.drop half))

/-- The line printed for a hub message, if any. -/
def describe : HubMessage → List String
  | .invocation call =>
    call.arguments.filterMap fun a =>
      match a.type, a.value with
      | .record .chatLine, .record _ [.string user, .string text] => some (user ++ ": " ++ text)
      | _, _ => none
  | .completionBindingFailure id error _ => ["late completion '" ++ id ++ "': " ++ error.message]
  | .invocationBindingFailure _ target error => ["cannot call '" ++ target ++ "': " ++ error.message]
  | other => [other.name]

/-- Serves the stream: reads messages until the stream ends, for at most `fuel` of them,
answering the lines printed, or the lines printed before an error and the error. -/
def serve (reader : FrameReader) (buffer : MessageBuffer) (out : List String) :
    Nat → List String × Option Error
  | 0 => (out, none)
  | fuel + 1 =>
    match reader.readMessage with
    | (.error e, _) => (out, some e)
    | (.ok none, _) => (out, none)
    | (.ok (some m), reader) =>
      if m.opcode = .ping then
        serve reader buffer (out ++ ["ping (" ++ toString m.payload.length ++ " bytes)"]) fuel
      else
        match buffer.push protocol binder m.payload with
        | (.error e, _) => (out, some e)
        | (.ok hubMessages, buffer) =>
          serve reader buffer (out ++ hubMessages.flatMap describe) fuel

/-- What the exchange prints, and whether it ended without an error. -/
def transcript : String × Bool :=
  match clientStream with
  | .error _ => ("", false)
  | .ok stream =>
    let (lines, error) :=
      serve (FrameReader.new stream) MessageBuffer.empty [] (stream.length + 1)
    (String.join (lines.map (· ++ "\n")), error.isNone)

end HubLink.Chat

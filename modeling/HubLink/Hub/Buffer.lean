import HubLink.Hub.Parse
/-!
A message buffer collects bytes as they arrive and hands out every complete message. After an
incomplete read it remembers how many bytes the message at the front needs, once its prefix is
known, and does not try again before that many have arrived. Messages with an unknown type are
counted and dropped. On an error the push fails, and the bytes of the failing message stay in
the buffer (those of messages read before it in the same push are gone).
-/
namespace HubLink

/-- What the buffer waits for. -/
inductive BufferState where
  | waitingForPrefix
  | waitingForBody (needed : Nat)
  deriving DecidableEq, Repr

/-- Received bytes not yet read as messages, and what they wait for. -/
structure MessageBuffer where
  bytes : List UInt8
  state : BufferState
  unknownSkipped : Nat
  deriving Repr

namespace MessageBuffer

/-- The empty buffer. -/
def empty : MessageBuffer := ⟨[], .waitingForPrefix, 0⟩

/-- Reads messages from the front while they are complete: at most `fuel` of them. Each read
consumes at least the one byte of a prefix, so the buffer's length is enough fuel. -/
def drain (p : Protocol) (binder : InvocationBinder) (b : MessageBuffer) (acc : List HubMessage) :
    Nat → Except Error (List HubMessage) × MessageBuffer
  | 0 => (.ok acc.reverse, b)
  | fuel + 1 =>
    let waiting : Bool :=
      match b.state with
      | .waitingForBody needed => b.bytes.length < needed
      | .waitingForPrefix => false
    if waiting then (.ok acc.reverse, b)
    else
      match p.tryParse binder b.bytes with
      | .error e => (.error e, b)
      | .ok (.incomplete, _) =>
        let state :=
          match Protocol.messageLength b.bytes with
          | some needed => .waitingForBody needed
          | none => .waitingForPrefix
        (.ok acc.reverse, { b with state })
      | .ok (.message m, rest) =>
        drain p binder { b with bytes := rest, state := .waitingForPrefix } (m :: acc) fuel
      | .ok (.unknown _, rest) =>
        drain p binder
          { b with bytes := rest, state := .waitingForPrefix, unknownSkipped := b.unknownSkipped + 1 }
          acc fuel

/-- Appends received bytes and reads every complete message. -/
def push (p : Protocol) (binder : InvocationBinder) (b : MessageBuffer) (data : List UInt8) :
    Except Error (List HubMessage) × MessageBuffer :=
  let b := { b with bytes := b.bytes ++ data }
  drain p binder b [] (b.bytes.length + 1)

/-- Drops every buffered byte. -/
def clear (b : MessageBuffer) : MessageBuffer :=
  { b with bytes := [], state := .waitingForPrefix }

/-- The number of buffered bytes. -/
def size (b : MessageBuffer) : Nat := b.bytes.length

end MessageBuffer

end HubLink

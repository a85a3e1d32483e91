import HubLink.Hub.Fields
import HubLink.Hub.Envelope
import HubLink.Hub.MethodTable
import HubLink.Value.Resolver
/-!
Reading hub messages from the front of a byte buffer. The first envelope decides: while it is
incomplete the answer is `incomplete` and nothing is consumed (but a complete prefix that
announces more than the size limit is refused at once); a complete envelope is consumed whole,
whatever its body turns out to be. A body with an unknown type tag is skipped as `unknown`.

Values are bound with the binder (which types a method takes, which type an invocation
returns) and read with the resolver. When binding fails the message becomes a binding failure;
only malformed bodies are errors. Items after the fields a type needs are ignored.
-/
namespace HubLink

/-- What reading a message from the front of a buffer found. -/
inductive ParseOutcome where
  | incomplete
  | message (m : HubMessage)
  | unknown (tag : Int)
  deriving Repr

/-- The hub protocol's settings: the resolver that reads values, and an optional limit on a
message body's size. -/
structure Protocol where
  resolver : Resolver
  maxMessageSize : Option Nat

namespace Protocol

/-- The protocol with the standard resolver and no size limit. -/
def standard : Protocol := ⟨Resolver.standard, none⟩

/-- Refuses a size over the limit. -/
def checkSize (p : Protocol) (size : Nat) : Except Error Unit :=
  match p.maxMessageSize with
  | some max => if size > max then .error (.messageTooLarge size max) else .ok ()
  | none => .ok ()

/-- Reads the arguments of an invocation: their count must be that of the parameters. -/
def bindArguments (p : Protocol) (count : Nat) (types : List ValueType) (input : List UInt8) :
    Except BindingError (List Argument × List UInt8) :=
  if count ≠ types.length then .error (.argumentCount count types.length)
  else go types input
where
  /-- Reads one argument per type. -/
  go : List ValueType → List UInt8 → Except BindingError (List Argument × List UInt8)
    | [], input => .ok ([], input)
    | t :: ts, input => do
      let (a, rest) ← p.resolver.readArgument t "argument" input
      let (as, rest) ← go ts rest
      .ok (a :: as, rest)

/-- The fields of an invocation or stream invocation body with `count` items. -/
def readInvocation (p : Protocol) (binder : InvocationBinder) (count : Nat) (streaming : Bool)
    (input : List UInt8) : Except Error HubMessage := do
  let (headers, rest) ← Fields.headers input
  let (id, rest) ← Fields.nullableString "invocationId" rest
  let id := id.filter (· ≠ "")
  let (target, rest) ← Fields.string "target" rest
  let (argc, rest) ← Fields.arrayLen "arguments" rest
  let bound := do
    let types ← binder.parameterTypes target
    p.bindArguments argc types rest
  match bound with
  | .error e => .ok (.invocationBindingFailure id target e)
  | .ok (arguments, rest) =>
    let (streamIds, _) ← if count > 5 then Fields.streamIds rest else .ok (none, rest)
    let m : Invocation := { invocationId := id, target, arguments, streamIds, headers }
    .ok (if streaming then .streamInvocation m else .invocation m)

/-- The fields of a stream item body. -/
def readStreamItem (p : Protocol) (binder : InvocationBinder) (input : List UInt8) :
    Except Error HubMessage := do
  let (headers, rest) ← Fields.headers input
  let (id, rest) ← Fields.nullableString "invocationId" rest
  let id := id.getD ""
  let bound := do
    let t ← binder.streamItemType id
    p.resolver.readArgument t "item" rest
  match bound with
  | .ok (item, _) => .ok (.streamItem { invocationId := id, item, headers })
  | .error e => .ok (.streamBindingFailure id e)

/-- The fields of a completion body with `count` items. -/
def readCompletion (p : Protocol) (binder : InvocationBinder) (count : Nat) (input : List UInt8) :
    Except Error HubMessage := do
  let (headers, rest) ← Fields.headers input
  let (id, rest) ← Fields.nullableString "invocationId" rest
  let id := id.getD ""
  let (kindTag, rest) ← Fields.int "resultKind" rest
  let some kind := ResultKind.ofTag? kindTag | .error .invalidResultKind
  if kind ≠ .void ∧ count < 5 then .error (.completionTooShort kind count)
  else
    let m := { Completion.empty id with headers }
    match kind with
    | .error =>
      let (error, _) ← Fields.nullableString "error" rest
      .ok (.completion { m with error := some (error.getD "") })
    | .nonVoid =>
      let bound := do
        let t ← binder.returnType id
        p.resolver.readArgument t "result" rest
      match bound with
      | .ok (result, _) => .ok (.completion { m with result := some result, hasResult := true })
      | .error e => .ok (.completionBindingFailure id e headers)
    | .void => .ok (.completion m)

/-- Reads a message body. -/
def parseBody (p : Protocol) (binder : InvocationBinder) (body : List UInt8) :
    Except Error ParseOutcome := do
  let (count, rest) ← Fields.arrayLen "elementCount" body
  let (tag, rest) ← Fields.int "messageType" rest
  match MessageType.ofTag? tag with
  | none => .ok (.unknown tag)
  | some type =>
    if count < type.minFieldCount then .error (.tooFewFields type count)
    else
      let m ← match type with
        | .invocation => p.readInvocation binder count false rest
        | .streamInvocation => p.readInvocation binder count true rest
        | .streamItem => p.readStreamItem binder rest
        | .completion => p.readCompletion binder count rest
        | .cancelInvocation => do
          let (headers, rest) ← Fields.headers rest
          let (id, _) ← Fields.nullableString "invocationId" rest
          .ok (.cancelInvocation { invocationId := id.getD "", headers })
        | .ping => .ok .ping
        | .close => do
          let (error, _) ← Fields.nullableString "error" rest
          .ok (.close error)
      .ok (.message m)

/-- Reads the message at the front of `input`: the outcome and the bytes left. Nothing is
consumed when the outcome is `incomplete`; otherwise exactly the first envelope is. -/
def tryParse (p : Protocol) (binder : InvocationBinder) (input : List UInt8) :
    Except Error (ParseOutcome × List UInt8) := do
  match ← Envelope.split input with
  | none =>
    match Envelope.peekLength input with
    | some length => p.checkSize length
    | none => pure ()
    .ok (.incomplete, input)
  | some (body, rest) =>
    p.checkSize body.length
    let outcome ← p.parseBody binder body
    .ok (outcome, rest)

/-- Reads messages from the front of `input` until one is incomplete or fails, at most `fuel` of
them: each outcome with the number of bytes it consumed (an incomplete one consumes none), the
error that stopped the run if one did, and the bytes left. -/
def parseLoop (p : Protocol) (binder : InvocationBinder) (input : List UInt8) :
    Nat → List (ParseOutcome × Nat) × Option Error × List UInt8
  | 0 => ([], none, input)
  | fuel + 1 =>
    match p.tryParse binder input with
    | .error e => ([], some e, input)
    | .ok (.incomplete, _) => ([(.incomplete, 0)], none, input)
    | .ok (o, rest) =>
      let (steps, e, left) := parseLoop p binder rest fuel
      (((o, (Envelope.envelopeLength input).getD 0)) :: steps, e, left)

/-- Reads every message at the front of `input`; each takes at least its one prefix byte, so
the input's length bounds their number. -/
def parseAll (p : Protocol) (binder : InvocationBinder) (input : List UInt8) :
    List (ParseOutcome × Nat) × Option Error × List UInt8 :=
  p.parseLoop binder input (input.length + 1)

/-- The total size, prefix included, of the message at the front of `input`, once its prefix
is complete. -/
def messageLength (input : List UInt8) : Option Nat :=
  (Envelope.peekLength input).map fun n => Envelope.prefixLength n + n

end Protocol

end HubLink

import HubLink.Proofs.TrailingItems
/-!
# Writing messages onto a buffer

A message goes on the wire by two entry points, each framing the body on its own: `toBytes`
gives the message's bytes, `writeTo` appends them to an output buffer. They agree, and writing
is all or nothing: writing appends exactly the message's bytes, and a message that cannot be
written fails alike in both and leaves the buffer as it was (`writeTo_eq`).

The bytes are the body's varint length and then the body: an array header announcing as many
items as the message's kind writes (`HubMessage.itemCount`), the kind's tag, and its fields. A
binding failure has no wire kind and is refused with its own name; the only other failure is a
body too long for its prefix. Writing messages one after another onto one buffer appends the
bytes of those that can be written, in order (`writeEach_eq`).
-/
namespace HubLink

namespace HubMessage

open MsgPack

/-- The items a message's body announces: six for an invocation or a stream invocation (whose
stream ids are always written), four for a stream item, four for a completion without error or
result and five with one, three for a cancellation, one for a ping and two for a close. Binding
failures are not written. -/
def itemCount : HubMessage → Nat
  | .invocation _ | .streamInvocation _ => 6
  | .streamItem _ => 4
  | .completion m => m.itemCount
  | .cancelInvocation _ => 3
  | .ping => 1
  | .close _ => 2
  | _ => 0

/-- The body of a message with a wire kind is its item count's array header, its kind's tag,
and its fields. -/
theorem body_of_messageType {m : HubMessage} {type : MessageType}
    (h : m.messageType? = some type) :
    ∃ fields, m.body = .ok (writeArrayLen m.itemCount ++ writeUInt type.tag ++ fields) := by
  cases m <;> simp only [messageType?, reduceCtorEq, Option.some.injEq] at h <;> subst h
  case invocation m | streamInvocation m =>
    exact ⟨_, by simp only [body, itemCount, writeInvocation_eq, List.append_assoc]; rfl⟩
  case completion m =>
    exact ⟨_, by simp only [body, itemCount, writeCompletion_eq, List.append_assoc]; rfl⟩
  case ping => exact ⟨[], by simp [body, itemCount]⟩
  all_goals exact ⟨_, by simp only [body, itemCount, List.append_assoc]; rfl⟩

/-- A binding failure has no wire kind, and its body is refused by its name. -/
theorem body_of_no_messageType {m : HubMessage} (h : m.messageType? = none) :
    m.body = .error (.unexpectedMessage m.name) := by
  cases m <;> simp_all [messageType?, body]

/-- Framing a body fails only for a body too long for its prefix. -/
theorem toBytes_of_body {m : HubMessage} {b : List UInt8} (hb : m.body = .ok b) :
    m.toBytes = (Envelope.writePrefix b.length).map (· ++ b) := by
  cases hp : Envelope.writePrefix b.length <;> simp [toBytes, hb, hp, bind, Except.bind]

/-- The message's bytes, when it can be written: a wire kind, and a body behind its length's
varint that starts with the kind's item count and tag. -/
theorem toBytes_eq_ok_shape {m : HubMessage} {bytes : List UInt8} (h : m.toBytes = .ok bytes) :
    ∃ type, m.messageType? = some type ∧ ∃ body, bytes = Envelope.varint body.length ++ body ∧
      ∃ fields, body = writeArrayLen m.itemCount ++ writeUInt type.tag ++ fields := by
  obtain ⟨body, hbody, -, rfl⟩ := toBytes_eq_ok h
  cases ht : m.messageType? with
  | none => simp [body_of_no_messageType ht] at hbody
  | some type =>
    obtain ⟨fields, hf⟩ := body_of_messageType ht
    rw [hf, Except.ok.injEq] at hbody
    exact ⟨type, rfl, body, rfl, fields, hbody.symm⟩

/-- A message is refused as unexpected exactly when it is a binding failure, and then by its
name. -/
theorem toBytes_eq_unexpected_iff (m : HubMessage) (s : String) :
    m.toBytes = .error (.unexpectedMessage s) ↔ m.messageType? = none ∧ s = m.name := by
  cases ht : m.messageType? with
  | none =>
    simp [toBytes, body_of_no_messageType ht, bind, Except.bind, eq_comm]
  | some type =>
    obtain ⟨fields, hf⟩ := body_of_messageType ht
    rw [toBytes_of_body hf]
    unfold Envelope.writePrefix
    split <;> simp

/-- Writing onto a buffer appends the message's bytes, or fails as they do, leaving the buffer
as it was. -/
theorem writeTo_eq (m : HubMessage) (out : List UInt8) :
    m.writeTo out = m.toBytes.map (out ++ ·) := by
  cases hb : m.body with
  | error e => simp [writeTo, toBytes, hb, bind, Except.bind]
  | ok b =>
    rw [toBytes_of_body hb]
    cases hp : Envelope.writePrefix b.length <;>
      simp [writeTo, hb, hp, bind, Except.bind, List.append_assoc]

/-- Writes each message in turn onto the buffer; a message that cannot be written leaves the
buffer as it was, and the next is written after what is there. -/
def writeEach : List HubMessage → List UInt8 → List UInt8
  | [], out => out
  | m :: ms, out =>
    match m.writeTo out with
    | .ok out' => writeEach ms out'
    | .error _ => writeEach ms out

/-- Writing messages in turn appends the bytes of those that can be written, in order. -/
theorem writeEach_eq (ms : List HubMessage) (out : List UInt8) :
    writeEach ms out = out ++ (ms.filterMap fun m => m.toBytes.toOption).flatten := by
  induction ms generalizing out with
  | nil => simp [writeEach]
  | cons m ms ih =>
    rw [writeEach, writeTo_eq]
    cases h : m.toBytes with
    | error e => simp [ih, h, Except.toOption]
    | ok bytes => simp [ih, h, Except.toOption]

example : writeEach [.ping, .ping] [] = [0x02, 0x91, 0x06, 0x02, 0x91, 0x06] := by decide +kernel

example : writeEach [.invocationBindingFailure none "x" (.unknownTarget "x"), .ping] [0xAA] =
    [0xAA, 0x02, 0x91, 0x06] := by decide +kernel

end HubMessage

/-- Writing a message onto a buffer and taking its bytes agree: writing succeeds exactly when
the bytes can be taken, and appends them; otherwise it fails with the same error and the buffer
is left as it was. The bytes are the body's varint length and then the body, which opens with an
array header of the items the message's kind writes (six for an invocation or a stream
invocation, four for a stream item, five for a completion with an error or a result and four for
one without, three for a cancellation, one for a ping, two for a close) and then the kind's tag.
A message is refused as unexpected exactly when it is a binding failure, and the refusal names
it. Writing messages in turn onto one buffer appends the bytes of each that can be written. -/
theorem writeTo_appends_toBytes (m : HubMessage) (out : List UInt8) (ms : List HubMessage) :
    m.writeTo out = m.toBytes.map (out ++ ·) ∧
      (∀ bytes, m.toBytes = .ok bytes → ∃ type, m.messageType? = some type ∧
        ∃ body, bytes = Envelope.varint body.length ++ body ∧
          ∃ fields, body = MsgPack.writeArrayLen m.itemCount ++ MsgPack.writeUInt type.tag ++
            fields) ∧
      (∀ s, m.toBytes = .error (.unexpectedMessage s) ↔ m.messageType? = none ∧ s = m.name) ∧
      HubMessage.writeEach ms out = out ++ (ms.filterMap fun m => m.toBytes.toOption).flatten :=
  ⟨HubMessage.writeTo_eq m out, fun _ h => HubMessage.toBytes_eq_ok_shape h,
    HubMessage.toBytes_eq_unexpected_iff m, HubMessage.writeEach_eq ms out⟩

end HubLink

import Mathlib.Data.List.Forall2
import HubLink.Hub.Parse
import HubLink.Hub.Encode
import HubLink.Proofs.Fields
import HubLink.Proofs.Envelope
import HubLink.Proofs.FirstEnvelope
import HubLink.Proofs.WholeItems
/-!
Reading back written hub messages. The bytes of a message are its body behind the varint of the
body's length; reading them back, whatever follows them, gives the message as the reader
returns it and consumes exactly those bytes.

The reader does not return every message as it was written. An empty invocation id, an empty
header map and an empty stream id list all read back as none, and a completion keeps only what
its result kind selects: its error, its result, or nothing. `HubMessage.canon` says what comes
back.

Three things must hold for the values to come back. The binder gives the types the
values have (the parameter types of an invocation's target, the result type of a stream item's
or completion's invocation), the resolver reads each of those types as itself, and the value's
bytes decode to the value (`Argument.ReadsBack`); header maps have strictly increasing keys, as
a sorted map keeps them; and the body fits the protocol's size limit. Binding failures have no
bytes, and the bytes of a body longer than `Envelope.maxSize` are refused.
-/
namespace HubLink

open MsgPack in
theorem Value.encode_ne_nil : (v : Value) → v.encode ≠ []
  | .some v => by
    rw [Value.encode]
    exact encode_ne_nil v
  | .string s => by simp [Value.encode, writeStr_ne_nil]
  | .int n => by
    simp only [Value.encode, writeInt, writeUInt]
    split_ifs <;> simp
  | .bytes b => by
    simp only [Value.encode, writeBin]
    split_ifs <;> simp
  | .list vs => by
    simp only [Value.encode, writeArrayLen]
    split_ifs <;> simp
  | .map es => by
    simp only [Value.encode, writeMapLen]
    split_ifs <;> simp
  | .record r vs => by
    simp only [Value.encode, writeMapLen]
    split_ifs <;> simp
  | .bool _ | .f32 _ | .f64 _ | .none => by
    simp [Value.encode, writeBool, writeFloat32, writeFloat64, writeNil]

namespace Argument

/-- An argument that reads back as itself: its type is read as that same type, and its bytes
decode to its value whatever follows them. -/
structure ReadsBack (r : Resolver) (a : Argument) : Prop where
  formatter : r.formatter? a.type = some a.type
  decode : ∀ rest, r.decode a.type (a.encode ++ rest) = .ok (a.value, rest)

/-- An argument bound to type `t` that reads back as itself: the resolver reads `t` as the
argument's type, and the argument's bytes decode to its value whatever follows them. -/
structure Rebinds (r : Resolver) (t : ValueType) (a : Argument) : Prop where
  formatter : r.formatter? t = some a.type
  decode : ∀ rest, r.decode a.type (a.encode ++ rest) = .ok (a.value, rest)

theorem ReadsBack.rebinds {r : Resolver} {a : Argument} (h : a.ReadsBack r) : a.Rebinds r a.type :=
  ⟨h.formatter, h.decode⟩

theorem encode_ne_nil (a : Argument) : a.encode ≠ [] :=
  a.value.encode_ne_nil

end Argument

theorem Resolver.readArgument_rebinds {r : Resolver} {t : ValueType} {a : Argument}
    (ha : a.Rebinds r t) (field : String) (rest : List UInt8) :
    r.readArgument t field (a.encode ++ rest) = .ok (a, rest) := by
  simp [readArgument, ha.formatter, ha.decode]

open MsgPack in
/-- Text reads back as itself: the value decoder reads a written string as text, whatever
follows it. -/
theorem Value.decode_writeStr {s : String} (h : (writeStr s).length < 2 ^ 32) (z : List UInt8) :
    Value.decode .string (writeStr s ++ z) = .ok (.string s, z) := by
  have hlen : (Utf8.encode s).length < 2 ^ 32 := Nat.lt_trans (writeStr_length s) h
  obtain ⟨b, len, hhdr, hsc, hstr⟩ := (writeStrLen_header hlen).dispatch
  simp only [writeStr, hhdr, List.cons_append, List.append_assoc, Value.decode, Decode.value,
    Decode.takeMarker, Decode.readScalar_of_width_none hsc, hstr, Decode.readBody_append rfl,
    except_ok_bind, Utf8.decode_encode, Decode.ofText]

namespace Resolver

theorem registerAs_decode (r : Resolver) (t f : ValueType) :
    (r.registerAs t f).decode = r.decode := by
  unfold registerAs
  split <;> rfl

theorem registerAll_decode (r : Resolver) (ts : List ValueType) :
    (r.registerAll ts).decode = r.decode := by
  induction ts generalizing r with
  | nil => rfl
  | cons t ts ih =>
    rw [registerAll, List.foldl_cons, ← registerAll, ih, register, registerAs_decode]

theorem standard_decode : standard.decode = Value.decode :=
  registerAll_decode empty standardTypes

end Resolver

/-- A text argument reads back as itself under a resolver that reads text as text with the
MessagePack value decoder. -/
theorem Argument.readsBack_string {r : Resolver} (hf : r.formatter? .string = some .string)
    (hd : r.decode = Value.decode) {s : String} (h : (MsgPack.writeStr s).length < 2 ^ 32) :
    (⟨.string, .string s⟩ : Argument).ReadsBack r where
  formatter := hf
  decode rest := by
    rw [hd]
    exact Value.decode_writeStr h rest

theorem MessageType.ofTag?_tag (t : MessageType) : ofTag? (t.tag : Int) = some t := by
  cases t <;> rfl

theorem ResultKind.ofTag?_tag (k : ResultKind) : ofTag? (k.tag : Int) = some k := by
  cases k <;> rfl

theorem Invocation.canonicalId_filter (m : Invocation) :
    m.canonicalId.filter (· ≠ "") = m.canonicalId := by
  cases h : m.invocationId with
  | none => simp [canonicalId, h]
  | some s => by_cases hs : s = "" <;> simp [canonicalId, h, hs, Option.filter]

/-! What the reader gives back. -/

/-- The invocation as it reads back: an empty id, an empty stream id list and an empty header
map all read back as none. -/
def Invocation.canon (m : Invocation) : Invocation :=
  { m with
    invocationId := m.canonicalId
    streamIds := m.streamIds.filter (· ≠ [])
    headers := m.headers.filter (· ≠ .empty) }

/-- The completion as it reads back: it keeps what its result kind selects (an error, a result,
or nothing), and an empty header map reads back as none. -/
def Completion.canon (m : Completion) : Completion :=
  { m with
    result := if m.resultKind = .nonVoid then m.result else none
    hasResult := m.resultKind = .nonVoid
    headers := m.headers.filter (· ≠ .empty) }

namespace HubMessage

/-- The message as the reader gives it back. -/
def canon : HubMessage → HubMessage
  | .invocation m => .invocation m.canon
  | .streamInvocation m => .streamInvocation m.canon
  | .streamItem m => .streamItem { m with headers := m.headers.filter (· ≠ .empty) }
  | .completion m => .completion m.canon
  | .cancelInvocation m => .cancelInvocation { m with headers := m.headers.filter (· ≠ .empty) }
  | m => m

/-- The binder and the resolver read the message's values back as they are: the binder
gives the types the values have, and each value reads back as itself. -/
def Describes (r : Resolver) (binder : InvocationBinder) : HubMessage → Prop
  | .invocation m | .streamInvocation m =>
    binder.parameterTypes m.target = .ok (m.arguments.map (·.type)) ∧
      ∀ a ∈ m.arguments, a.ReadsBack r
  | .streamItem m => binder.streamItemType m.invocationId = .ok m.item.type ∧ m.item.ReadsBack r
  | .completion m =>
    m.resultKind = .nonVoid → ∃ a, m.result = some a ∧
      binder.returnType m.invocationId = .ok a.type ∧ a.ReadsBack r
  | _ => True

/-- The binder and the resolver read the message's values back as they are: the binder
gives the types the values are bound to, and each value reads back as itself when bound to its
type. Values read as another type than the one they are bound to are allowed. -/
def Rebinds (r : Resolver) (binder : InvocationBinder) : HubMessage → Prop
  | .invocation m | .streamInvocation m =>
    ∃ types, binder.parameterTypes m.target = .ok types ∧
      List.Forall₂ (fun t a => a.Rebinds r t) types m.arguments
  | .streamItem m => ∃ t, binder.streamItemType m.invocationId = .ok t ∧ m.item.Rebinds r t
  | .completion m =>
    m.resultKind = .nonVoid → ∃ a t, m.result = some a ∧
      binder.returnType m.invocationId = .ok t ∧ a.Rebinds r t
  | _ => True

theorem Describes.rebinds {r : Resolver} {binder : InvocationBinder} {m : HubMessage}
    (h : m.Describes r binder) : m.Rebinds r binder := by
  cases m with
  | invocation m | streamInvocation m =>
    obtain ⟨htypes, hargs⟩ := h
    refine ⟨_, htypes, List.forall₂_map_left_iff.mpr (List.forall₂_same.mpr ?_)⟩
    exact fun a ha => (hargs a ha).rebinds
  | streamItem m => exact ⟨_, h.1, h.2.rebinds⟩
  | completion m =>
    intro hk
    obtain ⟨a, ha, htype, hreads⟩ := h hk
    exact ⟨a, a.type, ha, htype, hreads.rebinds⟩
  | _ => trivial

/-- The bytes of a message are the varint of its body's length, then its body, of at most
`Envelope.maxSize` bytes. -/
theorem toBytes_eq_ok {m : HubMessage} {bytes : List UInt8} (h : m.toBytes = .ok bytes) :
    ∃ body, m.body = .ok body ∧ body.length ≤ Envelope.maxSize ∧
      bytes = Envelope.varint body.length ++ body := by
  cases hb : m.body with
  | error e => simp [toBytes, hb, bind, Except.bind] at h
  | ok body =>
    by_cases hlen : body.length > Envelope.maxSize
    · simp [toBytes, hb, Envelope.writePrefix, hlen, bind, Except.bind] at h
    · simp [toBytes, hb, Envelope.writePrefix, hlen, bind, Except.bind] at h
      exact ⟨body, rfl, by omega, h.symm⟩

/-- A body of fewer than `0x80` bytes is written behind the one byte of its length. -/
theorem toBytes_of_short_body {m : HubMessage} {body : List UInt8} {n : UInt8}
    (hbody : m.body = .ok body) (hshort : body.length < 0x80) (hn : body.length.toUInt8 = n) :
    m.toBytes = .ok (n :: body) := by
  subst hn
  simp only [toBytes, hbody, Envelope.writePrefix_of_lt hshort, bind, Except.bind,
    List.singleton_append]

end HubMessage

/-- The protocol's size limit lets the message's body through. -/
def Protocol.Admits (p : Protocol) (m : HubMessage) : Prop :=
  ∀ body, m.body = .ok body → p.checkSize body.length = .ok ()

/-- A message written as `bytes` that a protocol reads back with a binder: the binder and the
resolver read its values back, and the size limit lets its body through. -/
structure HubMessage.Readable (p : Protocol) (binder : InvocationBinder) (m : HubMessage)
    (bytes : List UInt8) : Prop where
  written : m.toBytes = .ok bytes
  described : m.Describes p.resolver binder
  admitted : p.Admits m

namespace Protocol

variable (p : Protocol) (binder : InvocationBinder)

open MsgPack HubMessage Fields

theorem bindArguments_go {types : List ValueType} {args : List Argument}
    (hargs : List.Forall₂ (fun t a => a.Rebinds p.resolver t) types args) (rest : List UInt8) :
    bindArguments.go p types (args.flatMap Argument.encode ++ rest) = .ok (args, rest) := by
  induction hargs with
  | nil => simp [bindArguments.go]
  | cons ha _ ih =>
    simp only [List.flatMap_cons, List.append_assoc, bindArguments.go,
      Resolver.readArgument_rebinds ha, bind, Except.bind, ih]

theorem bindArguments_encode {types : List ValueType} {args : List Argument}
    (hargs : List.Forall₂ (fun t a => a.Rebinds p.resolver t) types args) (rest : List UInt8) :
    p.bindArguments args.length types (args.flatMap Argument.encode ++ rest) =
      .ok (args, rest) := by
  simp [bindArguments, hargs.length_eq, bindArguments_go p hargs]

/-! One lemma per kind of body: the fields after the item count and the type tag. -/

section Bodies

variable (rest : List UInt8)

theorem readInvocation_fields (streaming : Bool) {type : MessageType} {m : Invocation}
    {types : List ValueType}
    (htypes : binder.parameterTypes m.target = .ok types)
    (hargs : List.Forall₂ (fun t a => a.Rebinds p.resolver t) types m.arguments)
    (hfit : (writeInvocation type m).length < 2 ^ 32) :
    p.readInvocation binder 6 streaming
        (writeHeaders m.headers ++ (writeNullableStr m.canonicalId ++ (writeStr m.target ++
          (writeArrayLen m.arguments.length ++ (m.arguments.flatMap Argument.encode ++
            (writeArrayLen (m.streamIds.getD []).length ++
              ((m.streamIds.getD []).flatMap writeStr ++ rest))))))) =
      .ok (if streaming then .streamInvocation m.canon else .invocation m.canon) := by
  simp only [writeInvocation, List.length_append] at hfit
  have hheaders : (writeHeaders m.headers).length < 2 ^ 32 := by omega
  have hid : (writeNullableStr m.canonicalId).length < 2 ^ 32 := by omega
  have htarget : (writeStr m.target).length < 2 ^ 32 := by omega
  have hcount : m.arguments.length < 2 ^ 32 :=
    Nat.lt_of_le_of_lt (length_le_length_flatMap Argument.encode_ne_nil _) (by omega)
  have hids : ((m.streamIds.getD []).flatMap writeStr).length < 2 ^ 32 := by omega
  simp only [readInvocation, headers_writeHeaders _ hheaders,
    nullableString_writeNullableStr _ _ hid, string_writeStr _ _ htarget,
    arrayLen_writeArrayLen _ _ hcount, htypes, bindArguments_encode p hargs, bind, Except.bind,
    if_pos (show 6 > 5 by decide), streamIds_write _ _ hids, Invocation.canonicalId_filter]
  rfl

theorem readStreamItem_fields {m : StreamItem} {t : ValueType}
    (htype : binder.streamItemType m.invocationId = .ok t)
    (hitem : m.item.Rebinds p.resolver t)
    (hheaders : (writeHeaders m.headers).length < 2 ^ 32)
    (hid : (writeStr m.invocationId).length < 2 ^ 32) :
    p.readStreamItem binder
        (writeHeaders m.headers ++ (writeStr m.invocationId ++ (m.item.encode ++ rest))) =
      .ok (.streamItem { m with headers := m.headers.filter (· ≠ .empty) }) := by
  simp only [readStreamItem, headers_writeHeaders _ hheaders,
    nullableString_writeStr _ _ hid, Option.getD_some, htype,
    Resolver.readArgument_rebinds hitem, bind, Except.bind]

/-- A completion reads back by its result kind: the error text, the result read as the
invocation's result type, or nothing. -/
theorem parseBody_writeCompletion {m : Completion}
    (hresult : m.resultKind = .nonVoid → ∃ a t, m.result = some a ∧
      binder.returnType m.invocationId = .ok t ∧ a.Rebinds p.resolver t)
    (hfit : (writeCompletion m).length < 2 ^ 32) :
    p.parseBody binder (writeCompletion m ++ rest) = .ok (.message (.completion m.canon)) := by
  simp only [writeCompletion, List.length_append] at hfit
  have hheaders : (writeHeaders m.headers).length < 2 ^ 32 := by omega
  have hid : (writeStr m.invocationId).length < 2 ^ 32 := by omega
  cases he : m.error with
  | some e =>
    have hk : m.resultKind = .error := by simp [Completion.resultKind, he]
    have herror : (writeStr e).length < 2 ^ 32 := by simp [hk, he] at hfit; omega
    simp only [writeCompletion, hk, he, Option.getD_some, List.append_assoc, reduceCtorEq,
      if_false]
    simp only [parseBody, arrayLen_writeArrayLen _ _ (show 5 < 2 ^ 32 by decide),
      int_writeUInt _ _ (show MessageType.completion.tag < 2 ^ 63 by decide),
      MessageType.ofTag?_tag, bind, Except.bind, readCompletion,
      headers_writeHeaders _ hheaders, nullableString_writeStr _ _ hid,
      int_writeUInt _ _ (show ResultKind.error.tag < 2 ^ 63 by decide), ResultKind.ofTag?_tag,
      nullableString_writeStr _ _ herror, MessageType.minFieldCount]
    simp [Completion.empty, Completion.canon, hk, he]
  | none =>
    cases hr : m.hasResult with
    | true =>
      have hk : m.resultKind = .nonVoid := by simp [Completion.resultKind, he, hr]
      obtain ⟨a, t, ha, htype, hreads⟩ := hresult hk
      simp only [writeCompletion, hk, ha, List.append_assoc, reduceCtorEq, if_false]
      simp only [parseBody, arrayLen_writeArrayLen _ _ (show 5 < 2 ^ 32 by decide),
        int_writeUInt _ _ (show MessageType.completion.tag < 2 ^ 63 by decide),
        MessageType.ofTag?_tag, bind, Except.bind, readCompletion,
        headers_writeHeaders _ hheaders, nullableString_writeStr _ _ hid,
        int_writeUInt _ _ (show ResultKind.nonVoid.tag < 2 ^ 63 by decide),
        ResultKind.ofTag?_tag, Option.getD_some, htype, Resolver.readArgument_rebinds hreads,
        MessageType.minFieldCount]
      simp [Completion.empty, Completion.canon, hk, he, ha]
    | false =>
      have hk : m.resultKind = .void := by simp [Completion.resultKind, he, hr]
      simp only [writeCompletion, hk, List.append_assoc, List.nil_append, if_true]
      simp only [parseBody, arrayLen_writeArrayLen _ _ (show 4 < 2 ^ 32 by decide),
        int_writeUInt _ _ (show MessageType.completion.tag < 2 ^ 63 by decide),
        MessageType.ofTag?_tag, bind, Except.bind, readCompletion,
        headers_writeHeaders _ hheaders, nullableString_writeStr _ _ hid,
        int_writeUInt _ _ (show ResultKind.void.tag < 2 ^ 63 by decide), ResultKind.ofTag?_tag,
        Option.getD_some, MessageType.minFieldCount]
      simp [Completion.empty, Completion.canon, hk, he]

theorem parseBody_rebinds {m : HubMessage} {body : List UInt8} (hbody : m.body = .ok body)
    (hfit : body.length < 2 ^ 32) (hdesc : m.Rebinds p.resolver binder) :
    p.parseBody binder (body ++ rest) = .ok (.message m.canon) := by
  cases m with
  | invocation m =>
    obtain ⟨types, htypes, hargs⟩ := hdesc
    simp only [HubMessage.body, Except.ok.injEq] at hbody
    subst hbody
    have hread := readInvocation_fields p binder rest false htypes hargs hfit
    simp only [writeInvocation, List.append_assoc]
    simp only [parseBody, arrayLen_writeArrayLen _ _ (show 6 < 2 ^ 32 by decide),
      int_writeUInt _ _ (show MessageType.invocation.tag < 2 ^ 63 by decide),
      MessageType.ofTag?_tag, bind, Except.bind, MessageType.minFieldCount, hread]
    rfl
  | streamInvocation m =>
    obtain ⟨types, htypes, hargs⟩ := hdesc
    simp only [HubMessage.body, Except.ok.injEq] at hbody
    subst hbody
    have hread := readInvocation_fields p binder rest true htypes hargs hfit
    simp only [writeInvocation, List.append_assoc]
    simp only [parseBody, arrayLen_writeArrayLen _ _ (show 6 < 2 ^ 32 by decide),
      int_writeUInt _ _ (show MessageType.streamInvocation.tag < 2 ^ 63 by decide),
      MessageType.ofTag?_tag, bind, Except.bind, MessageType.minFieldCount, hread]
    rfl
  | streamItem m =>
    obtain ⟨t, htype, hitem⟩ := hdesc
    simp only [HubMessage.body, Except.ok.injEq] at hbody
    subst hbody
    simp only [List.length_append] at hfit
    have hread := readStreamItem_fields p binder rest htype hitem (by omega) (by omega)
    simp only [List.append_assoc]
    simp only [parseBody, arrayLen_writeArrayLen _ _ (show 4 < 2 ^ 32 by decide),
      int_writeUInt _ _ (show MessageType.streamItem.tag < 2 ^ 63 by decide),
      MessageType.ofTag?_tag, bind, Except.bind, MessageType.minFieldCount, hread]
    rfl
  | completion m =>
    simp only [HubMessage.body, Except.ok.injEq] at hbody
    subst hbody
    exact parseBody_writeCompletion p binder rest hdesc hfit
  | cancelInvocation m =>
    simp only [HubMessage.body, Except.ok.injEq] at hbody
    subst hbody
    simp only [List.length_append] at hfit
    have hheaders : (writeHeaders m.headers).length < 2 ^ 32 := by omega
    have hid : (writeStr m.invocationId).length < 2 ^ 32 := by omega
    simp only [List.append_assoc]
    simp only [parseBody, arrayLen_writeArrayLen _ _ (show 3 < 2 ^ 32 by decide),
      int_writeUInt _ _ (show MessageType.cancelInvocation.tag < 2 ^ 63 by decide),
      MessageType.ofTag?_tag, bind, Except.bind, MessageType.minFieldCount,
      headers_writeHeaders _ hheaders, nullableString_writeStr _ _ hid, Option.getD_some]
    rfl
  | ping =>
    simp only [HubMessage.body, Except.ok.injEq] at hbody
    subst hbody
    simp only [List.append_assoc]
    simp only [parseBody, arrayLen_writeArrayLen _ _ (show 1 < 2 ^ 32 by decide),
      int_writeUInt _ _ (show MessageType.ping.tag < 2 ^ 63 by decide),
      MessageType.ofTag?_tag, bind, Except.bind, MessageType.minFieldCount]
    rfl
  | close error =>
    simp only [HubMessage.body, Except.ok.injEq] at hbody
    subst hbody
    simp only [List.length_append] at hfit
    have herror : (writeNullableStr error).length < 2 ^ 32 := by omega
    simp only [List.append_assoc]
    simp only [parseBody, arrayLen_writeArrayLen _ _ (show 2 < 2 ^ 32 by decide),
      int_writeUInt _ _ (show MessageType.close.tag < 2 ^ 63 by decide),
      MessageType.ofTag?_tag, bind, Except.bind, MessageType.minFieldCount,
      nullableString_writeNullableStr _ _ herror]
    rfl
  | invocationBindingFailure | streamBindingFailure | completionBindingFailure =>
    simp [HubMessage.body] at hbody

theorem parseBody_body {m : HubMessage} {body : List UInt8} (hbody : m.body = .ok body)
    (hfit : body.length < 2 ^ 32) (hdesc : m.Describes p.resolver binder) :
    p.parseBody binder (body ++ rest) = .ok (.message m.canon) :=
  parseBody_rebinds p binder rest hbody hfit hdesc.rebinds

end Bodies

/-- Reading the bytes of a message, whatever follows them, gives the message back as the reader
returns it and consumes exactly its bytes, when the binder and resolver read its values
back as they are and its body is within the size limit. -/
theorem tryParse_toBytes {p : Protocol} {binder : InvocationBinder} {m : HubMessage}
    {bytes : List UInt8} (hbytes : m.toBytes = .ok bytes) (hdesc : m.Describes p.resolver binder)
    (hsize : p.Admits m) (rest : List UInt8) :
    p.tryParse binder (bytes ++ rest) = .ok (.message m.canon, rest) := by
  obtain ⟨body, hbody, hlen, rfl⟩ := toBytes_eq_ok hbytes
  have hparse := parseBody_body p binder [] hbody
    (by simp [Envelope.maxSize] at hlen; omega) hdesc
  rw [List.append_nil] at hparse
  rw [List.append_assoc]
  exact p.tryParse_varint hlen (hsize body hbody) hparse rest

/-- A call of `Send` with one text argument, under an id and one header, reads back with its
empty stream id list as none. -/
theorem tryParse_invocation_bytes :
    Protocol.standard.tryParse (MethodTable.toBinder ⟨[("Send", [.string])], []⟩)
        ([19, 150, 1, 129, 161, 107, 161, 118, 161, 49, 164, 83, 101, 110, 100, 145, 162, 104,
          105, 144] ++ [7]) =
      .ok (.message (.invocation ⟨some "1", "Send", [⟨.string, .string "hi"⟩], none,
        some (Headers.ofList [("k", "v")])⟩), [7]) :=
  @tryParse_toBytes Protocol.standard (MethodTable.toBinder ⟨[("Send", [.string])], []⟩)
    (.invocation ⟨some "1", "Send", [⟨.string, .string "hi"⟩], some [],
      some (Headers.ofList [("k", "v")])⟩)
    [19, 150, 1, 129, 161, 107, 161, 118, 161, 49, 164, 83, 101, 110, 100, 145, 162, 104, 105, 144]
    (HubMessage.toBytes_of_short_body rfl (by decide) rfl)
    ⟨rfl, fun a ha => by
      rw [List.mem_singleton] at ha
      subst ha
      exact Argument.readsBack_string rfl Resolver.standard_decode (by decide)⟩
    (fun _ _ => rfl) [7]

end Protocol

end HubLink

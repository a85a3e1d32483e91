import HubLink.Proofs.WholeItems
import HubLink.Proofs.HubCodec
/-!
# Items after the known fields are ignored

A reader of a hub message body looks at the body's item count only through thresholds: the
fewest items a type needs, the sixth item that holds an invocation's stream ids, the fifth that
holds a completion's error or result. A larger count meets each of them as the written count
did. Past the count, every reader reads its fields one after the other, each whole, and stops:
the fields of a written message are read whole by the field readers, and its argument values by
a value decoder that reads whole items (`ReadsWholeItems`), whatever types the binder binds
them to, so a binding failure is the same too. The MessagePack value decoder reads whole items
(`Value.decode_readsWholeItems`).

So a message's envelope reads the same when its body's array header announces more items, in
any of the three header forms, and any bytes follow the written fields
(`trailing_items_ignored`), as long as no size limit is set.
-/
namespace HubLink

open MsgPack

/-! An array header is read as its count in each of its forms. -/

namespace MsgPack

theorem ArrayHeader.lt {n : Nat} {hdr : List UInt8} (h : ArrayHeader n hdr) : n < 2 ^ 32 := by
  cases h <;> omega

theorem readArrayLen_header {n : Nat} {hdr : List UInt8} (h : ArrayHeader n hdr)
    (z : List UInt8) : readArrayLen (hdr ++ z) = .ok (n, z) := by
  cases h with
  | fix hn =>
    simp only [List.cons_append, List.nil_append]
    simp only [readArrayLen, readMarker, ofByte_fixArray n hn, bind, Except.bind]
  | array16 hn =>
    simp [readArrayLen, readMarker, show Marker.ofByte 0xDC = .array16 from rfl,
      readData_toBigEndian, Nat.mod_eq_of_lt hn, bind, Except.bind]
  | array32 hn =>
    simp [readArrayLen, readMarker, show Marker.ofByte 0xDD = .array32 from rfl,
      readData_toBigEndian, Nat.mod_eq_of_lt hn, bind, Except.bind]

end MsgPack

/-! Header maps and argument values are read whole. -/

namespace Fields

theorem headerEntries_readsWhole (entries : List (String × String))
    (hfit : (entries.flatMap fun e => writeStr e.1 ++ writeStr e.2).length < 2 ^ 32)
    (acc : Headers) :
    ReadsWhole (headerEntries acc entries.length)
      (entries.flatMap fun e => writeStr e.1 ++ writeStr e.2) := by
  induction entries generalizing acc with
  | nil => intro y; simp only [List.length_nil, List.flatMap_nil, List.nil_append, headerEntries,
      except_map_ok]
  | cons e es ih =>
    intro y
    have hk : (writeStr e.1).length < 2 ^ 32 := by simp at hfit; omega
    have hv : (writeStr e.2).length < 2 ^ 32 := by simp at hfit; omega
    have hrest := fun acc => ih (by simp at hfit ⊢; omega) acc y
    simp only [List.length_cons, List.flatMap_cons, List.append_assoc, headerEntries,
      string_writeStr _ _ hk, string_writeStr _ _ hv, except_ok_bind]
    split
    · rfl
    · exact hrest _

/-- A written header map is read whole, whether or not its keys are sorted: a key given twice
is refused whatever follows. -/
theorem headers_readsWhole {h : Option Headers}
    (hfit : (HubMessage.writeHeaders h).length < 2 ^ 32) :
    ReadsWhole headers (HubMessage.writeHeaders h) := by
  intro y
  have hflat :
      ((h.getD .empty).entries.flatMap fun e => writeStr e.1 ++ writeStr e.2).length < 2 ^ 32 := by
    rw [writeHeaders_eq, List.length_append] at hfit
    omega
  have hcount : (h.getD .empty).entries.length < 2 ^ 32 :=
    Nat.lt_of_le_of_lt (length_le_length_flatMap (fun e => by simp [writeStr_ne_nil]) _) hflat
  rw [writeHeaders_eq, List.append_assoc]
  simp only [headers, mapLen_writeMapLen _ _ hcount, except_ok_bind]
  cases hentries : (h.getD .empty).entries with
  | nil => simp
  | cons e es =>
    rw [hentries] at hflat
    have hread := headerEntries_readsWhole (e :: es) hflat .empty y
    rw [List.length_cons] at hread
    simp only [List.length_cons, Nat.add_one_ne_zero, if_false, hread, except_map_bind,
      except_bind_map, except_map_ok]

end Fields

/-- An argument is written as its value, one whole item. -/
theorem Argument.encode_item (a : Argument) (h : a.encode.length < 2 ^ 32) : Item a.encode :=
  Value.encode_item a.value h

/-- With a decoder that reads whole items, an item is read whole as an argument of every type,
and a type without a reader is refused before any byte is read. -/
theorem Resolver.readArgument_readsWhole {r : Resolver} (hdec : ReadsWholeItems r.decode)
    (t : ValueType) (field : String) {i : List UInt8} (h : Item i) :
    ReadsWhole (r.readArgument t field) i := by
  intro y
  unfold readArgument
  cases r.formatter? t with
  | none => rfl
  | some f =>
    simp only [hdec f i h y]
    cases r.decode f i <;> rfl

/-! How message bodies are laid out: a tag, then the fields of the message's kind. -/

theorem MessageType.tag_lt (t : MessageType) : t.tag < 2 ^ 63 := by
  cases t <;> decide

theorem ResultKind.tag_lt (k : ResultKind) : k.tag < 2 ^ 63 := by
  cases k <;> decide

/-- What a completion's body holds after its result kind: the error, the result (nil when one
is claimed but not held), or nothing. -/
def Completion.tail (m : Completion) : List UInt8 :=
  match m.resultKind with
  | .error => writeStr (m.error.getD "")
  | .nonVoid =>
    match m.result with
    | some r => r.encode
    | none => writeNil
  | .void => []

/-- The items a completion's body is written with. -/
def Completion.itemCount (m : Completion) : Nat :=
  if m.resultKind = .void then 4 else 5

theorem Completion.tail_item {m : Completion} (hk : m.resultKind = .nonVoid)
    (hfit : m.tail.length < 2 ^ 32) : Item m.tail := by
  unfold Completion.tail at hfit ⊢
  rw [hk] at hfit ⊢
  cases hr : m.result with
  | some a => exact a.encode_item (by simpa [hr] using hfit)
  | none => exact .scalar rfl

namespace HubMessage

theorem writeCompletion_eq (m : Completion) :
    writeCompletion m = writeArrayLen m.itemCount ++ (writeUInt MessageType.completion.tag ++
      (writeHeaders m.headers ++ (writeStr m.invocationId ++
        (writeUInt m.resultKind.tag ++ m.tail)))) := by
  unfold writeCompletion Completion.itemCount Completion.tail
  cases m.resultKind with
  | nonVoid => cases m.result <;> simp only [List.append_assoc]
  | error | void => simp only [List.append_assoc]

theorem writeInvocation_eq (type : MessageType) (m : Invocation) :
    writeInvocation type m = writeArrayLen 6 ++ (writeUInt type.tag ++ (writeHeaders m.headers ++
      (writeNullableStr m.canonicalId ++ (writeStr m.target ++
        (writeArrayLen m.arguments.length ++ (m.arguments.flatMap Argument.encode ++
          (writeArrayLen (m.streamIds.getD []).length ++
            (m.streamIds.getD []).flatMap writeStr))))))) := by
  simp only [writeInvocation, List.append_assoc]

end HubMessage

namespace Protocol

variable (p : Protocol)

theorem bindArguments_go_readsWhole (hdec : ReadsWholeItems p.resolver.decode)
    {args : List Argument} (hfit : (args.flatMap Argument.encode).length < 2 ^ 32) :
    ∀ types : List ValueType, types.length = args.length →
      ReadsWhole (bindArguments.go p types) (args.flatMap Argument.encode) := by
  induction args with
  | nil =>
    intro types hlen y
    cases types with
    | nil => rfl
    | cons => simp at hlen
  | cons a as ih =>
    intro types hlen y
    cases types with
    | nil => simp at hlen
    | cons t ts =>
      simp only [List.flatMap_cons, List.length_append] at hfit
      simp only [List.flatMap_cons, List.append_assoc, bindArguments.go,
        Resolver.readArgument_readsWhole hdec t "argument" (a.encode_item (by omega)) _,
        ih (by omega) ts (by simpa using hlen) _, except_map_bind, except_bind_map,
        except_map_ok]

/-- The arguments of an invocation are bound whole: a count that differs from the parameters'
is refused before any value is read, and otherwise each value is read whole. -/
theorem bindArguments_readsWhole (hdec : ReadsWholeItems p.resolver.decode)
    {args : List Argument} (hfit : (args.flatMap Argument.encode).length < 2 ^ 32)
    (types : List ValueType) :
    ReadsWhole (p.bindArguments args.length types) (args.flatMap Argument.encode) := by
  intro y
  unfold bindArguments
  split
  · rfl
  · exact p.bindArguments_go_readsWhole hdec hfit types (by omega) y

/-! Each reader reads the written fields the same whatever follows them. -/

theorem writeArrayLen_append_inj {a b : Nat} {u v : List UInt8} (ha : a < 2 ^ 32)
    (hb : b < 2 ^ 32) (h : writeArrayLen a ++ u = writeArrayLen b ++ v) : a = b ∧ u = v := by
  have hread := readArrayLen_writeArrayLen ha u
  rw [h, readArrayLen_writeArrayLen hb v] at hread
  simp only [Except.ok.injEq, Prod.mk.injEq] at hread
  exact ⟨hread.1.symm, hread.2.symm⟩

section Readers

variable (binder : InvocationBinder)

open HubMessage Fields

/-- An invocation's fields are read the same whatever follows them, by a reader told of six
items or more: the stream ids are read either way, and a binding failure reads no further. -/
theorem readInvocation_trailing (hdec : ReadsWholeItems p.resolver.decode) (streaming : Bool)
    {c : Nat} (hc : 5 < c) {type : MessageType} {m : Invocation}
    (hfit : (writeInvocation type m).length < 2 ^ 32) (x x' : List UInt8) :
    p.readInvocation binder c streaming
        (writeHeaders m.headers ++ (writeNullableStr m.canonicalId ++ (writeStr m.target ++
          (writeArrayLen m.arguments.length ++ (m.arguments.flatMap Argument.encode ++
            (writeArrayLen (m.streamIds.getD []).length ++
              ((m.streamIds.getD []).flatMap writeStr ++ x))))))) =
      p.readInvocation binder 6 streaming
        (writeHeaders m.headers ++ (writeNullableStr m.canonicalId ++ (writeStr m.target ++
          (writeArrayLen m.arguments.length ++ (m.arguments.flatMap Argument.encode ++
            (writeArrayLen (m.streamIds.getD []).length ++
              ((m.streamIds.getD []).flatMap writeStr ++ x'))))))) := by
  simp only [writeInvocation, List.length_append] at hfit
  have hheaders : (writeHeaders m.headers).length < 2 ^ 32 := by omega
  have hid : (writeNullableStr m.canonicalId).length < 2 ^ 32 := by omega
  have htarget : (writeStr m.target).length < 2 ^ 32 := by omega
  have hargs : (m.arguments.flatMap Argument.encode).length < 2 ^ 32 := by omega
  have hcount : m.arguments.length < 2 ^ 32 :=
    Nat.lt_of_le_of_lt (length_le_length_flatMap Argument.encode_ne_nil _) hargs
  have hids : ((m.streamIds.getD []).flatMap writeStr).length < 2 ^ 32 := by omega
  simp only [readInvocation, headers_readsWhole hheaders _, except_map_bind]
  rcases Fields.headers (writeHeaders m.headers) with e | ⟨hs, _⟩
  · rfl
  simp only [except_ok_bind, nullableString_writeNullableStr _ _ hid,
    string_writeStr _ _ htarget, arrayLen_writeArrayLen _ _ hcount]
  rcases binder.parameterTypes m.target with e | types
  · rfl
  simp only [except_ok_bind, p.bindArguments_readsWhole hdec hargs types _]
  rcases p.bindArguments m.arguments.length types (m.arguments.flatMap Argument.encode) with
    e | ⟨arguments, _⟩
  · rfl
  simp only [except_map_ok, hc, show 6 > 5 by decide, if_true, streamIds_write _ _ hids,
    except_ok_bind]

/-- A stream item's fields are read the same whatever follows them: its value is read whole,
or its binding fails reading no further. -/
theorem readStreamItem_trailing (hdec : ReadsWholeItems p.resolver.decode) {m : StreamItem}
    (hfit : (writeHeaders m.headers ++ writeStr m.invocationId ++ m.item.encode).length < 2 ^ 32)
    (x x' : List UInt8) :
    p.readStreamItem binder
        (writeHeaders m.headers ++ (writeStr m.invocationId ++ (m.item.encode ++ x))) =
      p.readStreamItem binder
        (writeHeaders m.headers ++ (writeStr m.invocationId ++ (m.item.encode ++ x'))) := by
  simp only [List.length_append] at hfit
  have hheaders : (writeHeaders m.headers).length < 2 ^ 32 := by omega
  have hid : (writeStr m.invocationId).length < 2 ^ 32 := by omega
  have hitem : m.item.encode.length < 2 ^ 32 := by omega
  simp only [readStreamItem, headers_readsWhole hheaders _, except_map_bind]
  rcases Fields.headers (writeHeaders m.headers) with e | ⟨hs, _⟩
  · rfl
  simp only [except_ok_bind, nullableString_writeStr _ _ hid, Option.getD_some]
  rcases binder.streamItemType m.invocationId with e | t
  · rfl
  simp only [except_ok_bind,
    Resolver.readArgument_readsWhole hdec t "item" (m.item.encode_item hitem) _]
  rcases p.resolver.readArgument t "item" m.item.encode with e | ⟨item, _⟩ <;> rfl

/-- A completion's fields are read the same whatever follows them, by a reader told of as many
items as were written or more: the error or the result is read whole, or the result's binding
fails reading no further. -/
theorem readCompletion_trailing (hdec : ReadsWholeItems p.resolver.decode) {m : Completion}
    (hfit : (writeCompletion m).length < 2 ^ 32)
    {c : Nat} (hc : m.itemCount ≤ c) (x x' : List UInt8) :
    p.readCompletion binder c (writeHeaders m.headers ++ (writeStr m.invocationId ++
        (writeUInt m.resultKind.tag ++ (m.tail ++ x)))) =
      p.readCompletion binder m.itemCount (writeHeaders m.headers ++ (writeStr m.invocationId ++
        (writeUInt m.resultKind.tag ++ (m.tail ++ x')))) := by
  rw [writeCompletion_eq] at hfit
  simp only [List.length_append] at hfit
  have hheaders : (writeHeaders m.headers).length < 2 ^ 32 := by omega
  have hid : (writeStr m.invocationId).length < 2 ^ 32 := by omega
  have htail : m.tail.length < 2 ^ 32 := by omega
  have henough : ∀ n, m.itemCount ≤ n → ¬ (m.resultKind ≠ .void ∧ n < 5) := by
    rintro n hn ⟨hk, hlt⟩
    simp only [Completion.itemCount, hk, if_false] at hn
    omega
  simp only [readCompletion, headers_readsWhole hheaders _, except_map_bind]
  rcases Fields.headers (writeHeaders m.headers) with e | ⟨hs, _⟩
  · rfl
  simp only [except_ok_bind, nullableString_writeStr _ _ hid, Option.getD_some,
    int_writeUInt _ _ (ResultKind.tag_lt _), ResultKind.ofTag?_tag, henough c hc,
    henough _ le_rfl, if_false]
  cases hk : m.resultKind with
  | error =>
    simp only [Completion.tail, hk] at htail ⊢
    simp only [nullableString_writeStr _ _ htail, except_ok_bind]
  | nonVoid =>
    rcases binder.returnType m.invocationId with e | t
    · rfl
    simp only [except_ok_bind,
      Resolver.readArgument_readsWhole hdec t "result" (Completion.tail_item hk htail) _]
    rcases p.resolver.readArgument t "result" m.tail with e | ⟨r, _⟩ <;> rfl
  | void => rfl

/-- A message's body reads as written when its header announces more items and bytes follow
its fields: each reader meets a larger count as the written one, and stops after its fields. -/
theorem parseBody_trailing (hdec : ReadsWholeItems p.resolver.decode) {m : HubMessage} {N : Nat}
    {e : List UInt8} (hbody : m.body = .ok (writeArrayLen N ++ e))
    (hfit : (writeArrayLen N ++ e).length < 2 ^ 32)
    {c : Nat} (hc : N ≤ c) (hc' : c < 2 ^ 32) (x x' : List UInt8) :
    p.parseBody binder (writeArrayLen c ++ (e ++ x)) =
      p.parseBody binder (writeArrayLen N ++ (e ++ x')) := by
  cases m with
  | invocation m | streamInvocation m =>
    simp only [body, Except.ok.injEq] at hbody
    have hlen := hbody ▸ hfit
    rw [writeInvocation_eq] at hbody
    obtain ⟨rfl, rfl⟩ := writeArrayLen_append_inj (by omega) (by decide) hbody.symm
    simp only [parseBody, arrayLen_writeArrayLen _ _ hc',
      arrayLen_writeArrayLen _ _ (show 6 < 2 ^ 32 by decide), List.append_assoc,
      int_writeUInt _ _ (MessageType.tag_lt _), MessageType.ofTag?_tag, except_ok_bind,
      MessageType.minFieldCount, show ¬ c < 5 by omega, show ¬ 6 < 5 by decide, if_false,
      p.readInvocation_trailing binder hdec _ (show 5 < c by omega) hlen x x']
  | streamItem m =>
    simp only [body, Except.ok.injEq, List.append_assoc] at hbody
    obtain ⟨rfl, rfl⟩ := writeArrayLen_append_inj (by omega) (by decide) hbody.symm
    simp only [List.length_append] at hfit
    simp only [parseBody, arrayLen_writeArrayLen _ _ hc',
      arrayLen_writeArrayLen _ _ (show 4 < 2 ^ 32 by decide), List.append_assoc,
      int_writeUInt _ _ (MessageType.tag_lt _), MessageType.ofTag?_tag, except_ok_bind,
      MessageType.minFieldCount, show ¬ c < 4 by omega, show ¬ 4 < 4 by decide, if_false,
      @readStreamItem_trailing p binder hdec m (by simp only [List.length_append]; omega) x x']
  | completion m =>
    simp only [body, Except.ok.injEq] at hbody
    have hlen := hbody ▸ hfit
    have hcount : m.itemCount = 4 ∨ m.itemCount = 5 := by
      unfold Completion.itemCount
      split <;> simp
    rw [writeCompletion_eq] at hbody
    obtain ⟨rfl, rfl⟩ := writeArrayLen_append_inj (by omega) (by omega) hbody.symm
    simp only [parseBody, arrayLen_writeArrayLen _ _ hc',
      arrayLen_writeArrayLen _ _ (show m.itemCount < 2 ^ 32 by omega), List.append_assoc,
      int_writeUInt _ _ (MessageType.tag_lt _), MessageType.ofTag?_tag, except_ok_bind,
      MessageType.minFieldCount, show ¬ c < 4 by omega, show ¬ m.itemCount < 4 by omega,
      if_false, p.readCompletion_trailing binder hdec hlen hc x x']
  | cancelInvocation m =>
    simp only [body, Except.ok.injEq, List.append_assoc] at hbody
    obtain ⟨rfl, rfl⟩ := writeArrayLen_append_inj (by omega) (by decide) hbody.symm
    simp only [List.length_append] at hfit
    have hheaders : (writeHeaders m.headers).length < 2 ^ 32 := by omega
    have hid : (writeStr m.invocationId).length < 2 ^ 32 := by omega
    simp only [parseBody, arrayLen_writeArrayLen _ _ hc',
      arrayLen_writeArrayLen _ _ (show 3 < 2 ^ 32 by decide), List.append_assoc,
      int_writeUInt _ _ (MessageType.tag_lt _), MessageType.ofTag?_tag, except_ok_bind,
      MessageType.minFieldCount, show ¬ c < 3 by omega, show ¬ 3 < 3 by decide, if_false,
      headers_readsWhole hheaders _, except_map_bind]
    rcases Fields.headers (writeHeaders m.headers) with e | ⟨hs, _⟩
    · rfl
    simp only [except_ok_bind, nullableString_writeStr _ _ hid]
  | ping =>
    simp only [body, Except.ok.injEq] at hbody
    obtain ⟨rfl, rfl⟩ := writeArrayLen_append_inj (by omega) (by decide) hbody.symm
    simp only [parseBody, arrayLen_writeArrayLen _ _ hc',
      arrayLen_writeArrayLen _ _ (show 1 < 2 ^ 32 by decide),
      int_writeUInt _ _ (MessageType.tag_lt _), MessageType.ofTag?_tag, except_ok_bind,
      MessageType.minFieldCount, show ¬ c < 1 by omega, show ¬ 1 < 1 by decide, if_false]
  | close error =>
    simp only [body, Except.ok.injEq, List.append_assoc] at hbody
    obtain ⟨rfl, rfl⟩ := writeArrayLen_append_inj (by omega) (by decide) hbody.symm
    simp only [List.length_append] at hfit
    have herror : (writeNullableStr error).length < 2 ^ 32 := by omega
    simp only [parseBody, arrayLen_writeArrayLen _ _ hc',
      arrayLen_writeArrayLen _ _ (show 2 < 2 ^ 32 by decide), List.append_assoc,
      int_writeUInt _ _ (MessageType.tag_lt _), MessageType.ofTag?_tag, except_ok_bind,
      MessageType.minFieldCount, show ¬ c < 2 by omega, show ¬ 2 < 2 by decide, if_false,
      nullableString_writeNullableStr _ _ herror]
  | invocationBindingFailure | streamBindingFailure | completionBindingFailure =>
    simp [body] at hbody

theorem parseBody_header {n : Nat} {hdr : List UInt8} (h : ArrayHeader n hdr)
    (z : List UInt8) :
    p.parseBody binder (hdr ++ z) = p.parseBody binder (writeArrayLen n ++ z) := by
  simp only [parseBody, arrayLen, readArrayLen_header h, readArrayLen_writeArrayLen h.lt]

end Readers

end Protocol

/-- A body has an envelope when its length is within the limit, and the prefix is the length's
varint. -/
theorem Envelope.writePrefix_eq_ok {n : Nat} {pre : List UInt8} :
    Envelope.writePrefix n = .ok pre ↔ n ≤ Envelope.maxSize ∧ pre = Envelope.varint n := by
  unfold Envelope.writePrefix
  split <;> simp [*, eq_comm]
  omega

/-- Items after the known fields are ignored: a message's envelope reads the same, outcome and
bytes left alike, when its body's array header announces `N' ≥ N` items in any of the three
header forms and any bytes `x` follow the written fields, whatever the binder, with no size limit
set and a value decoder that reads whole items. The outcome includes every failure and every
binding failure of the reading. -/
theorem trailing_items_ignored (p : Protocol) (hlimit : p.maxMessageSize = none)
    (hdec : ReadsWholeItems p.resolver.decode) (binder : InvocationBinder) {m : HubMessage}
    {bytes : List UInt8} (hm : m.toBytes = .ok bytes)
    {N : Nat} {e : List UInt8} (hbody : m.body = .ok (writeArrayLen N ++ e))
    {N' : Nat} {hdr : List UInt8} (hN : N ≤ N') (hhdr : ArrayHeader N' hdr) (x : List UInt8)
    {pre : List UInt8} (hpre : Envelope.writePrefix (hdr ++ e ++ x).length = .ok pre)
    (rest : List UInt8) :
    p.tryParse binder (pre ++ (hdr ++ e ++ x) ++ rest) = p.tryParse binder (bytes ++ rest) := by
  obtain ⟨body, hb, hlen, rfl⟩ := HubMessage.toBytes_eq_ok hm
  rw [hbody, Except.ok.injEq] at hb
  subst hb
  obtain ⟨hlen', rfl⟩ := Envelope.writePrefix_eq_ok.mp hpre
  have hsize : ∀ n, p.checkSize n = .ok () := fun n => by simp [Protocol.checkSize, hlimit]
  have hfit : (writeArrayLen N ++ e).length < 2 ^ 32 := by
    simp [Envelope.maxSize] at hlen ⊢
    omega
  have hread : p.parseBody binder (hdr ++ e ++ x) = p.parseBody binder (writeArrayLen N ++ e) := by
    calc p.parseBody binder (hdr ++ e ++ x)
        = p.parseBody binder (writeArrayLen N' ++ (e ++ x)) := by
          rw [List.append_assoc, p.parseBody_header binder hhdr]
      _ = p.parseBody binder (writeArrayLen N ++ (e ++ [])) :=
          p.parseBody_trailing binder hdec hbody hfit hN hhdr.lt x []
      _ = p.parseBody binder (writeArrayLen N ++ e) := by rw [List.append_nil]
  rw [List.append_assoc, List.append_assoc _ (writeArrayLen N ++ e),
    p.tryParse_of_split_some (Envelope.split_varint hlen' rest),
    p.tryParse_of_split_some (Envelope.split_varint hlen rest), hread, hsize, hsize]

/-- A call of `Send` with one text argument, its header raised from six items to eight in the
16-bit form and two nils after its stream ids, reads as the call itself. -/
theorem invocation_reads_past_trailing_items :
    Protocol.standard.tryParse (MethodTable.toBinder ⟨[("Send", [.string])], []⟩)
        ([23] ++ ([220, 0, 8] ++ [1, 129, 161, 107, 161, 118, 161, 49, 164, 83, 101, 110, 100,
          145, 162, 104, 105, 144] ++ [192, 192]) ++ [7]) =
      Protocol.standard.tryParse (MethodTable.toBinder ⟨[("Send", [.string])], []⟩)
        ([19, 150, 1, 129, 161, 107, 161, 118, 161, 49, 164, 83, 101, 110, 100, 145, 162, 104,
          105, 144] ++ [7]) :=
  @trailing_items_ignored Protocol.standard rfl Value.decode_readsWholeItems
    (MethodTable.toBinder ⟨[("Send", [.string])], []⟩)
    (.invocation ⟨some "1", "Send", [⟨.string, .string "hi"⟩], some [],
      some (Headers.ofList [("k", "v")])⟩)
    [19, 150, 1, 129, 161, 107, 161, 118, 161, 49, 164, 83, 101, 110, 100, 145, 162, 104, 105, 144]
    (HubMessage.toBytes_of_short_body rfl (by decide) rfl)
    6 [1, 129, 161, 107, 161, 118, 161, 49, 164, 83, 101, 110, 100, 145, 162, 104, 105, 144] rfl
    8 [220, 0, 8] (by decide) (.array16 (by decide)) [192, 192] [23]
    (Envelope.writePrefix_of_lt (by decide)) [7]

end HubLink

import HubLink.Proofs.HubCodec
/-!
# Read messages are in the form the writer writes

The reader accepts many byte forms of one message: an empty invocation id or nil, an invocation
of five items without its stream ids, header maps in any key order, integers behind wider markers
than they need, a nil error text, items after the last field. It brings them all to one form: a
message it reads is `HubMessage.Canonical` (no empty invocation id, header map or stream id list,
and a completion that carries an error, a result it claims, or neither), and its values are
those the resolver reads for the types the binder gives (`parseBody_reads`). Its header maps
hold their keys in increasing order, as every header map does.

So writing a message that was read and reading it back gives that message again and consumes
exactly its bytes, when its values read back as themselves and its body fits an envelope; a body
longer than `Envelope.maxSize` is refused by the writer (`tryParse_reencodes`).
-/
namespace HubLink

namespace Headers

theorem insert_ne_empty (key value : String) (acc : Headers) : acc.insert key value ≠ empty := by
  intro h
  have hnil : insertEntry key value acc.entries = [] := congrArg entries h
  cases hacc : acc.entries with
  | nil => simp [hacc, insertEntry] at hnil
  | cons x xs =>
    rw [hacc] at hnil
    simp only [insertEntry] at hnil
    split at hnil
    · cases hnil
    · split at hnil <;> cases hnil

end Headers

namespace Fields

theorem headerEntries_ne_empty : ∀ (n : Nat) {acc h : Headers} {input rest : List UInt8},
    headerEntries acc n input = .ok (h, rest) → acc ≠ .empty ∨ n ≠ 0 → h ≠ .empty
  | 0, acc, h, input, rest, hh => by
    simp only [headerEntries, Except.ok.injEq, Prod.mk.injEq] at hh
    obtain ⟨rfl, -⟩ := hh
    exact fun hne => hne.resolve_right (by simp)
  | n + 1, acc, h, input, rest, hh => by
    simp only [headerEntries] at hh
    obtain ⟨⟨key, r₁⟩, -, hh⟩ := except_bind_eq_ok hh
    obtain ⟨⟨value, r₂⟩, -, hh⟩ := except_bind_eq_ok hh
    simp only at hh
    split at hh
    · cases hh
    · exact fun _ => headerEntries_ne_empty n hh (.inl (Headers.insert_ne_empty key value acc))

theorem headers_ne_empty {input rest : List UInt8} {hs : Option Headers}
    (h : headers input = .ok (hs, rest)) : hs ≠ some .empty := by
  intro hl
  simp only [headers] at h
  obtain ⟨⟨count, r₁⟩, -, h⟩ := except_bind_eq_ok h
  simp only at h
  split at h
  · simp only [Except.ok.injEq, Prod.mk.injEq] at h
    rw [← h.1] at hl
    cases hl
  · next hcount =>
    obtain ⟨⟨entries, r₂⟩, hentries, h⟩ := except_bind_eq_ok h
    simp only [Except.ok.injEq, Prod.mk.injEq] at h
    rw [← h.1, Option.some.injEq] at hl
    exact headerEntries_ne_empty count hentries (.inr hcount) hl

theorem streamIdItems_length : ∀ (n : Nat) {input rest : List UInt8} {ids : List String},
    streamIdItems n input = .ok (ids, rest) → ids.length = n
  | 0, input, rest, ids, h => by
    simp only [streamIdItems, Except.ok.injEq, Prod.mk.injEq] at h
    rw [← h.1]
    rfl
  | n + 1, input, rest, ids, h => by
    simp only [streamIdItems] at h
    obtain ⟨⟨id, r₁⟩, -, h⟩ := except_bind_eq_ok h
    obtain ⟨⟨more, r₂⟩, hmore, h⟩ := except_bind_eq_ok h
    simp only [Except.ok.injEq, Prod.mk.injEq] at h
    rw [← h.1, List.length_cons, streamIdItems_length n hmore]

theorem streamIds_ne {input rest : List UInt8} {ids : Option (List String)}
    (h : streamIds input = .ok (ids, rest)) : ids ≠ some [] := by
  simp only [streamIds] at h
  obtain ⟨⟨count, r₁⟩, -, h⟩ := except_bind_eq_ok h
  simp only at h
  split at h
  · simp only [Except.ok.injEq, Prod.mk.injEq] at h
    rw [← h.1]
    simp
  · next hcount =>
    obtain ⟨⟨items, r₂⟩, hitems, h⟩ := except_bind_eq_ok h
    simp only [Except.ok.injEq, Prod.mk.injEq] at h
    rw [← h.1]
    intro hnil
    simp only [Option.some.injEq] at hnil
    have := streamIdItems_length count hitems
    rw [hnil] at this
    exact hcount this.symm

end Fields

theorem Resolver.formatter_of_readArgument {r : Resolver} {t : ValueType} {field : String}
    {input rest : List UInt8} {a : Argument} (h : r.readArgument t field input = .ok (a, rest)) :
    r.formatter? t = some a.type := by
  unfold Resolver.readArgument at h
  split at h
  · cases h
  · next f hf =>
    split at h
    · simp only [Except.ok.injEq, Prod.mk.injEq] at h
      rw [← h.1]
      exact hf
    · cases h

namespace HubMessage

/-- A message in the one form the reader gives: no empty invocation id, no empty header map, no
empty stream id list, and a completion that carries an error and no result, or a result it
claims and no error, or neither. -/
def Canonical : HubMessage → Prop
  | .invocation m | .streamInvocation m =>
    m.invocationId ≠ some "" ∧ m.headers ≠ some .empty ∧ m.streamIds ≠ some []
  | .streamItem m => m.headers ≠ some .empty
  | .completion m =>
    m.headers ≠ some .empty ∧
      ((m.error.isSome ∧ m.result = none ∧ m.hasResult = false) ∨
        (m.error = none ∧ m.result.isSome ∧ m.hasResult = true) ∨
        (m.error = none ∧ m.result = none ∧ m.hasResult = false))
  | .cancelInvocation m => m.headers ≠ some .empty
  | _ => True

/-- The values a message carries: an invocation's arguments, a stream item, a completion's
result. -/
def values : HubMessage → List Argument
  | .invocation m | .streamInvocation m => m.arguments
  | .streamItem m => [m.item]
  | .completion m => m.result.toList
  | _ => []

/-- The message's values are those the resolver reads for the types the binder gives: an
invocation's arguments for the parameter types of its target, a stream item for its stream's
item type, a completion's result for its invocation's result type. -/
def Bound (r : Resolver) (binder : InvocationBinder) : HubMessage → Prop
  | .invocation m | .streamInvocation m =>
    ∃ types, binder.parameterTypes m.target = .ok types ∧
      List.Forall₂ (fun t a => r.formatter? t = some a.type) types m.arguments
  | .streamItem m =>
    ∃ t, binder.streamItemType m.invocationId = .ok t ∧ r.formatter? t = some m.item.type
  | .completion m =>
    m.resultKind = .nonVoid → ∃ a t, m.result = some a ∧
      binder.returnType m.invocationId = .ok t ∧ r.formatter? t = some a.type
  | _ => True

theorem filter_ne_eq {α : Type} [DecidableEq α] {o : Option α} {x : α} (h : o ≠ some x) :
    o.filter (· ≠ x) = o := by
  cases o with
  | none => rfl
  | some y =>
    have hy : y ≠ x := fun hxy => h (hxy ▸ rfl)
    simp [Option.filter, hy]

/-- A message in the reader's form is the message the reader gives back for it. -/
theorem canon_of_canonical {m : HubMessage} (h : m.Canonical) : m.canon = m := by
  cases m with
  | invocation m | streamInvocation m =>
    obtain ⟨hid, hheaders, hids⟩ := h
    simp only [canon, Invocation.canon, Invocation.canonicalId]
    rw [filter_ne_eq hid, filter_ne_eq hheaders, filter_ne_eq hids]
  | streamItem m =>
    simp only [canon]
    rw [filter_ne_eq (show m.headers ≠ some .empty from h)]
  | completion m =>
    obtain ⟨hheaders, hform⟩ := h
    simp only [canon, Completion.canon]
    rw [filter_ne_eq hheaders]
    obtain ⟨⟨id, error, result, hasResult, headers⟩⟩ := m
    rcases hform with ⟨he, hr, hh⟩ | ⟨he, hr, hh⟩ | ⟨he, hr, hh⟩ <;>
      simp_all [Completion.resultKind]
  | cancelInvocation m =>
    simp only [canon]
    rw [filter_ne_eq (show m.headers ≠ some .empty from h)]
  | ping | close | invocationBindingFailure | streamBindingFailure | completionBindingFailure =>
    rfl

theorem forall₂_rebinds {r : Resolver} {types : List ValueType} {args : List Argument}
    (hargs : List.Forall₂ (fun t a => r.formatter? t = some a.type) types args)
    (hvalues : ∀ a ∈ args, ∀ rest, r.decode a.type (a.encode ++ rest) = .ok (a.value, rest)) :
    List.Forall₂ (fun t a => a.Rebinds r t) types args := by
  induction hargs with
  | nil => exact .nil
  | cons hf _ ih =>
    exact .cons ⟨hf, hvalues _ (by simp)⟩ (ih fun a ha => hvalues a (by simp [ha]))

/-- Values bound to the types the binder gives, each reading back as itself, read back
as the message. -/
theorem Bound.rebinds {r : Resolver} {binder : InvocationBinder} {m : HubMessage}
    (hb : m.Bound r binder)
    (hvalues : ∀ a ∈ m.values, ∀ rest,
      r.decode a.type (a.encode ++ rest) = .ok (a.value, rest)) :
    m.Rebinds r binder := by
  cases m with
  | invocation m | streamInvocation m =>
    obtain ⟨types, htypes, hargs⟩ := hb
    exact ⟨types, htypes, forall₂_rebinds hargs hvalues⟩
  | streamItem m =>
    obtain ⟨t, htype, hf⟩ := hb
    exact ⟨t, htype, hf, hvalues m.item (by simp [values])⟩
  | completion m =>
    intro hk
    obtain ⟨a, t, ha, htype, hf⟩ := hb hk
    exact ⟨a, t, ha, htype, hf, hvalues a (by simp [values, ha])⟩
  | _ => trivial

end HubMessage

namespace Protocol

variable (p : Protocol) (binder : InvocationBinder)

theorem bindArguments_go_formatter : ∀ (types : List ValueType) {input rest : List UInt8}
    {args : List Argument}, bindArguments.go p types input = .ok (args, rest) →
      List.Forall₂ (fun t a => p.resolver.formatter? t = some a.type) types args
  | [], input, rest, args, h => by
    simp only [bindArguments.go, Except.ok.injEq, Prod.mk.injEq] at h
    rw [← h.1]
    exact .nil
  | t :: ts, input, rest, args, h => by
    simp only [bindArguments.go] at h
    obtain ⟨⟨a, r₁⟩, ha, h⟩ := except_bind_eq_ok h
    obtain ⟨⟨as, r₂⟩, has, h⟩ := except_bind_eq_ok h
    simp only [Except.ok.injEq, Prod.mk.injEq] at h
    rw [← h.1]
    exact .cons (Resolver.formatter_of_readArgument ha) (bindArguments_go_formatter ts has)

theorem bindArguments_formatter {count : Nat} {types : List ValueType} {input rest : List UInt8}
    {args : List Argument} (h : p.bindArguments count types input = .ok (args, rest)) :
    List.Forall₂ (fun t a => p.resolver.formatter? t = some a.type) types args := by
  unfold bindArguments at h
  split at h
  · cases h
  · exact bindArguments_go_formatter p types h

theorem filter_ne_ne (o : Option String) : o.filter (· ≠ "") ≠ some "" := by
  cases o with
  | none => simp
  | some s => by_cases hs : s = "" <;> simp [Option.filter, hs]

/-- An invocation the reader builds, from headers and stream ids that are not empty and arguments
read for its target's parameter types, is in the reader's form. -/
theorem invocation_reads {id : Option String} {target : String} {arguments : List Argument}
    {ids : Option (List String)} {headers : Option Headers}
    (hh : headers ≠ some .empty) (hids : ids ≠ some [])
    {types : List ValueType} (htypes : binder.parameterTypes target = .ok types)
    (hargs : List.Forall₂ (fun t a => p.resolver.formatter? t = some a.type) types arguments)
    (streaming : Bool) :
    let m : HubMessage :=
      if streaming then .streamInvocation ⟨id.filter (· ≠ ""), target, arguments, ids, headers⟩
      else .invocation ⟨id.filter (· ≠ ""), target, arguments, ids, headers⟩
    m.Canonical ∧ m.Bound p.resolver binder := by
  cases streaming <;> exact ⟨⟨filter_ne_ne id, hh, hids⟩, ⟨types, htypes, hargs⟩⟩

/-- An invocation read is in the reader's form, with its arguments read for its target's
parameter types. -/
theorem readInvocation_reads {count : Nat} {streaming : Bool} {input : List UInt8}
    {m : HubMessage} (h : p.readInvocation binder count streaming input = .ok m)
    (hwire : m.messageType? ≠ none) :
    m.Canonical ∧ m.Bound p.resolver binder := by
  simp only [readInvocation] at h
  obtain ⟨⟨headers, r₁⟩, hheaders, h⟩ := except_bind_eq_ok h
  obtain ⟨⟨id, r₂⟩, -, h⟩ := except_bind_eq_ok h
  obtain ⟨⟨target, r₃⟩, -, h⟩ := except_bind_eq_ok h
  obtain ⟨⟨argc, r₄⟩, -, h⟩ := except_bind_eq_ok h
  split at h
  · simp only [Except.ok.injEq] at h
    subst h
    exact absurd rfl hwire
  · next arguments r₅ hbound =>
    obtain ⟨types, htypes, hargs⟩ := except_bind_eq_ok hbound
    have hh := Fields.headers_ne_empty hheaders
    have hbind := bindArguments_formatter p hargs
    split at h <;> obtain ⟨⟨ids, r₆⟩, hids, h⟩ := except_bind_eq_ok h
    · simp only [Except.ok.injEq] at h
      subst h
      exact invocation_reads p binder hh (Fields.streamIds_ne hids) htypes hbind streaming
    · simp only [Except.ok.injEq, Prod.mk.injEq] at hids h
      obtain ⟨rfl, -⟩ := hids
      subst h
      exact invocation_reads p binder hh (by simp) htypes hbind streaming

/-- A stream item read is in the reader's form, with its item read for its stream's item
type. -/
theorem readStreamItem_reads {input : List UInt8} {m : HubMessage}
    (h : p.readStreamItem binder input = .ok m) (hwire : m.messageType? ≠ none) :
    m.Canonical ∧ m.Bound p.resolver binder := by
  simp only [readStreamItem] at h
  obtain ⟨⟨headers, r₁⟩, hheaders, h⟩ := except_bind_eq_ok h
  obtain ⟨⟨id, r₂⟩, -, h⟩ := except_bind_eq_ok h
  split at h
  · next item r₃ hbound =>
    obtain ⟨t, ht, hread⟩ := except_bind_eq_ok hbound
    simp only [Except.ok.injEq] at h
    subst h
    exact ⟨Fields.headers_ne_empty hheaders, ⟨t, ht, Resolver.formatter_of_readArgument hread⟩⟩
  · simp only [Except.ok.injEq] at h
    subst h
    exact absurd rfl hwire

/-- A completion read is in the reader's form: it carries what its result kind selects, an
error text, a result read for its invocation's result type, or nothing. -/
theorem readCompletion_reads {count : Nat} {input : List UInt8} {m : HubMessage}
    (h : p.readCompletion binder count input = .ok m) (hwire : m.messageType? ≠ none) :
    m.Canonical ∧ m.Bound p.resolver binder := by
  simp only [readCompletion] at h
  obtain ⟨⟨headers, r₁⟩, hheaders, h⟩ := except_bind_eq_ok h
  obtain ⟨⟨id, r₂⟩, -, h⟩ := except_bind_eq_ok h
  obtain ⟨⟨tag, r₃⟩, -, h⟩ := except_bind_eq_ok h
  have hne := Fields.headers_ne_empty hheaders
  split at h
  · next kind hkind =>
    split at h
    · cases h
    · split at h
      · obtain ⟨⟨error, r₄⟩, -, h⟩ := except_bind_eq_ok h
        simp only [Except.ok.injEq] at h
        subst h
        refine ⟨⟨hne, .inl ⟨by simp, rfl, rfl⟩⟩, fun hk => ?_⟩
        simp [Completion.resultKind] at hk
      · split at h
        · next result r₄ hbound =>
          obtain ⟨t, ht, hread⟩ := except_bind_eq_ok hbound
          simp only [Except.ok.injEq] at h
          subst h
          exact ⟨⟨hne, .inr (.inl ⟨rfl, rfl, rfl⟩)⟩,
            fun _ => ⟨result, t, rfl, ht, Resolver.formatter_of_readArgument hread⟩⟩
        · simp only [Except.ok.injEq] at h
          subst h
          exact absurd rfl hwire
      · simp only [Except.ok.injEq] at h
        subst h
        refine ⟨⟨hne, .inr (.inr ⟨rfl, rfl, rfl⟩)⟩, fun hk => ?_⟩
        simp [Completion.resultKind, Completion.empty] at hk
  · cases h

theorem message_of_bind {x : Except Error HubMessage} {m : HubMessage}
    (h : (x >>= fun m => .ok (ParseOutcome.message m)) = .ok (.message m)) : x = .ok m := by
  obtain ⟨m', hm', h⟩ := except_bind_eq_ok h
  simp only [Except.ok.injEq, ParseOutcome.message.injEq] at h
  rw [hm', h]

/-- A message read from a body is in the reader's form, with its values read for the types the
binder gives. -/
theorem parseBody_reads {body : List UInt8} {m : HubMessage}
    (h : p.parseBody binder body = .ok (.message m)) (hwire : m.messageType? ≠ none) :
    m.Canonical ∧ m.Bound p.resolver binder := by
  simp only [parseBody] at h
  obtain ⟨⟨count, r₁⟩, -, h⟩ := except_bind_eq_ok h
  obtain ⟨⟨tag, r₂⟩, -, h⟩ := except_bind_eq_ok h
  split at h
  · cases h
  · next type htype =>
    split at h
    · cases h
    cases type with
    | invocation | streamInvocation => exact readInvocation_reads p binder (message_of_bind h) hwire
    | streamItem => exact readStreamItem_reads p binder (message_of_bind h) hwire
    | completion => exact readCompletion_reads p binder (message_of_bind h) hwire
    | cancelInvocation =>
      obtain ⟨⟨headers, r₃⟩, hheaders, h⟩ := except_bind_eq_ok h
      obtain ⟨⟨id, r₄⟩, -, h⟩ := except_bind_eq_ok h
      have hm := message_of_bind h
      simp only [Except.ok.injEq] at hm
      subst hm
      exact ⟨Fields.headers_ne_empty hheaders, trivial⟩
    | ping =>
      have hm := message_of_bind h
      simp only [Except.ok.injEq] at hm
      subst hm
      exact ⟨trivial, trivial⟩
    | close =>
      obtain ⟨⟨error, r₃⟩, -, h⟩ := except_bind_eq_ok h
      have hm := message_of_bind h
      simp only [Except.ok.injEq] at hm
      subst hm
      exact ⟨trivial, trivial⟩

end Protocol

theorem HubMessage.body_of_wire {m : HubMessage} (hwire : m.messageType? ≠ none) :
    ∃ body, m.body = .ok body := by
  cases m with
  | invocationBindingFailure | streamBindingFailure | completionBindingFailure =>
    exact absurd rfl hwire
  | _ => exact ⟨_, rfl⟩

/-- A message read from the front of a stream, when it is not a binding failure, is in the
reader's form. Written again, its bytes read back as the same message and are consumed whole,
when its values read back as themselves and its body fits an envelope; a longer body is refused
by the writer. -/
theorem tryParse_reencodes {p : Protocol} (hlimit : p.maxMessageSize = none)
    {binder : InvocationBinder} {s rest : List UInt8} {m : HubMessage}
    (hparse : p.tryParse binder s = .ok (.message m, rest)) (hwire : m.messageType? ≠ none)
    (hvalues : ∀ a ∈ m.values, ∀ t, p.resolver.decode a.type (a.encode ++ t) = .ok (a.value, t)) :
    m.Canonical ∧ ∃ body, m.body = .ok body ∧
      (body.length ≤ Envelope.maxSize → ∃ bytes, m.toBytes = .ok bytes ∧
        ∀ t, p.tryParse binder (bytes ++ t) = .ok (.message m, t)) ∧
      (Envelope.maxSize < body.length →
        m.toBytes = .error (.messageTooLarge body.length Envelope.maxSize)) := by
  obtain ⟨body₀, -, -, hbody₀⟩ := p.tryParse_eq_ok hparse (by simp)
  obtain ⟨hcanon, hbound⟩ := p.parseBody_reads binder hbody₀ hwire
  have hsize : ∀ n, p.checkSize n = .ok () := fun n => by simp [Protocol.checkSize, hlimit]
  obtain ⟨body, hbody⟩ := HubMessage.body_of_wire hwire
  refine ⟨hcanon, body, hbody, fun hfit => ?_, fun hlarge => ?_⟩
  · have hwritten : m.toBytes = .ok (Envelope.varint body.length ++ body) := by
      have hle : ¬ body.length > Envelope.maxSize := Nat.not_lt.mpr hfit
      simp [HubMessage.toBytes, hbody, Envelope.writePrefix, hle, bind, Except.bind]
    have hread := p.parseBody_rebinds binder [] hbody
      (by simp [Envelope.maxSize] at hfit; omega) (hbound.rebinds hvalues)
    rw [List.append_nil, HubMessage.canon_of_canonical hcanon] at hread
    refine ⟨_, hwritten, fun t => ?_⟩
    rw [List.append_assoc]
    exact p.tryParse_varint hfit (hsize _) hread t
  · simp [HubMessage.toBytes, hbody, Envelope.writePrefix, hlarge, bind, Except.bind]

/-- A call of `Send` with one text argument, under an id and one header, read from the bytes it
is written as, is in the reader's form and reads back from its own bytes. -/
theorem reencodes_invocation_with_text :
    let m : HubMessage := .invocation ⟨some "1", "Send", [⟨.string, .string "hi"⟩], none,
      some (Headers.ofList [("k", "v")])⟩
    let binder := MethodTable.toBinder ⟨[("Send", [.string])], []⟩
    Protocol.standard.maxMessageSize = none ∧
      Protocol.standard.tryParse binder [19, 150, 1, 129, 161, 107, 161, 118, 161, 49, 164, 83,
        101, 110, 100, 145, 162, 104, 105, 144] = .ok (.message m, []) ∧
      m.messageType? ≠ none ∧
      (∀ a ∈ m.values, ∀ t,
        Protocol.standard.resolver.decode a.type (a.encode ++ t) = .ok (a.value, t)) ∧
      m.Canonical ∧ ∃ body, m.body = .ok body ∧
        (body.length ≤ Envelope.maxSize → ∃ bytes, m.toBytes = .ok bytes ∧
          ∀ t, Protocol.standard.tryParse binder (bytes ++ t) = .ok (.message m, t)) ∧
        (Envelope.maxSize < body.length →
          m.toBytes = .error (.messageTooLarge body.length Envelope.maxSize)) := by
  intro m binder
  have htext : (⟨.string, .string "hi"⟩ : Argument).ReadsBack Protocol.standard.resolver :=
    Argument.readsBack_string rfl Resolver.standard_decode (by decide)
  have hvalues : ∀ a ∈ m.values, ∀ t,
      Protocol.standard.resolver.decode a.type (a.encode ++ t) = .ok (a.value, t) := by
    intro a ha
    simp only [m, HubMessage.values, List.mem_singleton] at ha
    subst ha
    exact htext.decode
  have hread := @Protocol.parseBody_body Protocol.standard binder [] m _ rfl (by decide)
    ⟨rfl, fun a ha => by rw [List.mem_singleton] at ha; subst ha; exact htext⟩
  have hparse : Protocol.standard.tryParse binder [19, 150, 1, 129, 161, 107, 161, 118, 161, 49,
      164, 83, 101, 110, 100, 145, 162, 104, 105, 144] = .ok (.message m, []) := by
    rw [List.append_nil] at hread
    have h := Protocol.standard.tryParse_varint (by decide) rfl hread []
    rw [Envelope.varint] at h
    exact h
  have hwire : m.messageType? ≠ none := by simp [m, HubMessage.messageType?]
  exact ⟨rfl, hparse, hwire, hvalues, tryParse_reencodes rfl hparse hwire hvalues⟩

end HubLink

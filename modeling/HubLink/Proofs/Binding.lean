import HubLink.Proofs.CanonicalForm
import HubLink.Proofs.SizeLimit
import HubLink.Proofs.WholeItems
/-!
# Values are bound by the binder

A message's values are read with the types the binder gives: an invocation's arguments
with its target's parameter types, in order; a stream item with its stream's item type; a
completion's result with its invocation's result type. When every type the resolver knows is
read as itself, as for a resolver built by registering types, each value read holds a value of
the type the binder gives (`HubMessage.TypedBy`).

When binding fails, the message is a binding failure that carries why: for an invocation, the
target is unknown, or the argument count on the wire differs from the number of parameters, or
the values of the first parameters are read and the next one has no reader or does not decode
(`Protocol.InvocationFault`, `Protocol.FirstFault`); for a stream item or a completion, the
invocation is unknown or its value cannot be read. The failure is stated against the body's
fields as the reader finds them (`Fields.InvocationHead` and the like), and a message is a binding
failure exactly when binding the values those fields hold fails (`Protocol.BindsAsRead`).
-/
namespace HubLink

namespace Resolver

/-- Every type the resolver has a reader for is read as itself, as in a resolver built by
registering types. -/
def ReadsAsItself (r : Resolver) : Prop := ∀ e ∈ r.entries, e.2 = e.1

theorem formatter?_self {r : Resolver} (hr : r.ReadsAsItself) {t f : ValueType}
    (h : r.formatter? t = some f) : f = t := by
  obtain ⟨e, he, rfl⟩ := Option.map_eq_some_iff.mp h
  rw [hr e (List.mem_of_find?_eq_some he)]
  simpa using List.find?_some he

theorem registerAs_readsAsItself {r : Resolver} (hr : r.ReadsAsItself) (t : ValueType) :
    (r.registerAs t t).ReadsAsItself := by
  intro e he
  unfold registerAs at he
  split at he
  · obtain ⟨e', he', rfl⟩ := List.mem_map.mp he
    split
    · rfl
    · exact hr e' he'
  · rcases List.mem_append.mp he with he | he
    · exact hr e he
    · simp only [List.mem_singleton] at he
      rw [he]

theorem registerAll_readsAsItself (ts : List ValueType) :
    ∀ {r : Resolver}, r.ReadsAsItself → (r.registerAll ts).ReadsAsItself := by
  induction ts with
  | nil => exact fun hr => hr
  | cons t ts ih => exact fun hr => ih (registerAs_readsAsItself hr t)

theorem standard_readsAsItself : standard.ReadsAsItself :=
  registerAll_readsAsItself standardTypes (fun _ he => by simp [empty] at he)

/-- Why reading a value of type `t` for `field` from `input` fails with `e`: no reader is
registered for `t`, or the value does not decode as the type `t` is read as. -/
def ReadFault (r : Resolver) (t : ValueType) (field : String) (input : List UInt8)
    (e : BindingError) : Prop :=
  (r.formatter? t = none ∧ e = .noFormatter t.typeName) ∨
    ∃ f d, r.formatter? t = some f ∧ r.decode f input = .error d ∧
      e = BindingError.ofDecode t field d

theorem readArgument_eq_error_iff {r : Resolver} {t : ValueType} {field : String}
    {input : List UInt8} {e : BindingError} :
    r.readArgument t field input = .error e ↔ r.ReadFault t field input e := by
  unfold readArgument ReadFault
  cases hf : r.formatter? t with
  | none => simp [eq_comm]
  | some f =>
    cases hd : r.decode f input with
    | ok v => simp [hd]
    | error d => simp [hd, eq_comm]

/-- Looking up a type and then reading a value of it fails exactly when the lookup fails or the
read does. -/
theorem readArgument_bind_eq_error_iff (r : Resolver) (lookup : Except BindingError ValueType)
    (field : String) (input : List UInt8) (e : BindingError) :
    (lookup >>= fun t => r.readArgument t field input) = .error e ↔
      lookup = .error e ∨ ∃ t, lookup = .ok t ∧ r.ReadFault t field input e := by
  cases lookup with
  | error e' => simp
  | ok t => simp [readArgument_eq_error_iff]

end Resolver

namespace Protocol

variable (p : Protocol) (binder : InvocationBinder)

/-- Why reading values of the types `ts` in order from `input` fails with `e`: the values of the
first `k` types are read, and the value of the next type cannot be. -/
def FirstFault (ts : List ValueType) (input : List UInt8) (e : BindingError) : Prop :=
  ∃ k t args mid, ts[k]? = some t ∧ bindArguments.go p (ts.take k) input = .ok (args, mid) ∧
    p.resolver.ReadFault t "argument" mid e

theorem go_eq_error_iff (ts : List ValueType) :
    ∀ {input : List UInt8} {e : BindingError},
      bindArguments.go p ts input = .error e ↔ p.FirstFault ts input e := by
  induction ts with
  | nil => simp [bindArguments.go, FirstFault]
  | cons t ts ih =>
    intro input e
    constructor
    · intro h
      simp only [bindArguments.go] at h
      rcases except_bind_eq_error h with hread | ⟨⟨a, mid⟩, hread, h⟩
      · exact ⟨0, t, [], input, rfl, rfl, Resolver.readArgument_eq_error_iff.mp hread⟩
      · rcases except_bind_eq_error h with hrest | ⟨_, -, hok⟩
        · obtain ⟨k, t', args, mid', hk, hgo, hfault⟩ := ih.mp hrest
          refine ⟨k + 1, t', a :: args, mid', by simpa using hk, ?_, hfault⟩
          simp [bindArguments.go, hread, hgo, bind, Except.bind]
        · cases hok
    · rintro ⟨k, t', args, mid, hk, hgo, hfault⟩
      cases k with
      | zero =>
        simp only [List.getElem?_cons_zero, Option.some.injEq] at hk
        subst hk
        simp only [List.take_zero, bindArguments.go, Except.ok.injEq, Prod.mk.injEq] at hgo
        obtain ⟨-, rfl⟩ := hgo
        simp [bindArguments.go, Resolver.readArgument_eq_error_iff.mpr hfault, bind, Except.bind]
      | succ k =>
        simp only [List.getElem?_cons_succ] at hk
        simp only [List.take_succ_cons, bindArguments.go] at hgo
        obtain ⟨⟨a, r⟩, hread, hgo⟩ := except_bind_eq_ok hgo
        obtain ⟨⟨as, r'⟩, hgo', hfin⟩ := except_bind_eq_ok hgo
        simp only [Except.ok.injEq, Prod.mk.injEq] at hfin
        obtain ⟨-, rfl⟩ := hfin
        have hrest := ih.mpr ⟨k, t', as, r', hk, hgo', hfault⟩
        simp [bindArguments.go, hread, hrest, bind, Except.bind]

/-- Why binding an invocation's values fails with `e`: the binder does not know the target;
or the argument count on the wire differs from the number of parameters; or the values of the
first parameters are read from `args` and the next one cannot be. -/
def InvocationFault (target : String) (argc : Nat) (args : List UInt8) (e : BindingError) :
    Prop :=
  binder.parameterTypes target = .error e ∨
    ∃ ts, binder.parameterTypes target = .ok ts ∧
      ((argc ≠ ts.length ∧ e = .argumentCount argc ts.length) ∨
        (argc = ts.length ∧ p.FirstFault ts args e))

theorem bindArguments_eq_error_iff (argc : Nat) (ts : List ValueType) (args : List UInt8)
    (e : BindingError) :
    p.bindArguments argc ts args = .error e ↔
      (argc ≠ ts.length ∧ e = .argumentCount argc ts.length) ∨
        (argc = ts.length ∧ p.FirstFault ts args e) := by
  unfold bindArguments
  by_cases hc : argc = ts.length
  · simp [hc, go_eq_error_iff]
  · simp [hc, eq_comm]

theorem bound_eq_error_iff (target : String) (argc : Nat) (args : List UInt8) (e : BindingError) :
    (binder.parameterTypes target >>= fun ts => p.bindArguments argc ts args) = .error e ↔
      p.InvocationFault binder target argc args e := by
  unfold InvocationFault
  cases hts : binder.parameterTypes target with
  | error e' => simp [bind, Except.bind]
  | ok ts => simp [bind, Except.bind, bindArguments_eq_error_iff]

end Protocol

/-! ## The fields a binding reads -/

namespace Fields

/-- `body` is a message body: an array header of `count` items, a type tag naming `type`, then
the type's own fields in `input`. -/
def BodyOf (body : List UInt8) (type : MessageType) (count : Nat) (input : List UInt8) : Prop :=
  ∃ r tag, arrayLen "elementCount" body = .ok (count, r) ∧ int "messageType" r = .ok (tag, input) ∧
    MessageType.ofTag? tag = some type

/-- The fields of an invocation before its arguments, read from `input`: the headers, an
invocation id (an empty one standing for none), the target and the argument count, with the
bytes of the arguments after them in `args`. -/
def InvocationHead (input : List UInt8) (id : Option String) (target : String) (argc : Nat)
    (args : List UInt8) : Prop :=
  ∃ headers r₁ rawId r₂ r₃, Fields.headers input = .ok (headers, r₁) ∧
    nullableString "invocationId" r₁ = .ok (rawId, r₂) ∧ id = rawId.filter (· ≠ "") ∧
    string "target" r₂ = .ok (target, r₃) ∧ arrayLen "arguments" r₃ = .ok (argc, args)

/-- The fields of a stream item before its item, read from `input`: the headers and the
invocation id (none standing for the empty one), with the item's bytes after them in `args`. -/
def ItemHead (input : List UInt8) (id : String) (args : List UInt8) : Prop :=
  ∃ headers r₁ rawId, Fields.headers input = .ok (headers, r₁) ∧
    nullableString "invocationId" r₁ = .ok (rawId, args) ∧ id = rawId.getD ""

/-- The fields of a completion with a result before the result, read from `input`: the headers,
the invocation id (none standing for the empty one) and the result kind tag, with the result's
bytes after them in `args`. -/
def ResultHead (input : List UInt8) (id : String) (headers : Option Headers) (args : List UInt8) :
    Prop :=
  ∃ r₁ rawId r₂ tag, Fields.headers input = .ok (headers, r₁) ∧
    nullableString "invocationId" r₁ = .ok (rawId, r₂) ∧ id = rawId.getD "" ∧
    int "resultKind" r₂ = .ok (tag, args) ∧ ResultKind.ofTag? tag = some .nonVoid

end Fields

/-! ## Each reader binds with its own lookup -/

namespace Protocol

variable (p : Protocol) (binder : InvocationBinder)

/-- An invocation read is a binding failure exactly when binding the values its fields hold
fails, and then carries the binding's error, the canonical invocation id and the target. -/
theorem readInvocation_failure_iff {count : Nat} {streaming : Bool} {input : List UInt8}
    {msg : HubMessage} (h : p.readInvocation binder count streaming input = .ok msg)
    {id : Option String} {target : String} {argc : Nat} {args : List UInt8}
    (hh : Fields.InvocationHead input id target argc args) (e : BindingError) :
    msg = .invocationBindingFailure id target e ↔ p.InvocationFault binder target argc args e := by
  obtain ⟨headers, r₁, rawId, r₂, r₃, hheaders, hid, rfl, htarget, hargc⟩ := hh
  rw [← bound_eq_error_iff]
  simp only [readInvocation, hheaders, hid, htarget, hargc, except_ok_bind] at h
  split at h
  · next e' hbound =>
    simp only [Except.ok.injEq] at h
    subst h
    simp [hbound]
  · next arguments rest hbound =>
    have hne : msg ≠ .invocationBindingFailure (rawId.filter (· ≠ "")) target e := by
      split at h
      · obtain ⟨_, -, h⟩ := except_bind_eq_ok h
        simp only [Except.ok.injEq] at h
        subst h
        split <;> simp
      · simp only [Except.ok.injEq] at h
        subst h
        split <;> simp
    rw [hbound]
    exact ⟨fun h' => absurd h' hne, fun h' => by cases h'⟩

/-- A stream item read is a binding failure exactly when its stream is unknown or its item cannot
be read with the stream's item type, and then carries that error and the invocation id. -/
theorem readStreamItem_failure_iff {input : List UInt8} {msg : HubMessage}
    (h : p.readStreamItem binder input = .ok msg) {id : String} {args : List UInt8}
    (hh : Fields.ItemHead input id args) (e : BindingError) :
    msg = .streamBindingFailure id e ↔ binder.streamItemType id = .error e ∨
      ∃ t, binder.streamItemType id = .ok t ∧ p.resolver.ReadFault t "item" args e := by
  obtain ⟨headers, r₁, rawId, hheaders, hid, rfl⟩ := hh
  simp only [readStreamItem, hheaders, hid, except_ok_bind] at h
  rw [← p.resolver.readArgument_bind_eq_error_iff]
  split at h
  · next item rest hread =>
    simp only [Except.ok.injEq] at h
    subst h
    simp [hread]
  · next e' hread =>
    simp only [Except.ok.injEq] at h
    subst h
    simp [hread]

/-- A completion with a result is read as a binding failure exactly when its invocation is
unknown or its result cannot be read with the invocation's result type, and then carries that
error, the invocation id and the headers. -/
theorem readCompletion_failure_iff {count : Nat} {input : List UInt8} {msg : HubMessage}
    (h : p.readCompletion binder count input = .ok msg) {id : String} {headers : Option Headers}
    {args : List UInt8} (hh : Fields.ResultHead input id headers args) (e : BindingError) :
    msg = .completionBindingFailure id e headers ↔ binder.returnType id = .error e ∨
      ∃ t, binder.returnType id = .ok t ∧ p.resolver.ReadFault t "result" args e := by
  obtain ⟨r₁, rawId, r₂, tag, hheaders, hid, rfl, htag, hkind⟩ := hh
  simp only [readCompletion, hheaders, hid, htag, hkind, except_ok_bind] at h
  rw [← p.resolver.readArgument_bind_eq_error_iff]
  split at h
  · cases h
  · split at h
    · next result rest hread =>
      simp only [Except.ok.injEq] at h
      subst h
      simp [hread]
    · next e' hread =>
      simp only [Except.ok.injEq] at h
      subst h
      simp [hread]

/-! ## From the body to its reader -/

section Body

variable {body input : List UInt8} {type : MessageType} {count : Nat} {msg : HubMessage}

theorem readInvocation_of_parseBody (hb : Fields.BodyOf body type count input)
    (htype : type = .invocation ∨ type = .streamInvocation)
    (h : p.parseBody binder body = .ok (.message msg)) :
    p.readInvocation binder count (type == .streamInvocation) input = .ok msg := by
  obtain ⟨r, tag, hcount, htag, hof⟩ := hb
  simp only [parseBody, hcount, htag, hof, except_ok_bind] at h
  split_ifs at h
  rcases htype with rfl | rfl <;> exact message_of_bind h

theorem readStreamItem_of_parseBody (hb : Fields.BodyOf body .streamItem count input)
    (h : p.parseBody binder body = .ok (.message msg)) :
    p.readStreamItem binder input = .ok msg := by
  obtain ⟨r, tag, hcount, htag, hof⟩ := hb
  simp only [parseBody, hcount, htag, hof, except_ok_bind] at h
  split_ifs at h
  exact message_of_bind h

theorem readCompletion_of_parseBody (hb : Fields.BodyOf body .completion count input)
    (h : p.parseBody binder body = .ok (.message msg)) :
    p.readCompletion binder count input = .ok msg := by
  obtain ⟨r, tag, hcount, htag, hof⟩ := hb
  simp only [parseBody, hcount, htag, hof, except_ok_bind] at h
  split_ifs at h
  exact message_of_bind h

end Body

/-- How a message read from `body` follows from the body's fields and the binder: it is a
binding failure exactly when binding the values the fields hold fails, and it then carries the
error of the first step that failed, with the canonical invocation id (and, for an invocation,
the target; for a completion, the headers). -/
structure BindsAsRead (body : List UInt8) (msg : HubMessage) : Prop where
  invocation : ∀ type count input id target argc args e, Fields.BodyOf body type count input →
    (type = .invocation ∨ type = .streamInvocation) →
    Fields.InvocationHead input id target argc args →
    (msg = .invocationBindingFailure id target e ↔ p.InvocationFault binder target argc args e)
  streamItem : ∀ count input id args e, Fields.BodyOf body .streamItem count input →
    Fields.ItemHead input id args →
    (msg = .streamBindingFailure id e ↔ binder.streamItemType id = .error e ∨
      ∃ t, binder.streamItemType id = .ok t ∧ p.resolver.ReadFault t "item" args e)
  completion : ∀ count input id headers args e, Fields.BodyOf body .completion count input →
    Fields.ResultHead input id headers args →
    (msg = .completionBindingFailure id e headers ↔ binder.returnType id = .error e ∨
      ∃ t, binder.returnType id = .ok t ∧ p.resolver.ReadFault t "result" args e)

theorem parseBody_bindsAsRead {body : List UInt8} {msg : HubMessage}
    (h : p.parseBody binder body = .ok (.message msg)) : p.BindsAsRead binder body msg where
  invocation _ _ _ _ _ _ _ e hb htype hh :=
    p.readInvocation_failure_iff binder (p.readInvocation_of_parseBody binder hb htype h) hh e
  streamItem _ _ _ _ e hb hh :=
    p.readStreamItem_failure_iff binder (p.readStreamItem_of_parseBody binder hb h) hh e
  completion _ _ _ _ _ e hb hh :=
    p.readCompletion_failure_iff binder (p.readCompletion_of_parseBody binder hb h) hh e

end Protocol

/-! ## The values read have the binder's types -/

namespace HubMessage

/-- A message's values hold values of the types the binder gives: an invocation's
arguments, as many as its target has parameters, each of its parameter's type; a stream item's
item, of its stream's item type; a completion's result, when it claims one, of its invocation's
result type. -/
def TypedBy (binder : InvocationBinder) : HubMessage → Prop
  | .invocation m | .streamInvocation m =>
    ∃ ts, binder.parameterTypes m.target = .ok ts ∧
      List.Forall₂ (fun t a => a.hasType t = true) ts m.arguments
  | .streamItem m => ∃ t, binder.streamItemType m.invocationId = .ok t ∧ m.item.hasType t = true
  | .completion m => m.hasResult = true →
    ∃ a t, m.result = some a ∧ binder.returnType m.invocationId = .ok t ∧ a.hasType t = true
  | _ => True

theorem hasType_of_formatter {r : Resolver} (hr : r.ReadsAsItself) {t : ValueType} {a : Argument}
    (h : r.formatter? t = some a.type) : a.hasType t = true := by
  simp [Argument.hasType, Resolver.formatter?_self hr h]

/-- Values read as the types the resolver gives for the binder's types hold values of the binder's
types, when every type is read as itself. -/
theorem Bound.typedBy {r : Resolver} {binder : InvocationBinder} {m : HubMessage}
    (hr : r.ReadsAsItself) (hb : m.Bound r binder) (hc : m.Canonical) : m.TypedBy binder := by
  cases m with
  | invocation m | streamInvocation m =>
    obtain ⟨ts, hts, hargs⟩ := hb
    exact ⟨ts, hts, hargs.imp fun _ _ h => hasType_of_formatter hr h⟩
  | streamItem m =>
    obtain ⟨t, ht, hf⟩ := hb
    exact ⟨t, ht, hasType_of_formatter hr hf⟩
  | completion m =>
    intro hres
    have hkind : m.resultKind = .nonVoid := by
      obtain ⟨-, ⟨-, -, hf⟩ | ⟨he, -, -⟩ | ⟨-, -, hf⟩⟩ := hc
      · simp [hres] at hf
      · simp [Completion.resultKind, he, hres]
      · simp [hres] at hf
    obtain ⟨a, t, ha, ht, hf⟩ := hb hkind
    exact ⟨a, t, ha, ht, hasType_of_formatter hr hf⟩
  | _ => trivial

end HubMessage

/-- A message read from the front of a stream, with a resolver that reads every type it knows as
itself, holds values of the types the binder gives: an invocation's arguments, as many as
its target's parameters and each of its parameter's type; a stream item's item, of its stream's
item type; a completion's result, when it claims one, of its invocation's result type. The
message is a binding failure exactly when binding the values its envelope's body holds fails, and
then carries the error of the first step that failed: for an invocation, the unknown target, the
argument count on the wire against the number of parameters, or the first parameter whose type
has no reader or whose value does not decode; for a stream item or a completion, the unknown
invocation or its value that cannot be read. It carries the canonical invocation id, and for an
invocation the target. -/
theorem read_values_bound_by_table (p : Protocol) (binder : InvocationBinder)
    (hres : p.resolver.ReadsAsItself) {s rest : List UInt8} {msg : HubMessage}
    (h : p.tryParse binder s = .ok (.message msg, rest)) :
    msg.TypedBy binder ∧
      ∃ body, Envelope.split s = .ok (some (body, rest)) ∧ p.BindsAsRead binder body msg := by
  obtain ⟨body, hsplit, -, hbody⟩ := p.tryParse_eq_ok h (by simp)
  refine ⟨?_, body, hsplit, p.parseBody_bindsAsRead binder hbody⟩
  cases hwire : msg.messageType? with
  | none => cases msg <;> simp_all [HubMessage.messageType?, HubMessage.TypedBy]
  | some type =>
    obtain ⟨hcanon, hbound⟩ := p.parseBody_reads binder hbody (by simp [hwire])
    exact hbound.typedBy hres hcanon

/-- An invocation of `Send` with two text arguments and no id, read with a table in which `Send`
takes one text parameter, is a binding failure for the argument count: two given, one expected. -/
theorem send_two_arguments_to_one_parameter :
    let binder : InvocationBinder := MethodTable.toBinder ⟨[("Send", [.string])], []⟩
    let s : List UInt8 := [15, 150, 1, 128, 192, 164, 83, 101, 110, 100, 146, 161, 97, 161, 98, 144]
    let msg : HubMessage := .invocationBindingFailure none "Send" (.argumentCount 2 1)
    Protocol.standard.resolver.ReadsAsItself ∧
      Protocol.standard.tryParse binder s = .ok (.message msg, []) ∧
      msg.TypedBy binder ∧ ∃ body, Envelope.split s = .ok (some (body, [])) ∧
        Protocol.standard.BindsAsRead binder body msg := by
  intro binder s msg
  have hparse : Protocol.standard.tryParse binder s = .ok (.message msg, []) := by rfl
  exact ⟨Resolver.standard_readsAsItself, hparse,
    read_values_bound_by_table Protocol.standard binder Resolver.standard_readsAsItself hparse⟩

end HubLink

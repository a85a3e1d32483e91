import HubLink.Proofs.Binding
/-!
# Which reads fail, whatever the binder

A read of a hub message fails on malformed data; binding the message's values to the types the
binder gives never fails a read, it gives a binding failure. Yet the binder does decide
one thing: an invocation's body is read field by field, and its stream ids (the sixth item, read
only when the body announces more than five) come after its arguments. When binding the arguments
fails, the binding failure is the outcome at once and the stream ids are never read. So the
stream ids of an invocation fail a read only under a binder that binds its arguments.

That is the only way the binder, or the resolver, enters: a read fails with `e` exactly when it
fails with `e` under the empty table, which binds nothing, or its envelope holds an invocation
whose arguments the binder binds and whose stream ids then fail with `e`
(`tryParse_eq_error_iff_unbound`).
-/
namespace HubLink

/-! ## Computations that fail alike -/

/-- Two computations fail alike: each fails with `e` exactly when the other does. -/
def FailAlike {ε α β : Type} (x : Except ε α) (y : Except ε β) : Prop :=
  ∀ e, x = .error e ↔ y = .error e

section FailAlike

variable {ε α β γ : Type}

theorem failAlike_refl (x : Except ε α) : FailAlike x x := fun _ => Iff.rfl

theorem failAlike_ok (a : α) (b : β) : FailAlike (.ok a : Except ε α) (.ok b : Except ε β) := by
  intro e
  simp

theorem failAlike_bind {x : Except ε γ} {f : γ → Except ε α} {g : γ → Except ε β}
    (h : ∀ c, x = .ok c → FailAlike (f c) (g c)) : FailAlike (x >>= f) (x >>= g) := by
  intro e
  cases hx : x with
  | error e' => simp
  | ok c => exact h c hx e

end FailAlike

theorem except_bind_ok_eq_error {ε α β : Type} (x : Except ε α) (f : α → β) (e : ε) :
    (x >>= fun a => .ok (f a)) = .error e ↔ x = .error e := by
  cases x <;> simp

theorem failAlike_map {ε α β γ δ : Type} {x : Except ε α} {y : Except ε β} {f : α → γ}
    {g : β → δ} (h : FailAlike x y) :
    FailAlike (x >>= fun a => .ok (f a)) (y >>= fun b => .ok (g b)) := by
  intro e
  rw [except_bind_ok_eq_error, except_bind_ok_eq_error]
  exact h e

/-! ## The fields a read looks at are read alike -/

namespace Fields

theorem InvocationHead.unique {input : List UInt8} {id id' : Option String}
    {target target' : String} {argc argc' : Nat} {args args' : List UInt8}
    (h : InvocationHead input id target argc args)
    (h' : InvocationHead input id' target' argc' args') :
    id = id' ∧ target = target' ∧ argc = argc' ∧ args = args' := by
  obtain ⟨headers, r₁, rawId, r₂, r₃, hh, hid, rfl, ht, ha⟩ := h
  obtain ⟨headers', r₁', rawId', r₂', r₃', hh', hid', rfl, ht', ha'⟩ := h'
  obtain ⟨-, rfl⟩ := Prod.mk.inj (Except.ok.inj (hh.symm.trans hh'))
  obtain ⟨rfl, rfl⟩ := Prod.mk.inj (Except.ok.inj (hid.symm.trans hid'))
  obtain ⟨rfl, rfl⟩ := Prod.mk.inj (Except.ok.inj (ht.symm.trans ht'))
  obtain ⟨rfl, rfl⟩ := Prod.mk.inj (Except.ok.inj (ha.symm.trans ha'))
  exact ⟨rfl, rfl, rfl, rfl⟩

theorem BodyOf.unique {body input input' : List UInt8} {type type' : MessageType}
    {count count' : Nat} (h : BodyOf body type count input) (h' : BodyOf body type' count' input') :
    type = type' ∧ count = count' ∧ input = input' := by
  obtain ⟨r, tag, hc, ht, hty⟩ := h
  obtain ⟨r', tag', hc', ht', hty'⟩ := h'
  obtain ⟨rfl, rfl⟩ := Prod.mk.inj (Except.ok.inj (hc.symm.trans hc'))
  obtain ⟨rfl, rfl⟩ := Prod.mk.inj (Except.ok.inj (ht.symm.trans ht'))
  exact ⟨Option.some.inj (hty.symm.trans hty'), rfl, rfl⟩

end Fields

namespace Protocol

/-- An invocation's fields in `input`, of a body of `count` items, have their head, their
arguments bind with the binder, and there are more than five items, so the stream ids after the
arguments are read; they fail with `e`. -/
def StreamIdsFault (p : Protocol) (binder : InvocationBinder) (count : Nat) (input : List UInt8)
    (e : Error) : Prop :=
  5 < count ∧ ∃ id target argc args arguments after,
    Fields.InvocationHead input id target argc args ∧
      (binder.parameterTypes target >>= fun ts => p.bindArguments argc ts args) =
        .ok (arguments, after) ∧ Fields.streamIds after = .error e

/-- The first envelope of `s` is whole and within the size limit, and holds an invocation or a
stream invocation whose stream ids fail with `e` once its arguments bind with the binder. -/
def StreamIdsFaultAt (p : Protocol) (binder : InvocationBinder) (s : List UInt8) (e : Error) :
    Prop :=
  ∃ body rest type count input, Envelope.split s = .ok (some (body, rest)) ∧
    p.checkSize body.length = .ok () ∧ Fields.BodyOf body type count input ∧
    (type = .invocation ∨ type = .streamInvocation) ∧ p.StreamIdsFault binder count input e

section Readers

variable (p q : Protocol) (binder binder' : InvocationBinder)

/-- An invocation whose head is read fails only on its stream ids, after its arguments bind. -/
theorem readInvocation_eq_error_of_head {count : Nat} {streaming : Bool} {input : List UInt8}
    {id : Option String} {target : String} {argc : Nat} {args : List UInt8}
    (hh : Fields.InvocationHead input id target argc args) (e : Error) :
    p.readInvocation binder count streaming input = .error e ↔
      5 < count ∧ ∃ arguments after,
        (binder.parameterTypes target >>= fun ts => p.bindArguments argc ts args) =
          .ok (arguments, after) ∧ Fields.streamIds after = .error e := by
  obtain ⟨headers, r₁, rawId, r₂, r₃, hheaders, hid, rfl, htarget, hargc⟩ := hh
  simp only [readInvocation, hheaders, hid, htarget, hargc, except_ok_bind]
  split
  · next e' hbound => simp [hbound]
  · next arguments after hbound =>
    by_cases hc : 5 < count
    · cases hs : Fields.streamIds after <;> simp [hc, hs, hbound]
    · simp [hc]

/-- An invocation whose head is not read fails alike under every binder and resolver. -/
theorem readInvocation_failAlike_of_no_head {count : Nat} {streaming : Bool}
    {input : List UInt8}
    (hno : ∀ id target argc args, ¬ Fields.InvocationHead input id target argc args) :
    FailAlike (p.readInvocation binder count streaming input)
      (q.readInvocation binder' count streaming input) := by
  unfold readInvocation
  refine failAlike_bind fun ⟨headers, r₁⟩ h₁ => failAlike_bind fun ⟨rawId, r₂⟩ h₂ =>
    failAlike_bind fun ⟨target, r₃⟩ h₃ => failAlike_bind fun ⟨argc, args⟩ h₄ => ?_
  exact absurd ⟨headers, r₁, rawId, r₂, r₃, h₁, h₂, rfl, h₃, h₄⟩ (hno _ _ _ _)

/-- An invocation fails as it does under the empty table, or on its stream ids once its
arguments bind. -/
theorem readInvocation_eq_error_iff (count : Nat) (streaming : Bool) (input : List UInt8)
    (e : Error) :
    p.readInvocation binder count streaming input = .error e ↔
      q.readInvocation MethodTable.empty.toBinder count streaming input = .error e ∨
        p.StreamIdsFault binder count input e := by
  by_cases hhead : ∃ id target argc args, Fields.InvocationHead input id target argc args
  · obtain ⟨id, target, argc, args, hh⟩ := hhead
    have hempty :
        (MethodTable.empty.toBinder.parameterTypes target >>= fun ts =>
          q.bindArguments argc ts args) = .error (.unknownTarget target) := rfl
    rw [p.readInvocation_eq_error_of_head binder hh, q.readInvocation_eq_error_of_head _ hh,
      hempty]
    constructor
    · rintro ⟨hc, arguments, after, hbound, hs⟩
      exact .inr ⟨hc, id, target, argc, args, arguments, after, hh, hbound, hs⟩
    · rintro (⟨-, _, _, hbound, -⟩ | ⟨hc, id', target', argc', args', arguments, after, hh', hbound,
        hs⟩)
      · cases hbound
      · obtain ⟨-, rfl, rfl, rfl⟩ := hh.unique hh'
        exact ⟨hc, arguments, after, hbound, hs⟩
  · simp only [not_exists] at hhead
    rw [p.readInvocation_failAlike_of_no_head q binder _ hhead e, or_iff_left]
    rintro ⟨-, i, target, argc, args, -, -, hh, -⟩
    exact hhead i target argc args hh

theorem readStreamItem_failAlike (input : List UInt8) :
    FailAlike (p.readStreamItem binder input) (q.readStreamItem binder' input) := by
  unfold readStreamItem
  refine failAlike_bind fun ⟨headers, r₁⟩ _ => failAlike_bind fun ⟨rawId, r₂⟩ _ => ?_
  dsimp only
  split <;> split <;> exact failAlike_ok _ _

theorem readCompletion_failAlike (count : Nat) (input : List UInt8) :
    FailAlike (p.readCompletion binder count input) (q.readCompletion binder' count input) := by
  unfold readCompletion
  refine failAlike_bind fun ⟨headers, r₁⟩ _ => failAlike_bind fun ⟨rawId, r₂⟩ _ =>
    failAlike_bind fun ⟨tag, r₃⟩ _ => ?_
  dsimp only
  split
  · next kind _ =>
    split
    · exact failAlike_refl _
    · cases kind with
      | error => exact failAlike_refl _
      | nonVoid => dsimp only; split <;> split <;> exact failAlike_ok _ _
      | void => exact failAlike_refl _
  · exact failAlike_refl _

theorem parseBody_failAlike_of_not_invocation {body : List UInt8}
    (hno : ∀ type count input, Fields.BodyOf body type count input →
      type ≠ .invocation ∧ type ≠ .streamInvocation) :
    FailAlike (p.parseBody binder body) (q.parseBody binder' body) := by
  unfold parseBody
  refine failAlike_bind fun ⟨count, r₁⟩ h₁ => failAlike_bind fun ⟨tag, input⟩ h₂ => ?_
  dsimp only
  split
  · exact failAlike_refl _
  · next type htype =>
    split
    · exact failAlike_refl _
    · have hb : Fields.BodyOf body type count input := ⟨r₁, tag, h₁, h₂, htype⟩
      cases type with
      | invocation => exact absurd rfl (hno _ _ _ hb).1
      | streamInvocation => exact absurd rfl (hno _ _ _ hb).2
      | streamItem => exact failAlike_map (p.readStreamItem_failAlike q binder binder' input)
      | completion => exact failAlike_map (p.readCompletion_failAlike q binder binder' count input)
      | cancelInvocation | ping | close => exact failAlike_refl _

/-- A body fails as it does under the empty table, or on the stream ids of the invocation it
holds once its arguments bind. -/
theorem parseBody_eq_error_iff (body : List UInt8) (e : Error) :
    p.parseBody binder body = .error e ↔ q.parseBody MethodTable.empty.toBinder body = .error e ∨
      ∃ type count input, Fields.BodyOf body type count input ∧
        (type = .invocation ∨ type = .streamInvocation) ∧
          p.StreamIdsFault binder count input e := by
  by_cases hinv : ∃ type count input, Fields.BodyOf body type count input ∧
      (type = .invocation ∨ type = .streamInvocation)
  · obtain ⟨type, count, input, hb, htype⟩ := hinv
    have hfault : (∃ type count input, Fields.BodyOf body type count input ∧
          (type = .invocation ∨ type = .streamInvocation) ∧ p.StreamIdsFault binder count input e) ↔
        p.StreamIdsFault binder count input e := by
      constructor
      · rintro ⟨type', count', input', hb', -, hf⟩
        obtain ⟨-, rfl, rfl⟩ := hb.unique hb'
        exact hf
      · exact fun hf => ⟨type, count, input, hb, htype, hf⟩
    have hmin : type.minFieldCount = 5 := by rcases htype with rfl | rfl <;> rfl
    obtain ⟨r, tag, hcount, htag, hof⟩ := hb
    rw [hfault]
    simp only [parseBody, hcount, htag, hof, except_ok_bind, hmin]
    by_cases hc : count < 5
    · simp only [hc, if_true]
      rw [or_iff_left fun hf => absurd hf.1 (by omega)]
    · rcases htype with rfl | rfl <;>
        simp [hc, except_bind_ok_eq_error, p.readInvocation_eq_error_iff q binder]
  · simp only [not_exists, not_and] at hinv
    rw [p.parseBody_failAlike_of_not_invocation q binder _
      (fun type count input hb =>
        ⟨fun h => hinv _ _ _ hb (.inl h), fun h => hinv _ _ _ hb (.inr h)⟩), or_iff_left]
    rintro ⟨type, count, input, hb, htype, -⟩
    exact hinv type count input hb htype

end Readers

end Protocol

/-- A read fails with `e` exactly when it fails with `e` under the empty table, with any resolver
and the same size limit, or when its first envelope holds an invocation or a stream invocation
of more than five items whose arguments the binder binds and whose stream ids then fail with `e`.
So the registrations decide whether a read fails only through such stream ids: binding the
arguments fails before they are read, giving a binding failure, and every other fault of an
envelope fails the read under every binder and resolver. -/
theorem tryParse_eq_error_iff_unbound (p : Protocol) (r : Resolver) (binder : InvocationBinder)
    (s : List UInt8) (e : Error) :
    p.tryParse binder s = .error e ↔
      (⟨r, p.maxMessageSize⟩ : Protocol).tryParse MethodTable.empty.toBinder s = .error e ∨
        p.StreamIdsFaultAt binder s e := by
  have hsize : ∀ n, (⟨r, p.maxMessageSize⟩ : Protocol).checkSize n = p.checkSize n := fun _ => rfl
  cases hsplit : Envelope.split s with
  | error e' => simp [Protocol.tryParse, hsplit, Protocol.StreamIdsFaultAt, bind, Except.bind]
  | ok o =>
    cases o with
    | none =>
      simp only [Protocol.tryParse, hsplit, Protocol.StreamIdsFaultAt, hsize, bind, Except.bind]
      simp
    | some br =>
      obtain ⟨body, rest⟩ := br
      rw [Protocol.tryParse_of_split_some _ hsplit, Protocol.tryParse_of_split_some _ hsplit,
        hsize]
      cases hc : p.checkSize body.length with
      | error e' => simp [hc, Protocol.StreamIdsFaultAt, hsplit, bind, Except.bind]
      | ok u =>
        simp only [except_ok_bind, except_bind_ok_eq_error _ (fun o => (o, rest)),
          p.parseBody_eq_error_iff ⟨r, p.maxMessageSize⟩ binder]
        simp [Protocol.StreamIdsFaultAt, hsplit, hc]

/-- An invocation of `f` with no arguments, of six items whose sixth, the stream ids, is the
number 7: a table in which `f` takes no parameters binds the arguments and then fails the read on
the stream ids, while the empty table gives a binding failure for the unknown target. -/
theorem stream_ids_read_only_when_bound :
    Protocol.standard.tryParse (MethodTable.toBinder ⟨[("f", [])], []⟩)
        [0x08, 0x96, 0x01, 0x80, 0xC0, 0xA1, 0x66, 0x90, 0x07] =
      .error (.field "streamIds" .array (.read .typeMismatch)) ∧
    Protocol.standard.tryParse MethodTable.empty.toBinder
        [0x08, 0x96, 0x01, 0x80, 0xC0, 0xA1, 0x66, 0x90, 0x07] =
      .ok (.message (.invocationBindingFailure none "f" (.unknownTarget "f")), []) :=
  ⟨rfl, rfl⟩

end HubLink

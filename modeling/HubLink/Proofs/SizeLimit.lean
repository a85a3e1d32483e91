import HubLink.Proofs.LengthPrefix
import HubLink.Proofs.MessageBuffer
/-!
# The size limit is read off the length prefix

A read refuses a message over the size limit as soon as the length prefix in front of it is
complete: the length it announces is checked while the body is still arriving, and the same
length, now the body's, once the body is whole, before the body is read. Nothing else a read does
reports a message too large: every failure of reading a body is malformed data
(`Protocol.parseBody_fails`). So the read fails with `messageTooLarge` exactly when the limit is
set and the input starts with a complete prefix announcing more (`tryParse_messageTooLarge_iff`),
whatever the prefix's width and whatever part of the body has arrived.

A message buffer pushes its bytes through the same read, so a run of pushes fails with
`messageTooLarge` exactly when it stops on such a prefix (`pushAll_messageTooLarge_iff`).
-/
namespace HubLink

/-- Every failure of `x` satisfies `P`. -/
def FailsWith {ε α : Type} (P : ε → Prop) (x : Except ε α) : Prop := ∀ e, x = .error e → P e

section FailsWith

variable {ε α β : Type} {P : ε → Prop}

theorem failsWith_ok (a : α) : FailsWith P (.ok a : Except ε α) := by
  intro e h
  cases h

theorem failsWith_error {e : ε} (h : P e) : FailsWith P (.error e : Except ε α) := by
  intro e' h'
  cases h'
  exact h

theorem failsWith_bind {x : Except ε α} {f : α → Except ε β} (hx : FailsWith P x)
    (hf : ∀ a, FailsWith P (f a)) : FailsWith P (x >>= f) := by
  intro e h
  cases hx' : x with
  | error e' =>
    rw [hx'] at h
    cases h
    exact hx e hx'
  | ok a =>
    rw [hx'] at h
    exact hf a e h

end FailsWith

theorem except_bind_eq_error {ε α β : Type} {x : Except ε α} {f : α → Except ε β} {e : ε}
    (h : x >>= f = .error e) : x = .error e ∨ ∃ a, x = .ok a ∧ f a = .error e := by
  cases x with
  | error e' =>
    cases h
    exact .inl rfl
  | ok a => exact .inr ⟨a, rfl, h⟩

/-- The error reports malformed hub data. -/
def Error.InvalidData (e : Error) : Prop := e.kind = "InvalidData"

/-! ## Reading a body fails only on malformed data -/

namespace Fields

theorem lift_fails {α : Type} (name : String) (shape : FieldShape)
    (x : Except MsgPack.ReadError (α × List UInt8)) :
    FailsWith Error.InvalidData (lift name shape x) := by
  cases x with
  | ok r => exact failsWith_ok r
  | error e => exact failsWith_error rfl

theorem arrayLen_fails (name : String) (input : List UInt8) :
    FailsWith Error.InvalidData (arrayLen name input) :=
  lift_fails _ _ _

theorem mapLen_fails (name : String) (input : List UInt8) :
    FailsWith Error.InvalidData (mapLen name input) :=
  lift_fails _ _ _

theorem int_fails (name : String) (input : List UInt8) :
    FailsWith Error.InvalidData (int name input) :=
  lift_fails _ _ _

theorem string_fails (name : String) (input : List UInt8) :
    FailsWith Error.InvalidData (string name input) := by
  unfold string
  refine failsWith_bind (lift_fails _ _ _) fun ⟨len, rest⟩ => ?_
  dsimp only
  split
  · exact failsWith_error rfl
  · split
    · exact failsWith_ok _
    · exact failsWith_error rfl

theorem nullableString_fails (name : String) (input : List UInt8) :
    FailsWith Error.InvalidData (nullableString name input) := by
  unfold nullableString
  split
  · exact failsWith_ok _
  · exact failsWith_bind (string_fails _ _) fun _ => failsWith_ok _

theorem headerEntries_fails (n : Nat) :
    ∀ (acc : Headers) (input : List UInt8),
      FailsWith Error.InvalidData (headerEntries acc n input) := by
  induction n with
  | zero => exact fun acc input => failsWith_ok _
  | succ n ih =>
    intro acc input
    refine failsWith_bind (string_fails _ _) fun ⟨key, r₁⟩ => ?_
    refine failsWith_bind (string_fails _ _) fun ⟨value, r₂⟩ => ?_
    dsimp only
    split
    · exact failsWith_error rfl
    · exact ih _ _

theorem headers_fails (input : List UInt8) : FailsWith Error.InvalidData (headers input) := by
  unfold headers
  refine failsWith_bind (mapLen_fails _ _) fun ⟨count, rest⟩ => ?_
  dsimp only
  split
  · exact failsWith_ok _
  · exact failsWith_bind (headerEntries_fails _ _ _) fun _ => failsWith_ok _

theorem streamIdItems_fails (n : Nat) :
    ∀ input : List UInt8, FailsWith Error.InvalidData (streamIdItems n input) := by
  induction n with
  | zero => exact fun input => failsWith_ok _
  | succ n ih =>
    intro input
    refine failsWith_bind (string_fails _ _) fun ⟨id, r₁⟩ => ?_
    exact failsWith_bind (ih _) fun _ => failsWith_ok _

theorem streamIds_fails (input : List UInt8) : FailsWith Error.InvalidData (streamIds input) := by
  unfold streamIds
  refine failsWith_bind (arrayLen_fails _ _) fun ⟨count, rest⟩ => ?_
  dsimp only
  split
  · exact failsWith_ok _
  · exact failsWith_bind (streamIdItems_fails _ _) fun _ => failsWith_ok _

end Fields

namespace Protocol

variable (p : Protocol) (binder : InvocationBinder)

-- a binding that fails gives a binding failure, never an error
theorem readInvocation_fails (count : Nat) (streaming : Bool) (input : List UInt8) :
    FailsWith Error.InvalidData (p.readInvocation binder count streaming input) := by
  unfold readInvocation
  refine failsWith_bind (Fields.headers_fails _) fun ⟨headers, r₁⟩ => ?_
  refine failsWith_bind (Fields.nullableString_fails _ _) fun ⟨id, r₂⟩ => ?_
  refine failsWith_bind (Fields.string_fails _ _) fun ⟨target, r₃⟩ => ?_
  refine failsWith_bind (Fields.arrayLen_fails _ _) fun ⟨argc, r₄⟩ => ?_
  dsimp only
  split
  · exact failsWith_ok _
  · split
    · exact failsWith_bind (Fields.streamIds_fails _) fun _ => failsWith_ok _
    · exact failsWith_bind (failsWith_ok _) fun _ => failsWith_ok _

theorem readStreamItem_fails (input : List UInt8) :
    FailsWith Error.InvalidData (p.readStreamItem binder input) := by
  unfold readStreamItem
  refine failsWith_bind (Fields.headers_fails _) fun ⟨headers, r₁⟩ => ?_
  refine failsWith_bind (Fields.nullableString_fails _ _) fun ⟨id, r₂⟩ => ?_
  dsimp only
  split
  · exact failsWith_ok _
  · exact failsWith_ok _

theorem readCompletion_fails (count : Nat) (input : List UInt8) :
    FailsWith Error.InvalidData (p.readCompletion binder count input) := by
  unfold readCompletion
  refine failsWith_bind (Fields.headers_fails _) fun ⟨headers, r₁⟩ => ?_
  refine failsWith_bind (Fields.nullableString_fails _ _) fun ⟨id, r₂⟩ => ?_
  refine failsWith_bind (Fields.int_fails _ _) fun ⟨tag, r₃⟩ => ?_
  dsimp only
  split
  · split
    · exact failsWith_error rfl
    · split
      · exact failsWith_bind (Fields.nullableString_fails _ _) fun _ => failsWith_ok _
      · split
        · exact failsWith_ok _
        · exact failsWith_ok _
      · exact failsWith_ok _
  · exact failsWith_error rfl

/-- Every failure of reading a body reports malformed data. -/
theorem parseBody_fails (body : List UInt8) :
    FailsWith Error.InvalidData (p.parseBody binder body) := by
  unfold parseBody
  refine failsWith_bind (Fields.arrayLen_fails _ _) fun ⟨count, r₁⟩ => ?_
  refine failsWith_bind (Fields.int_fails _ _) fun ⟨tag, r₂⟩ => ?_
  dsimp only
  split
  · exact failsWith_ok _
  · split
    · exact failsWith_error rfl
    · split
      · exact failsWith_bind (readInvocation_fails p binder _ _ _) fun _ => failsWith_ok _
      · exact failsWith_bind (readInvocation_fails p binder _ _ _) fun _ => failsWith_ok _
      · exact failsWith_bind (readStreamItem_fails p binder _) fun _ => failsWith_ok _
      · exact failsWith_bind (readCompletion_fails p binder _ _) fun _ => failsWith_ok _
      · refine failsWith_bind (Fields.headers_fails _) fun _ => ?_
        refine failsWith_bind (Fields.nullableString_fails _ _) fun _ => ?_
        exact failsWith_bind (failsWith_ok _) fun _ => failsWith_ok _
      · exact failsWith_bind (failsWith_ok _) fun _ => failsWith_ok _
      · refine failsWith_bind (Fields.nullableString_fails _ _) fun _ => ?_
        exact failsWith_bind (failsWith_ok _) fun _ => failsWith_ok _

theorem checkSize_eq_error_iff (n : Nat) (e : Error) :
    p.checkSize n = .error e ↔ ∃ max, p.maxMessageSize = some max ∧ max < n ∧
      e = .messageTooLarge n max := by
  unfold checkSize
  split
  · next max hmax =>
    split_ifs with hlt
    · simp only [Except.error.injEq, hmax, Option.some.injEq, exists_eq_left']
      exact ⟨fun h => ⟨hlt, h.symm⟩, fun h => h.2.symm⟩
    · simp only [false_iff, not_exists, not_and, hmax, Option.some.injEq]
      rintro _ rfl h
      omega
  · next hnone => simp [hnone]

end Protocol

/-! ## The prefix decides -/

namespace Envelope

/-- The input starts with a complete length prefix that announces a body of `n` bytes. -/
def Announces (s : List UInt8) (n : Nat) : Prop :=
  ∃ cont last tail, s = cont ++ last :: tail ∧ CompletePrefix cont last ∧
    prefixValue (cont ++ [last]) = n

theorem Announces.unique {s : List UInt8} {n n' : Nat} (h : Announces s n) (h' : Announces s n') :
    n = n' := by
  obtain ⟨cont, last, tail, rfl, hc, rfl⟩ := h
  obtain ⟨cont', last', tail', hs, hc', rfl⟩ := h'
  have hpre := prefixBytes_complete hc tail
  rw [hs, prefixBytes_complete hc' tail', Option.some.injEq] at hpre
  rw [hpre]

end Envelope

namespace Protocol

variable (p : Protocol) (binder : InvocationBinder)

/-- Behind a complete prefix, a read first checks the announced length against the limit, then
reads the body if it is whole and waits otherwise. -/
theorem tryParse_complete {cont : List UInt8} {last : UInt8}
    (hc : Envelope.CompletePrefix cont last) (tail : List UInt8) :
    p.tryParse binder (cont ++ last :: tail) =
      (p.checkSize (Envelope.prefixValue (cont ++ [last])) >>= fun _ =>
        if Envelope.prefixValue (cont ++ [last]) ≤ tail.length then do
          let o ← p.parseBody binder (tail.take (Envelope.prefixValue (cont ++ [last])))
          .ok (o, tail.drop (Envelope.prefixValue (cont ++ [last])))
        else .ok (.incomplete, cont ++ last :: tail)) := by
  have hsplit := Envelope.split_complete hc tail
  by_cases hfit : Envelope.prefixValue (cont ++ [last]) ≤ tail.length
  · rw [if_pos hfit] at hsplit
    rw [tryParse_of_split_some p hsplit, List.length_take, Nat.min_eq_left hfit]
    simp only [if_pos hfit]
  · rw [if_neg hfit] at hsplit
    simp only [tryParse, hsplit, Envelope.peekLength_complete hc tail, if_neg hfit, bind,
      Except.bind]

theorem tryParse_unfinished {s : List UInt8} (hs : (∀ b ∈ s, 0x80 ≤ b) ∧ s.length < 5) :
    p.tryParse binder s = .ok (.incomplete, s) :=
  p.tryParse_of_pending ⟨Envelope.split_unfinished hs, by simp [Envelope.peekLength_unfinished hs]⟩
    binder

theorem tryParse_refused {s : List UInt8} (hs : Envelope.Refused s) :
    p.tryParse binder s = .error .envelopeTooLarge := by
  simp [tryParse, Envelope.split_refused hs, bind, Except.bind]

/-- A read fails with a message too large exactly when the limit is set and the input starts
with a complete prefix announcing more: the error gives the announced length and the limit. -/
theorem tryParse_messageTooLarge_iff (s : List UInt8) (size max : Nat) :
    p.tryParse binder s = .error (.messageTooLarge size max) ↔
      p.maxMessageSize = some max ∧ max < size ∧ Envelope.Announces s size := by
  constructor
  · intro h
    rcases Envelope.prefix_cases s with hs | hs | ⟨cont, last, tail, rfl, hc⟩
    · rw [tryParse_unfinished p binder hs] at h
      cases h
    · rw [tryParse_refused p binder hs] at h
      cases h
    · rw [tryParse_complete p binder hc] at h
      rcases except_bind_eq_error h with hsize | ⟨_, -, hbody⟩
      · obtain ⟨max', hmax, hlt, he⟩ := (checkSize_eq_error_iff p _ _).mp hsize
        cases he
        exact ⟨hmax, hlt, cont, last, tail, rfl, hc, rfl⟩
      · split at hbody
        · rcases except_bind_eq_error hbody with hparse | ⟨_, -, hok⟩
          · exact absurd (p.parseBody_fails binder _ _ hparse)
              (by simp [Error.InvalidData, Error.kind])
          · cases hok
        · cases hbody
  · rintro ⟨hmax, hlt, cont, last, tail, rfl, hc, rfl⟩
    have hsize : p.checkSize (Envelope.prefixValue (cont ++ [last])) =
        .error (.messageTooLarge (Envelope.prefixValue (cont ++ [last])) max) :=
      (checkSize_eq_error_iff p _ _).mpr ⟨max, hmax, hlt, rfl⟩
    rw [tryParse_complete p binder hc, hsize]
    rfl

theorem not_announces_of_pending {t : List UInt8} (hp : p.Pending t) {size max : Nat}
    (hmax : p.maxMessageSize = some max) (hlt : max < size) : ¬ Envelope.Announces t size := by
  intro ha
  have h :=
    (tryParse_messageTooLarge_iff p MethodTable.empty.toBinder t size max).mpr ⟨hmax, hlt, ha⟩
  rw [tryParse_of_pending p hp] at h
  cases h

end Protocol

/-! ## Pushes stop on the prefix -/

namespace MessageBuffer

variable (p : Protocol) (binder : InvocationBinder)

theorem drain_error : ∀ (fuel : Nat) (b : MessageBuffer) (acc : List HubMessage) {e : Error},
    (b.drain p binder acc fuel).1 = .error e →
      p.tryParse binder (b.drain p binder acc fuel).2.bytes = .error e
  | 0, b, acc, e, h => by simp [drain] at h
  | fuel + 1, b, acc, e, h => by
    by_cases hready : ∀ needed, b.state = .waitingForBody needed → needed ≤ b.bytes.length
    · rw [drain_succ p binder hready] at h ⊢
      rcases hparse : p.tryParse binder b.bytes with e' | ⟨_ | m | tag, rest⟩ <;>
        simp only [hparse] at h ⊢
      · cases h
        rfl
      · cases h
      · exact drain_error fuel _ _ h
      · exact drain_error fuel _ _ h
    · obtain ⟨needed, hs, hlt⟩ :
          ∃ needed, b.state = .waitingForBody needed ∧ b.bytes.length < needed := by
        simpa using hready
      simp [drain, hs, hlt] at h

theorem push_error {b : MessageBuffer} {data : List UInt8} {e : Error}
    (h : (b.push p binder data).1 = .error e) :
    p.tryParse binder (b.push p binder data).2.bytes = .error e :=
  drain_error p binder _ _ _ h

/-- A push into a settled buffer that succeeds leaves bytes whose front envelope is still
arriving, and a settled buffer. -/
theorem push_ok {b : MessageBuffer} (hb : Settled p b) {data : List UInt8} {ms : List HubMessage}
    (h : (b.push p binder data).1 = .ok ms) : Settled p (b.push p binder data).2 := by
  obtain ⟨hspec, -⟩ := push_spec p binder hb data 0
  cases hr : (p.readAll (fun _ => binder) 0 (b.bytes ++ data)).error with
  | some e =>
    simp only [hr] at hspec
    rw [hspec] at h
    cases h
  | none =>
    obtain ⟨hpush, hsettled⟩ := push_of_ok p binder hb data 0 hr
    rw [hpush]
    exact hsettled

/-- A push into a settled buffer fails with a message too large exactly when the bytes it stops
on start with a complete prefix announcing more than the limit. -/
theorem push_messageTooLarge_iff {b : MessageBuffer} (hb : Settled p b) (data : List UInt8)
    (size max : Nat) :
    (b.push p binder data).1 = .error (.messageTooLarge size max) ↔
      p.maxMessageSize = some max ∧ max < size ∧
        Envelope.Announces (b.push p binder data).2.bytes size := by
  rw [← p.tryParse_messageTooLarge_iff binder]
  constructor
  · exact push_error p binder
  · intro h
    cases hpush : (b.push p binder data).1 with
    | error e =>
      have he := push_error p binder hpush
      rw [h] at he
      cases he
      rfl
    | ok ms =>
      rw [p.tryParse_of_pending (push_ok p binder hb hpush).1] at h
      cases h

/-- Pushes into a settled buffer stop with a message too large exactly when the buffer they
leave starts with a complete prefix announcing more than the limit. -/
theorem pushAll_messageTooLarge_iff :
    ∀ (chunks : List (List UInt8 × InvocationBinder)) {b : MessageBuffer}, Settled p b →
      ∀ size max, (b.pushAll p chunks).error = some (.messageTooLarge size max) ↔
        p.maxMessageSize = some max ∧ max < size ∧
          Envelope.Announces (b.pushAll p chunks).buffer.bytes size
  | [], b, hb, size, max => by
    simp only [pushAll, reduceCtorEq, false_iff, not_and]
    exact fun hmax hlt => p.not_announces_of_pending hb.1 hmax hlt
  | (data, binder) :: chunks, b, hb, size, max => by
    simp only [pushAll]
    cases hpush : b.push p binder data with
    | mk r b' =>
      cases r with
      | error e =>
        have hiff := push_messageTooLarge_iff p binder hb data size max
        rw [hpush] at hiff
        simpa using hiff
      | ok ms =>
        have hb' : Settled p b' := by
          have := push_ok p binder hb (show (b.push p binder data).1 = .ok ms by rw [hpush])
          rwa [hpush] at this
        exact pushAll_messageTooLarge_iff chunks hb' size max

end MessageBuffer

/-- With a size limit `m`, a read of an input that starts with a complete length prefix, of any
width, announcing `L` bytes fails with a message too large, giving `L` and `m`, when `L > m`,
whether the body has arrived in full, in part or not at all; when `L ≤ m` it never fails that
way. Without a limit no read fails that way. A run of pushes into an empty message buffer fails
with a message too large exactly when the bytes it stops on start with a complete prefix
announcing more than the limit: the push that fails is the first after which such a prefix is
at the front of the unread bytes. -/
theorem size_limit_read_off_prefix (p : Protocol) (binder : InvocationBinder) :
    (∀ m s L, p.maxMessageSize = some m → Envelope.Announces s L →
      (m < L → p.tryParse binder s = .error (.messageTooLarge L m)) ∧
      (L ≤ m → ∀ size max, p.tryParse binder s ≠ .error (.messageTooLarge size max))) ∧
    (p.maxMessageSize = none → ∀ s size max, p.tryParse binder s ≠ .error (.messageTooLarge size max)) ∧
    (∀ chunks size max, (MessageBuffer.empty.pushAll p chunks).error = some (.messageTooLarge size max) ↔
      p.maxMessageSize = some max ∧ max < size ∧
        Envelope.Announces (MessageBuffer.empty.pushAll p chunks).buffer.bytes size) := by
  refine ⟨fun m s L hm ha => ⟨fun hlt => ?_, fun hle size max h => ?_⟩, fun hnone s size max h => ?_,
    fun chunks size max => MessageBuffer.pushAll_messageTooLarge_iff p chunks
      (MessageBuffer.settled_empty p) size max⟩
  · exact (p.tryParse_messageTooLarge_iff binder s L m).mpr ⟨hm, hlt, ha⟩
  · obtain ⟨hmax, hlt, ha'⟩ := (p.tryParse_messageTooLarge_iff binder s size max).mp h
    rw [hm, Option.some.injEq] at hmax
    rw [← ha.unique ha'] at hlt
    omega
  · obtain ⟨hmax, -⟩ := (p.tryParse_messageTooLarge_iff binder s size max).mp h
    rw [hnone] at hmax
    cases hmax

end HubLink

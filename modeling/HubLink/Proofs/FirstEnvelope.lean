import HubLink.Hub.Parse
import HubLink.Proofs.Envelope
/-!
A read of a hub message is decided by the first envelope of its input. While that envelope is
still arriving the read is incomplete and consumes nothing (`Pending`), unless the size limit
refuses the length its prefix announces. Once the envelope is whole, the read consumes exactly
it, and reads the same, whatever follows; a read that fails fails the same way whatever
follows (`tryParse_decided_by_first_envelope`). Only the read of a whole envelope looks at the
binder.

A buffer that waits for `messageLength` bytes before reading again never waits too long: the
minimal prefix of a length is never longer than the prefix that announced it.
-/
namespace HubLink

theorem except_bind_eq_ok {ε α β : Type} {x : Except ε α} {f : α → Except ε β} {b : β}
    (h : x >>= f = .ok b) : ∃ a, x = .ok a ∧ f a = .ok b := by
  cases x with
  | error e => cases h
  | ok a => exact ⟨a, rfl, h⟩

namespace Protocol

variable (p : Protocol)

/-- The front of the input is an envelope still arriving, and the size limit does not refuse
the length its prefix announces. -/
def Pending (t : List UInt8) : Prop :=
  Envelope.split t = .ok none ∧ ∀ n, Envelope.peekLength t = some n → p.checkSize n = .ok ()

theorem parseBody_ne_incomplete (binder : InvocationBinder) (body : List UInt8) :
    p.parseBody binder body ≠ .ok .incomplete := by
  intro h
  simp only [parseBody] at h
  obtain ⟨⟨count, rest⟩, -, h⟩ := except_bind_eq_ok h
  obtain ⟨⟨tag, rest'⟩, -, h⟩ := except_bind_eq_ok h
  split at h
  · cases h
  · split at h
    · cases h
    · split at h <;> simp only [bind, Except.bind] at h <;> (repeat' split at h) <;> cases h

theorem tryParse_of_pending {t : List UInt8} (h : p.Pending t) (binder : InvocationBinder) :
    p.tryParse binder t = .ok (.incomplete, t) := by
  obtain ⟨hsplit, hsize⟩ := h
  simp only [tryParse, hsplit, bind, Except.bind]
  split
  · next n hn => simp [hsize n hn]
  · rfl

theorem tryParse_of_split_some {t body rest : List UInt8}
    (h : Envelope.split t = .ok (some (body, rest))) (binder : InvocationBinder) :
    p.tryParse binder t = (do
      p.checkSize body.length
      let o ← p.parseBody binder body
      .ok (o, rest)) := by
  simp only [tryParse, h, bind, Except.bind]

theorem tryParse_varint {binder : InvocationBinder} {body : List UInt8}
    (hlen : body.length ≤ Envelope.maxSize) (hsize : p.checkSize body.length = .ok ())
    {o : ParseOutcome} (hbody : p.parseBody binder body = .ok o) (rest : List UInt8) :
    p.tryParse binder (Envelope.varint body.length ++ (body ++ rest)) = .ok (o, rest) := by
  rw [tryParse_of_split_some p (Envelope.split_varint hlen rest)]
  simp [hsize, hbody, bind, Except.bind]

theorem pending_of_tryParse {binder : InvocationBinder} {t r : List UInt8}
    (h : p.tryParse binder t = .ok (.incomplete, r)) : p.Pending t ∧ r = t := by
  cases hsplit : Envelope.split t with
  | error e => simp [tryParse, hsplit, bind, Except.bind] at h
  | ok o =>
    cases o with
    | none =>
      simp only [tryParse, hsplit, bind, Except.bind] at h
      refine ⟨⟨hsplit, fun n hn => ?_⟩, ?_⟩
      · rw [hn] at h
        cases hc : p.checkSize n with
        | error e => simp [hc] at h
        | ok u => rfl
      · split at h
        · split at h <;> cases h; rfl
        · cases h; rfl
    | some br =>
      obtain ⟨body, rest⟩ := br
      rw [tryParse_of_split_some p hsplit] at h
      obtain ⟨u, -, h⟩ := except_bind_eq_ok h
      obtain ⟨o, ho, h⟩ := except_bind_eq_ok h
      cases h
      exact absurd ho (parseBody_ne_incomplete p binder body)

/-- A read that found a message or an unknown type split a whole envelope off. -/
theorem tryParse_eq_ok {binder : InvocationBinder} {t rest : List UInt8} {o : ParseOutcome}
    (h : p.tryParse binder t = .ok (o, rest)) (ho : o ≠ .incomplete) :
    ∃ body, Envelope.split t = .ok (some (body, rest)) ∧ p.checkSize body.length = .ok () ∧
      p.parseBody binder body = .ok o := by
  cases hsplit : Envelope.split t with
  | error e => simp [tryParse, hsplit, bind, Except.bind] at h
  | ok r =>
    cases r with
    | none =>
      simp only [tryParse, hsplit, bind, Except.bind] at h
      split at h
      · split at h
        · cases h
        · cases h
          exact absurd rfl ho
      · cases h
        exact absurd rfl ho
    | some br =>
      obtain ⟨body, rest'⟩ := br
      rw [tryParse_of_split_some p hsplit] at h
      obtain ⟨u, hu, h⟩ := except_bind_eq_ok h
      obtain ⟨o', ho', h⟩ := except_bind_eq_ok h
      cases h
      exact ⟨body, rfl, hu, ho'⟩

theorem tryParse_append {binder : InvocationBinder} {t rest : List UInt8} {o : ParseOutcome}
    (h : p.tryParse binder t = .ok (o, rest)) (ho : o ≠ .incomplete) (x : List UInt8) :
    p.tryParse binder (t ++ x) = .ok (o, rest ++ x) := by
  obtain ⟨body, hsplit, hsize, hbody⟩ := p.tryParse_eq_ok h ho
  rw [tryParse_of_split_some p (Envelope.split_append_of_some hsplit x)]
  simp [hsize, hbody, bind, Except.bind]

theorem tryParse_append_of_error {binder : InvocationBinder} {t : List UInt8} {e : Error}
    (h : p.tryParse binder t = .error e) (x : List UInt8) :
    p.tryParse binder (t ++ x) = .error e := by
  cases hsplit : Envelope.split t with
  | error e' =>
    simp only [tryParse, hsplit, bind, Except.bind] at h
    cases h
    simp [tryParse, Envelope.split_append_of_error hsplit x, bind, Except.bind]
  | ok r =>
    cases r with
    | none =>
      simp only [tryParse, hsplit, bind, Except.bind] at h
      split at h
      · next n hn =>
        have hcheck : p.checkSize n = .error e := by
          cases hc : p.checkSize n with
          | error e' => simp [hc] at h; rw [h]
          | ok u => simp [hc] at h
        obtain ⟨pre, hpre, hval⟩ := Option.bind_eq_some_iff.mp (Envelope.peekLength_eq t ▸ hn)
        have hgv : Envelope.groupsValue pre = n := by
          split at hval
          · exact Option.some.inj hval
          · cases hval
        rcases Envelope.split_eq_none hsplit with hnone | ⟨pre', hpre', hok, -⟩
        · rw [hnone] at hpre
          cases hpre
        · rw [hpre] at hpre'
          cases hpre'
          rw [← hgv] at hcheck
          by_cases hfit : pre.length + Envelope.groupsValue pre ≤ (t ++ x).length
          · have hs := Envelope.split_of_prefixBytes (Envelope.prefixBytes_append hpre x) hok
            rw [if_pos hfit] at hs
            rw [tryParse_of_split_some p hs]
            have hlen : (((t ++ x).drop pre.length).take (Envelope.groupsValue pre)).length =
                Envelope.groupsValue pre := by simp at hfit ⊢; omega
            simp [hlen, hcheck, bind, Except.bind]
          · have hs := Envelope.split_of_prefixBytes (Envelope.prefixBytes_append hpre x) hok
            rw [if_neg hfit] at hs
            simp [tryParse, hs, Envelope.peekLength_append hn x, ← hgv, hcheck, bind,
              Except.bind]
      · cases h
    | some br =>
      obtain ⟨body, rest⟩ := br
      rw [tryParse_of_split_some p hsplit] at h
      rw [tryParse_of_split_some p (Envelope.split_append_of_some hsplit x)]
      simp only [bind, Except.bind] at h ⊢
      split at h
      · exact h
      · split at h
        · exact h
        · cases h

/-- Only a read of a complete envelope looks at the binder. -/
theorem tryParse_congr_binder {t : List UInt8}
    (h : ∀ body rest, Envelope.split t ≠ .ok (some (body, rest)))
    (binder binder' : InvocationBinder) :
    p.tryParse binder t = p.tryParse binder' t := by
  cases hsplit : Envelope.split t with
  | error e => simp [tryParse, hsplit, bind, Except.bind]
  | ok r =>
    cases r with
    | none => simp [tryParse, hsplit, bind, Except.bind]
    | some br => exact absurd hsplit (h br.1 br.2)

/-- A read that found a message or an unknown type consumed the first envelope, at least its
one prefix byte. -/
theorem tryParse_consumes {binder : InvocationBinder} {t rest : List UInt8} {o : ParseOutcome}
    (h : p.tryParse binder t = .ok (o, rest)) (ho : o ≠ .incomplete) :
    Envelope.envelopeLength t = some (t.length - rest.length) ∧ rest.length < t.length ∧
      t.drop (t.length - rest.length) = rest := by
  obtain ⟨body, hsplit, -, -⟩ := p.tryParse_eq_ok h ho
  have hlen := Envelope.envelopeLength_of_split_some hsplit
  obtain ⟨pre, hpre, -, hne, hbody, rfl⟩ := Envelope.split_eq_some hsplit
  have hpos : 0 < pre.length := List.length_pos_iff.mpr hne
  refine ⟨hlen, by simp; omega, ?_⟩
  simp only [List.length_append, List.append_assoc]
  rw [show pre.length + (body.length + rest.length) - rest.length = (pre ++ body).length by
    simp; omega, ← List.append_assoc, List.drop_left]

theorem envelopeLength_append {t : List UInt8} {k : Nat} (h : Envelope.envelopeLength t = some k)
    (x : List UInt8) : Envelope.envelopeLength (t ++ x) = some k := by
  obtain ⟨pre, hpre, rfl⟩ := Option.map_eq_some_iff.mp h
  simp [Envelope.envelopeLength, Envelope.prefixBytes_append hpre x]

theorem envelopeLength_of_tryParse_error {binder : InvocationBinder} {t : List UInt8} {e : Error}
    (h : p.tryParse binder t = .error e) : ∃ k, Envelope.envelopeLength t = some k := by
  have hpre : ∃ pre, Envelope.prefixBytes t = some pre := by
    cases hsplit : Envelope.split t with
    | error e' =>
      cases hp : Envelope.prefixBytes t with
      | none => simp [Envelope.split, hp] at hsplit
      | some pre => exact ⟨pre, rfl⟩
    | ok r =>
      cases r with
      | none =>
        simp only [tryParse, hsplit, bind, Except.bind] at h
        split at h
        · next n hn =>
          obtain ⟨pre, hp, -⟩ := Option.bind_eq_some_iff.mp (Envelope.peekLength_eq t ▸ hn)
          exact ⟨pre, hp⟩
        · cases h
      | some br =>
        obtain ⟨pre, hp, -⟩ := Envelope.split_eq_some hsplit
        exact ⟨pre, hp⟩
  obtain ⟨pre, hp⟩ := hpre
  exact ⟨pre.length + Envelope.groupsValue pre, by simp [Envelope.envelopeLength, hp]⟩

theorem messageLength_append {t : List UInt8} {k : Nat} (h : messageLength t = some k)
    (x : List UInt8) : messageLength (t ++ x) = some k := by
  obtain ⟨n, hn, rfl⟩ := Option.map_eq_some_iff.mp h
  simp [messageLength, Envelope.peekLength_append hn x]

/-- The length a buffer waits for is never more than the envelope takes: a pending input that
stays shorter than it stays pending. -/
theorem pending_append {t : List UInt8} {needed : Nat} (hp : p.Pending t)
    (hm : messageLength t = some needed) {x : List UInt8} (hlt : (t ++ x).length < needed) :
    p.Pending (t ++ x) := by
  obtain ⟨n, hn, rfl⟩ := Option.map_eq_some_iff.mp hm
  obtain ⟨pre, hpre, hval⟩ := Option.bind_eq_some_iff.mp (Envelope.peekLength_eq t ▸ hn)
  have hgv : Envelope.groupsValue pre = n := by
    split at hval
    · exact Option.some.inj hval
    · cases hval
  rcases Envelope.split_eq_none hp.1 with hnone | ⟨pre', hpre', hok, -⟩
  · rw [hnone] at hpre
    cases hpre
  rw [hpre] at hpre'
  cases hpre'
  have hmin : Envelope.prefixLength n ≤ pre.length :=
    hgv ▸ Envelope.prefixLength_groupsValue_le (Envelope.prefixBytes_go_eq hpre).2
  have hs := Envelope.split_of_prefixBytes (Envelope.prefixBytes_append hpre x) hok
  rw [if_neg (by omega)] at hs
  exact ⟨hs, fun m hm' => by
    rw [Envelope.peekLength_append hn x] at hm'
    cases hm'
    exact hp.2 n hn⟩

/-- A read that is not incomplete answers the same with more bytes after its input, leaving them
after what it left; a failure stays the same failure. -/
theorem tryParse_append_of_decided {binder : InvocationBinder} {t : List UInt8}
    (h : ∀ rest, p.tryParse binder t ≠ .ok (.incomplete, rest)) (x : List UInt8) :
    p.tryParse binder (t ++ x) = (p.tryParse binder t).map fun (o, rest) => (o, rest ++ x) := by
  rcases ht : p.tryParse binder t with e | ⟨o, rest⟩
  · exact p.tryParse_append_of_error ht x
  · have ho : o ≠ .incomplete := by
      rintro rfl
      exact h rest ht
    exact p.tryParse_append ht ho x

theorem tryParse_incomplete_of_append {binder : InvocationBinder} {t x rest : List UInt8}
    (h : p.tryParse binder (t ++ x) = .ok (.incomplete, rest)) :
    p.tryParse binder t = .ok (.incomplete, t) := by
  rcases ht : p.tryParse binder t with e | ⟨o, r⟩
  · rw [p.tryParse_append_of_decided (by simp [ht]) x, ht] at h
    cases h
  · by_cases ho : o = .incomplete
    · subst ho
      rw [(p.pending_of_tryParse ht).2]
    · have hne : ∀ rest, p.tryParse binder t ≠ .ok (.incomplete, rest) := by
        intro rest' h'
        rw [ht] at h'
        cases h'
        exact ho rfl
      rw [p.tryParse_append_of_decided hne x, ht] at h
      cases h
      exact absurd rfl ho

/-- A read of a hub message is decided by the first envelope of its input, whatever the size
limit and binder. An incomplete read consumes nothing, and a read that found a message or
an unknown type consumes exactly the first envelope: its prefix and the body that announces.
A read that is not incomplete answers the same, and consumes the same bytes, with any bytes
after its input; a failure stays the same failure. Hence every prefix of an input that reads
as incomplete reads as incomplete. -/
theorem tryParse_decided_by_first_envelope (binder : InvocationBinder) (s : List UInt8) :
    (∀ o rest, p.tryParse binder s = .ok (o, rest) →
      (o = .incomplete → rest = s) ∧
      (o ≠ .incomplete → ∃ n, Envelope.envelopeLength s = some n ∧ n ≤ s.length ∧
        rest = s.drop n)) ∧
    (∀ t, (∀ rest, p.tryParse binder s ≠ .ok (.incomplete, rest)) →
      p.tryParse binder (s ++ t) = (p.tryParse binder s).map fun (o, rest) => (o, rest ++ t)) ∧
    (∀ t rest, p.tryParse binder (s ++ t) = .ok (.incomplete, rest) →
      p.tryParse binder s = .ok (.incomplete, s)) := by
  refine ⟨fun o rest h => ⟨?_, fun ho => ?_⟩, fun t hne => p.tryParse_append_of_decided hne t,
    fun t rest h => p.tryParse_incomplete_of_append h⟩
  · rintro rfl
    exact (p.pending_of_tryParse h).2
  · obtain ⟨hlen, -, hdrop⟩ := p.tryParse_consumes h ho
    exact ⟨s.length - rest.length, hlen, Nat.sub_le _ _, hdrop.symm⟩

end Protocol

end HubLink

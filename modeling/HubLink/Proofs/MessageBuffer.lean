import HubLink.Hub.Buffer
import HubLink.Proofs.FirstEnvelope
/-!
# Chunked input

A message buffer reads the same messages however its input is cut into pushes. The reference is
`Protocol.readAll`, which reads complete envelopes off the front of the whole input one after the
other until one is incomplete or fails. Its envelopes are read with binders chosen by the
offset where they end, so that a run of pushes, each with its own binder, is compared with one
reading in which each envelope gets the binder of the push that brought its last byte.

Three facts carry the comparison. A reading of a longer input first reads the shorter one
(`readAll_append`). Only reads of whole envelopes look at a binder, so binders that agree past the
bytes a buffer already holds read the same (`readAll_congr`). And a push into a settled buffer,
one whose front envelope is still arriving, does what reading its bytes does (`push_spec`); its
wait for the announced length never skips a whole envelope.
-/
namespace HubLink

/-- The message an outcome carries. -/
@[simp]
def ParseOutcome.message? : ParseOutcome → Option HubMessage
  | .message m => some m
  | _ => none

/-- Whether an outcome is a message of an unknown type. -/
@[simp]
def ParseOutcome.isUnknown : ParseOutcome → Bool
  | .unknown _ => true
  | _ => false

/-- What reading messages off the front of a byte string found: the outcome of each complete
envelope, the error that stopped the reading if one did, and the bytes left. -/
structure Reading where
  outcomes : List ParseOutcome
  error : Option Error
  rest : List UInt8

namespace Reading

/-- The messages among the outcomes. -/
def messages (r : Reading) : List HubMessage :=
  r.outcomes.filterMap ParseOutcome.message?

/-- The number of unknown message types among the outcomes. -/
def unknowns (r : Reading) : Nat :=
  r.outcomes.countP ParseOutcome.isUnknown

end Reading

namespace Protocol

variable (p : Protocol)

set_option linter.unusedVariables false in
/-- Reads messages off the front of `input` while they are complete; `pos` is the offset of
`input` in the whole stream, and the envelope ending at offset `e` is read with `binderAt e`. -/
def readAll (binderAt : Nat → InvocationBinder) (pos : Nat) (input : List UInt8) : Reading :=
  match h : p.tryParse (binderAt (pos + (Envelope.envelopeLength input).getD 0)) input with
  | .error e => ⟨[], some e, input⟩
  | .ok (.incomplete, _) => ⟨[], none, input⟩
  | .ok (.message m, rest) =>
    let r := readAll binderAt (pos + (input.length - rest.length)) rest
    ⟨.message m :: r.outcomes, r.error, r.rest⟩
  | .ok (.unknown tag, rest) =>
    let r := readAll binderAt (pos + (input.length - rest.length)) rest
    ⟨.unknown tag :: r.outcomes, r.error, r.rest⟩
termination_by input.length
decreasing_by
  · exact (p.tryParse_consumes h (by simp)).2.1
  · exact (p.tryParse_consumes h (by simp)).2.1

/-- Goes on reading after `d`, a reading of `u` at `pos`, once `x` has arrived after `u`. -/
def readOn (binderAt : Nat → InvocationBinder) (pos : Nat) (u x : List UInt8) (d : Reading) :
    Reading :=
  match d.error with
  | some e => ⟨d.outcomes, some e, d.rest ++ x⟩
  | none =>
    let r := p.readAll binderAt (pos + (u.length - d.rest.length)) (d.rest ++ x)
    ⟨d.outcomes ++ r.outcomes, r.error, r.rest⟩

section ReadAll

variable {binderAt : Nat → InvocationBinder} {pos : Nat} {input u : List UInt8}

theorem readAll_of_error {e : Error}
    (h : p.tryParse (binderAt (pos + (Envelope.envelopeLength input).getD 0)) input = .error e) :
    p.readAll binderAt pos input = ⟨[], some e, input⟩ := by
  rw [readAll]
  split <;> simp_all

theorem readAll_of_incomplete {r : List UInt8}
    (h : p.tryParse (binderAt (pos + (Envelope.envelopeLength input).getD 0)) input =
      .ok (.incomplete, r)) :
    p.readAll binderAt pos input = ⟨[], none, input⟩ := by
  rw [readAll]
  split <;> simp_all

theorem readAll_of_ok {o : ParseOutcome} {rest : List UInt8}
    (h : p.tryParse (binderAt (pos + (Envelope.envelopeLength input).getD 0)) input =
      .ok (o, rest)) (ho : o ≠ .incomplete) :
    p.readAll binderAt pos input =
      let r := p.readAll binderAt (pos + (input.length - rest.length)) rest
      ⟨o :: r.outcomes, r.error, r.rest⟩ := by
  rw [readAll]
  split <;> simp_all

theorem readAll_rest_suffix (binderAt : Nat → InvocationBinder) (pos : Nat) (input : List UInt8) :
    (p.readAll binderAt pos input).rest <:+ input := by
  fun_induction p.readAll binderAt pos input with
  | case1 => exact List.suffix_refl _
  | case2 => exact List.suffix_refl _
  | case3 pos input m rest h r ih =>
    have hdrop := (p.tryParse_consumes h (by simp)).2.2
    exact ih.trans (List.suffix_iff_eq_drop.mpr hdrop.symm)
  | case4 pos input tag rest h r ih =>
    have hdrop := (p.tryParse_consumes h (by simp)).2.2
    exact ih.trans (List.suffix_iff_eq_drop.mpr hdrop.symm)

theorem readAll_rest_pending {binderAt : Nat → InvocationBinder} {pos : Nat} {input : List UInt8}
    (h : (p.readAll binderAt pos input).error = none) :
    p.Pending (p.readAll binderAt pos input).rest := by
  fun_induction p.readAll binderAt pos input with
  | case1 => simp at h
  | case2 pos input r h' => exact (p.pending_of_tryParse h').1
  | case3 pos input m rest h' r ih => exact ih h
  | case4 pos input tag rest h' r ih => exact ih h

theorem readOn_of_ok {o : ParseOutcome} {rest : List UInt8}
    (h : p.tryParse (binderAt (pos + (Envelope.envelopeLength u).getD 0)) u = .ok (o, rest))
    (ho : o ≠ .incomplete) (x : List UInt8)
    (ih : p.readAll binderAt (pos + (u.length - rest.length)) (rest ++ x) =
      p.readOn binderAt (pos + (u.length - rest.length)) rest x
        (p.readAll binderAt (pos + (u.length - rest.length)) rest)) :
    p.readAll binderAt pos (u ++ x) =
      p.readOn binderAt pos u x
        (let r := p.readAll binderAt (pos + (u.length - rest.length)) rest
         ⟨o :: r.outcomes, r.error, r.rest⟩) := by
  obtain ⟨hk, hlt, -⟩ := p.tryParse_consumes h ho
  have hlen : Envelope.envelopeLength (u ++ x) = Envelope.envelopeLength u := by
    rw [envelopeLength_append hk x, hk]
  have h' := p.tryParse_append h ho x
  rw [← hlen] at h'
  have hpos : pos + ((u ++ x).length - (rest ++ x).length) = pos + (u.length - rest.length) := by
    simp only [List.length_append]
    omega
  have hsuf := (p.readAll_rest_suffix binderAt (pos + (u.length - rest.length)) rest).length_le
  rw [p.readAll_of_ok h' ho, hpos, ih]
  generalize p.readAll binderAt (pos + (u.length - rest.length)) rest = d at hsuf ⊢
  obtain ⟨outs, _ | e, drest⟩ := d
  · have hend : pos + (u.length - rest.length) + (rest.length - drest.length) =
        pos + (u.length - drest.length) := by
      simp only at hsuf
      omega
    simp [readOn, hend]
  · simp [readOn]

/-- Reading a longer input reads the shorter one first, then goes on from what it left, unless
it stopped at an error. -/
theorem readAll_append (binderAt : Nat → InvocationBinder) (pos : Nat) (u x : List UInt8) :
    p.readAll binderAt pos (u ++ x) = p.readOn binderAt pos u x (p.readAll binderAt pos u) := by
  fun_induction p.readAll binderAt pos u with
  | case1 pos u e h =>
    obtain ⟨k, hk⟩ := p.envelopeLength_of_tryParse_error h
    have hlen : Envelope.envelopeLength (u ++ x) = Envelope.envelopeLength u := by
      rw [envelopeLength_append hk x, hk]
    have h' := p.tryParse_append_of_error h x
    rw [← hlen] at h'
    rw [p.readAll_of_error h']
    rfl
  | case2 pos u r h => simp [readOn]
  | case3 pos u m rest h r ih => exact p.readOn_of_ok h (by simp) x ih
  | case4 pos u tag rest h r ih => exact p.readOn_of_ok h (by simp) x ih

/-- The binder a read uses only matters once the first envelope is whole; `k` bytes in,
it is not yet. -/
theorem tryParse_congr_at {binderAt binderAt' : Nat → InvocationBinder} {k : Nat}
    (hk : Envelope.split (input.take k) = .ok none)
    (hagree : ∀ e, pos + k < e → e ≤ pos + input.length → binderAt e = binderAt' e) :
    p.tryParse (binderAt (pos + (Envelope.envelopeLength input).getD 0)) input =
      p.tryParse (binderAt' (pos + (Envelope.envelopeLength input).getD 0)) input := by
  by_cases hs : ∃ body rest, Envelope.split input = .ok (some (body, rest))
  · obtain ⟨body, rest, hs⟩ := hs
    have hlt := Envelope.lt_of_split_take hs hk
    rw [Envelope.envelopeLength_of_split_some hs, Option.getD_some,
      hagree _ (by omega) (by omega)]
  · simp only [not_exists] at hs
    exact p.tryParse_congr_binder hs _ _

/-- Two assignments of binders that agree past the first `k` bytes read the same, when
the first envelope ends past them. -/
theorem readAll_congr {binderAt binderAt' : Nat → InvocationBinder} (pos k : Nat)
    (input : List UInt8)
    (hk : Envelope.split (input.take k) = .ok none)
    (hagree : ∀ e, pos + k < e → e ≤ pos + input.length → binderAt e = binderAt' e) :
    p.readAll binderAt pos input = p.readAll binderAt' pos input := by
  induction hn : input.length using Nat.strong_induction_on generalizing pos k input with
  | _ n ih =>
  have hbind := p.tryParse_congr_at hk hagree
  cases hparse : p.tryParse (binderAt (pos + (Envelope.envelopeLength input).getD 0)) input with
  | error e =>
    have hparse' := hbind ▸ hparse
    rw [p.readAll_of_error hparse, p.readAll_of_error hparse']
  | ok res =>
    obtain ⟨o, rest⟩ := res
    by_cases ho : o = .incomplete
    · subst ho
      have hparse' := hbind ▸ hparse
      rw [p.readAll_of_incomplete hparse, p.readAll_of_incomplete hparse']
    · obtain ⟨body, hsplit, -, -⟩ := p.tryParse_eq_ok hparse ho
      have hlt := Envelope.lt_of_split_take hsplit hk
      have hshorter := (p.tryParse_consumes hparse ho).2.1
      have hrest := ih rest.length (hn ▸ hshorter) (pos + (input.length - rest.length)) 0 rest
        rfl (fun e he₁ he₂ => hagree e (by omega) (by omega)) rfl
      have hparse' := hbind ▸ hparse
      rw [p.readAll_of_ok hparse ho, p.readAll_of_ok hparse' ho, hrest]

end ReadAll

end Protocol

namespace MessageBuffer

/-- The state a buffer is left in over bytes whose first envelope is still arriving: it waits
for the whole message once the prefix tells its length. -/
def stateAfter (bytes : List UInt8) : BufferState :=
  match Protocol.messageLength bytes with
  | some needed => .waitingForBody needed
  | none => .waitingForPrefix

/-- A buffer between pushes: its first envelope is still arriving, and it waits for what the
prefix of that envelope announces. -/
def Settled (p : Protocol) (b : MessageBuffer) : Prop :=
  p.Pending b.bytes ∧ b.state = stateAfter b.bytes

theorem settled_empty (p : Protocol) : Settled p empty :=
  ⟨⟨rfl, fun n hn => by cases hn⟩, rfl⟩

variable (p : Protocol) (binder : InvocationBinder)

/-- A drain that does not start out waiting reads at once. -/
theorem drain_succ {b : MessageBuffer} {acc : List HubMessage} {fuel : Nat}
    (hready : ∀ needed, b.state = .waitingForBody needed → needed ≤ b.bytes.length) :
    b.drain p binder acc (fuel + 1) =
      match p.tryParse binder b.bytes with
      | .error e => (.error e, b)
      | .ok (.incomplete, _) => (.ok acc.reverse, { b with state := stateAfter b.bytes })
      | .ok (.message m, rest) =>
        drain p binder { b with bytes := rest, state := .waitingForPrefix } (m :: acc) fuel
      | .ok (.unknown _, rest) =>
        drain p binder
          { b with
            bytes := rest, state := .waitingForPrefix, unknownSkipped := b.unknownSkipped + 1 }
          acc fuel := by
  rw [drain]
  cases hs : b.state with
  | waitingForPrefix =>
    simp only [Bool.false_eq_true, if_false]
    rcases p.tryParse binder b.bytes with e | ⟨_ | m | tag, rest⟩ <;> rfl
  | waitingForBody needed =>
    have hle := hready needed hs
    simp only [decide_eq_true_eq, Nat.not_lt.mpr hle, if_false]
    rcases p.tryParse binder b.bytes with e | ⟨_ | m | tag, rest⟩ <;> rfl

/-- A drain with enough fuel, not waiting at the start, does what reading the buffered bytes
with its one binder does: it fails with the reading's error, or returns the reading's
messages and keeps the bytes the reading left, waiting on them. -/
theorem drain_spec : ∀ (fuel : Nat) (b : MessageBuffer) (acc : List HubMessage) (pos : Nat),
    b.bytes.length < fuel →
    (∀ needed, b.state = .waitingForBody needed → needed ≤ b.bytes.length) →
    (b.drain p binder acc fuel).1 =
        (match (p.readAll (fun _ => binder) pos b.bytes).error with
          | some e => .error e
          | none => .ok (acc.reverse ++ (p.readAll (fun _ => binder) pos b.bytes).messages)) ∧
      ((p.readAll (fun _ => binder) pos b.bytes).error = none →
        (b.drain p binder acc fuel).2 =
          ⟨(p.readAll (fun _ => binder) pos b.bytes).rest,
            stateAfter (p.readAll (fun _ => binder) pos b.bytes).rest,
            b.unknownSkipped + (p.readAll (fun _ => binder) pos b.bytes).unknowns⟩) := by
  intro fuel
  induction fuel with
  | zero => intro b acc pos hfuel; omega
  | succ fuel ih =>
    intro b acc pos hfuel hready
    rw [drain_succ p binder hready]
    cases hparse : p.tryParse binder b.bytes with
    | error e =>
      have h : p.tryParse ((fun _ => binder) (pos + (Envelope.envelopeLength b.bytes).getD 0))
          b.bytes = .error e := hparse
      rw [@Protocol.readAll_of_error p (fun _ => binder) pos b.bytes e h]
      simp
    | ok res =>
      obtain ⟨o, rest⟩ := res
      have h : p.tryParse ((fun _ => binder) (pos + (Envelope.envelopeLength b.bytes).getD 0))
          b.bytes = .ok (o, rest) := hparse
      cases o with
      | incomplete =>
        rw [@Protocol.readAll_of_incomplete p (fun _ => binder) pos b.bytes rest h]
        simp [Reading.messages, Reading.unknowns]
      | message m =>
        have hlt := (p.tryParse_consumes hparse (by simp)).2.1
        obtain ⟨ih₁, ih₂⟩ := ih { b with bytes := rest, state := .waitingForPrefix }
          (m :: acc)
          (pos + (b.bytes.length - rest.length)) (by simp; omega) (by simp)
        rw [@Protocol.readAll_of_ok p (fun _ => binder) pos b.bytes _ rest h (by simp)]
        simp only at ih₁ ih₂ ⊢
        generalize p.readAll (fun _ => binder) (pos + (b.bytes.length - rest.length)) rest = r
          at ih₁ ih₂ ⊢
        obtain ⟨outs, _ | e, left⟩ := r
        · simp_all [Reading.messages, Reading.unknowns]
        · simp_all
      | unknown tag =>
        have hlt := (p.tryParse_consumes hparse (by simp)).2.1
        obtain ⟨ih₁, ih₂⟩ := ih
          { b with
            bytes := rest, state := .waitingForPrefix, unknownSkipped := b.unknownSkipped + 1 }
          acc (pos + (b.bytes.length - rest.length)) (by simp; omega) (by simp)
        rw [@Protocol.readAll_of_ok p (fun _ => binder) pos b.bytes _ rest h (by simp)]
        simp only at ih₁ ih₂ ⊢
        generalize p.readAll (fun _ => binder) (pos + (b.bytes.length - rest.length)) rest = r
          at ih₁ ih₂ ⊢
        obtain ⟨outs, _ | e, left⟩ := r
        · simp_all [Reading.messages, Reading.unknowns, List.filterMap_cons, List.countP_cons]
          omega
        · simp_all

theorem messageLength_of_settled {b : MessageBuffer} (hb : Settled p b) {needed : Nat}
    (hs : b.state = .waitingForBody needed) : Protocol.messageLength b.bytes = some needed := by
  have hstate := hb.2
  rw [hs, stateAfter] at hstate
  split at hstate <;> simp_all

/-- A push into a settled buffer does what reading all its bytes with the push's binder
does: it fails with the reading's error, or returns the reading's messages and keeps, settled,
the bytes the reading left. -/
theorem push_spec {b : MessageBuffer} (hb : Settled p b) (data : List UInt8) (pos : Nat) :
    let r := p.readAll (fun _ => binder) pos (b.bytes ++ data)
    (b.push p binder data).1 = (match r.error with
        | some e => .error e
        | none => .ok r.messages) ∧
      (r.error = none →
        (b.push p binder data).2 =
          ⟨r.rest, stateAfter r.rest, b.unknownSkipped + r.unknowns⟩) := by
  intro r
  by_cases hwait :
      ∃ needed, b.state = .waitingForBody needed ∧ (b.bytes ++ data).length < needed
  · obtain ⟨needed, hs, hlt⟩ := hwait
    have hm := messageLength_of_settled p hb hs
    have hpend := p.pending_append hb.1 hm hlt
    have hr : r = ⟨[], none, b.bytes ++ data⟩ :=
      p.readAll_of_incomplete (p.tryParse_of_pending hpend _)
    have hstate : stateAfter (b.bytes ++ data) = .waitingForBody needed := by
      simp [stateAfter, Protocol.messageLength_append hm data]
    have hlt' : b.bytes.length + data.length < needed := by simpa using hlt
    simp [hr, push, drain, hs, hlt', hstate, Reading.messages, Reading.unknowns]
  · have hready :
        ∀ needed, b.state = .waitingForBody needed → needed ≤ (b.bytes ++ data).length :=
      fun needed hs => Nat.not_lt.mp fun hlt => hwait ⟨needed, hs, hlt⟩
    have hspec := drain_spec p binder ((b.bytes ++ data).length + 1)
      { b with bytes := b.bytes ++ data }
      [] pos (by simp) hready
    simpa [push] using hspec

/-- A push whose reading meets no error returns the reading's messages and leaves a settled
buffer that holds what the reading left. -/
theorem push_of_ok {b : MessageBuffer} (hb : Settled p b) (data : List UInt8) (pos : Nat)
    (h : (p.readAll (fun _ => binder) pos (b.bytes ++ data)).error = none) :
    let r := p.readAll (fun _ => binder) pos (b.bytes ++ data)
    b.push p binder data =
        (.ok r.messages, ⟨r.rest, stateAfter r.rest, b.unknownSkipped + r.unknowns⟩) ∧
      Settled p ⟨r.rest, stateAfter r.rest, b.unknownSkipped + r.unknowns⟩ := by
  intro r
  obtain ⟨h₁, h₂⟩ := push_spec p binder hb data pos
  refine ⟨Prod.ext ?_ (h₂ h), p.readAll_rest_pending h, rfl⟩
  simpa [h] using h₁

theorem push_of_error {b : MessageBuffer} (hb : Settled p b) (data : List UInt8) (pos : Nat)
    {e : Error} (h : (p.readAll (fun _ => binder) pos (b.bytes ++ data)).error = some e) :
    ∃ b', b.push p binder data = (.error e, b') :=
  ⟨_, Prod.ext (by simpa [h] using (push_spec p binder hb data pos).1) rfl⟩

/-- What pushing chunks one after the other, each with its binder, until one fails gave:
the messages each successful push returned, the error of the push that failed if one did, and
the buffer left. -/
structure Pushes where
  returned : List (List HubMessage)
  error : Option Error
  buffer : MessageBuffer

/-- Pushes the chunks in order, each with its binder, stopping at the first that fails. -/
def pushAll (p : Protocol) (b : MessageBuffer) : List (List UInt8 × InvocationBinder) → Pushes
  | [] => ⟨[], none, b⟩
  | (data, binder) :: chunks =>
    match b.push p binder data with
    | (.error e, b') => ⟨[], some e, b'⟩
    | (.ok ms, b') =>
      let run := pushAll p b' chunks
      ⟨ms :: run.returned, run.error, run.buffer⟩

/-- The binder of the chunk in which the byte before offset `e` of the chunks arrived. -/
def chunkBinder : List (List UInt8 × InvocationBinder) → Nat → InvocationBinder
  | [], _ => MethodTable.empty.toBinder
  | (data, binder) :: chunks, e =>
    if e ≤ data.length then binder else chunkBinder chunks (e - data.length)

theorem chunkBinder_cons_of_le {data : List UInt8} {binder : InvocationBinder}
    {chunks : List (List UInt8 × InvocationBinder)} {e : Nat} (h : e ≤ data.length) :
    chunkBinder ((data, binder) :: chunks) e = binder :=
  if_pos h

theorem chunkBinder_cons_of_lt {data : List UInt8} {binder : InvocationBinder}
    {chunks : List (List UInt8 × InvocationBinder)} {e : Nat} (h : data.length < e) :
    chunkBinder ((data, binder) :: chunks) e = chunkBinder chunks (e - data.length) :=
  if_neg (Nat.not_le.mpr h)

theorem chunkBinder_of_forall {binder : InvocationBinder} :
    ∀ (chunks : List (List UInt8 × InvocationBinder)), (∀ c ∈ chunks, c.2 = binder) →
      ∀ e, 0 < e → e ≤ (chunks.map Prod.fst).flatten.length → chunkBinder chunks e = binder
  | [], _, e, hpos, hle => by simp at hle; omega
  | (data, binder') :: chunks, hall, e, hpos, hle => by
    by_cases he : e ≤ data.length
    · simp only [chunkBinder, he, if_true]
      exact hall (data, binder') (by simp)
    · simp only [chunkBinder, he, if_false]
      simp at hle
      exact chunkBinder_of_forall chunks (fun c hc => hall c (by simp [hc])) _ (by omega)
        (by simp; omega)

/-- Pushing chunks into a settled buffer does what reading its bytes and all the chunks does,
each envelope read with the binder of the chunk that brought its last byte: the pushes fail
exactly when the reading meets an error, and with the same error; until then they return the
reading's messages in order; and when none fails the buffer keeps what the reading left. -/
theorem pushAll_spec :
    ∀ (chunks : List (List UInt8 × InvocationBinder)) (b : MessageBuffer) (pos : Nat),
    Settled p b →
    let r := p.readAll (fun e => chunkBinder chunks (e - (pos + b.bytes.length))) pos
      (b.bytes ++ (chunks.map Prod.fst).flatten)
    let run := b.pushAll p chunks
    run.error = r.error ∧
      (run.error = none → run.returned.flatten = r.messages ∧
        run.buffer = ⟨r.rest, stateAfter r.rest, b.unknownSkipped + r.unknowns⟩) ∧
      run.returned.flatten <+: r.messages
  | [], b, pos, hb => by
    have hr := @Protocol.readAll_of_incomplete p
      (fun e => chunkBinder [] (e - (pos + b.bytes.length)))
      pos b.bytes b.bytes (p.tryParse_of_pending hb.1 _)
    simp only [List.map_nil, List.flatten_nil, List.append_nil, hr]
    simp [pushAll, Reading.messages, Reading.unknowns, ← hb.2]
  | (data, binder) :: chunks, b, pos, hb => by
    intro r run
    have hfirst : p.readAll (fun e => chunkBinder ((data, binder) :: chunks)
        (e - (pos + b.bytes.length))) pos (b.bytes ++ data) =
          p.readAll (fun _ => binder) pos (b.bytes ++ data) :=
      @Protocol.readAll_congr p _ (fun _ => binder) pos b.bytes.length (b.bytes ++ data)
        (by simpa using hb.1.1) (fun e he₁ he₂ =>
          chunkBinder_cons_of_le (by simp only [List.length_append] at he₂; omega))
    have hr : r = p.readOn (fun e => chunkBinder ((data, binder) :: chunks)
        (e - (pos + b.bytes.length))) pos (b.bytes ++ data) (chunks.map Prod.fst).flatten
        (p.readAll (fun _ => binder) pos (b.bytes ++ data)) := by
      rw [← hfirst, ← Protocol.readAll_append]
      simp [r]
    cases hde : (p.readAll (fun _ => binder) pos (b.bytes ++ data)).error with
    | some e =>
      obtain ⟨b', hp⟩ := push_of_error p binder hb data pos hde
      simp [run, pushAll, hp, hr, Protocol.readOn, hde]
    | none =>
      obtain ⟨hp, hb'⟩ := push_of_ok p binder hb data pos hde
      have hsuf := (p.readAll_rest_suffix (fun _ => binder) pos (b.bytes ++ data)).length_le
      generalize p.readAll (fun _ => binder) pos (b.bytes ++ data) = d at hr hp hb' hde hsuf
      have ih := pushAll_spec chunks _ (pos + ((b.bytes ++ data).length - d.rest.length)) hb'
      have hlater := @Protocol.readAll_congr p
        (fun e => chunkBinder ((data, binder) :: chunks) (e - (pos + b.bytes.length)))
        (fun e => chunkBinder chunks
          (e - (pos + ((b.bytes ++ data).length - d.rest.length) + d.rest.length)))
        (pos + ((b.bytes ++ data).length - d.rest.length)) d.rest.length
        (d.rest ++ (chunks.map Prod.fst).flatten) (by simpa using hb'.1.1) (fun e he₁ he₂ => by
          simp only [List.length_append] at he₁ hsuf
          rw [chunkBinder_cons_of_lt (by omega)]
          congr 1
          simp only [List.length_append]
          omega)
      simp only at ih
      simp only [run, pushAll, hp, hr, Protocol.readOn, hde, hlater]
      generalize p.readAll _ (pos + ((b.bytes ++ data).length - d.rest.length))
        (d.rest ++ (chunks.map Prod.fst).flatten) = r' at ih ⊢
      generalize pushAll p _ chunks = run' at ih ⊢
      obtain ⟨ih₁, ih₂, ih₃⟩ := ih
      refine ⟨ih₁, fun h => ?_, ?_⟩
      · obtain ⟨h₁, h₂⟩ := ih₂ h
        simp [Reading.messages, Reading.unknowns, h₁, h₂, List.countP_append, Nat.add_assoc]
      · simpa [Reading.messages] using ih₃

/-- Chunks pushed one after the other into an empty buffer agree with reading all their bytes at
once, each envelope read with the binder of the chunk that brought its last byte: the pushes fail
exactly when the reading meets an error, and with its error; the pushes before return the
reading's messages in order, and if none fails, all of them, with every unknown type counted,
and the buffer keeps the incomplete tail. With one binder for every chunk, the reading does not
depend on the chunks at all. -/
theorem pushAll_agrees (p : Protocol) (chunks : List (List UInt8 × InvocationBinder)) :
    let s := (chunks.map Prod.fst).flatten
    let r := p.readAll (chunkBinder chunks) 0 s
    let run := empty.pushAll p chunks
    run.error = r.error ∧
      (run.error = none →
        run.returned.flatten = r.messages ∧ run.buffer.unknownSkipped = r.unknowns ∧
          run.buffer.bytes = r.rest ∧
          ∀ binder, p.tryParse binder r.rest = .ok (.incomplete, r.rest)) ∧
      run.returned.flatten <+: r.messages ∧
      ∀ binder, (∀ c ∈ chunks, c.2 = binder) → r = p.readAll (fun _ => binder) 0 s := by
  intro s r run
  have hspec := pushAll_spec p chunks empty 0 (settled_empty p)
  have hr : p.readAll (fun e => chunkBinder chunks (e - (0 + empty.bytes.length))) 0
      (empty.bytes ++ s) = r := by
    simp [empty, r]
  rw [hr] at hspec
  obtain ⟨h₁, h₂, h₃⟩ := hspec
  refine ⟨h₁, fun h => ?_, h₃, fun binder hall => ?_⟩
  · obtain ⟨hm, hbuf⟩ := h₂ h
    have hpend := p.readAll_rest_pending (h₁ ▸ h)
    exact ⟨hm, by simp only [run, hbuf]; simp [empty], by simp [run, hbuf],
      fun binder => p.tryParse_of_pending hpend binder⟩
  · exact @Protocol.readAll_congr p _ _ 0 0 s rfl fun e he₁ he₂ =>
      chunkBinder_of_forall chunks hall e (by omega) (by simp only [s] at he₂; omega)

end MessageBuffer

end HubLink

import Mathlib.Logic.Relation
import HubLink.Proofs.FrameStream
/-!
# What reading a message refuses, and the sizes it keeps

A read of a message takes frames one at a time. A text or binary frame without the final bit
starts a message, a continuation frame without it extends the one in progress, and the read goes
on (`Continues`); any other frame, the end of the stream or a failed frame read ends it. One
turn of the read is `turn`, and the read is its turns repeated (`readMessageLoop_succ`).

Between reads, and between the turns of one, a reader is `Consistent`: its decoder is in a phase
and the message in progress is a text or binary message within the message limit. Every turn
keeps that (`turn_ok`). So after any number of reads of any stream, the message in progress is
within the limit, a data message handed out is within it and a control message has at most 125
bytes, and a read fails only with the frame read's own error, a message over the limit, or the
protocol error of a breach of the fragmentation rules (`Breach`), which every breach met during
the read gives (`readMessage_bounds_and_faults`).
-/
namespace HubLink

namespace FrameReader

open FrameDecoder

theorem undecoded_length (r : FrameReader) :
    r.undecoded.length = r.unread + r.buffer.length := by
  simp only [undecoded, unread, List.length_append, List.length_drop, Array.length_toList]
  omega

@[simp]
theorem readFrame_pending (r : FrameReader) : (r.readFrame).2.pending = r.pending := rfl

@[simp]
theorem readFrame_config (r : FrameReader) : (r.readFrame).2.config = r.config := rfl

/-! ## A frame read from a decoder in a phase -/

section Phase

variable {limit : Nat} {held : List UInt8} (cut : Nat → Nat) {r : FrameReader}

theorem readFrameBy_between (hb : Between limit r.decoder held) :
    ∃ held', Between limit (readFrameBy cut r).2.decoder held' := by
  obtain ⟨d₀, held₀, b₀, p₀, hb₀, -, hr, hend⟩ :=
    readFrameVia_last cut r.stream r.position r.decoder held r.buffer hb
  have hstep := (step_between hb₀ b₀).1
  rw [readFrameBy]
  simp only
  rw [hr, readFrameVia]
  rcases h₀ : d₀.step b₀ with ⟨_ | ⟨_ | f, r'⟩, d''⟩ <;> rw [h₀] at hstep
  · exact ⟨_, hstep⟩
  · simp only [dif_neg (Nat.not_lt.mpr (hend _ _ h₀))]
    split <;> exact ⟨_, hstep⟩
  · exact ⟨_, hstep⟩

/-- A read hands out only frames whose payload is as long as the header says, from a header
that passed the checks, and such a read took at least one byte of what was ahead. -/
theorem readFrameBy_sound (hb : Between limit r.decoder held) {f : Frame}
    (h : (readFrameBy cut r).1 = .ok (some f)) :
    f.payload.length = f.header.payloadLength ∧ Accepts limit f.header ∧
      (readFrameBy cut r).2.undecoded.length < r.undecoded.length := by
  rcases hstep : r.decoder.step r.undecoded with ⟨e | ⟨_ | f', rest⟩, d'⟩
  · rw [readFrameBy_error cut hb hstep] at h
    cases h
  · rw [readFrameBy_none cut hb hstep] at h
    split at h <;> cases h
  · obtain ⟨hres, -, hund⟩ := readFrameBy_frame cut hb hstep
    rw [hres] at h
    obtain rfl : f' = f := by cases h; rfl
    have hsound := (step_between hb r.undecoded).2
    rw [hstep] at hsound
    obtain ⟨hlen, hacc⟩ := hsound.frames f' rest rfl
    exact ⟨hlen, hacc, hund ▸ step_frame_shorter hb hstep⟩

end Phase

/-! ## Consistent readers -/

/-- A reader between the turns of reading messages: its decoder in a phase with the reader's
payload limit, and the message in progress, if any, a text or binary message within the message
limit. -/
structure Consistent (r : FrameReader) : Prop where
  phase : ∃ held, Between r.config.maxPayloadSize r.decoder held
  pending : ∀ pm, r.pending = some pm →
    (pm.opcode = .text ∨ pm.opcode = .binary) ∧ pm.payload.length ≤ r.config.maxMessageSize

variable {r r' r₀ : FrameReader}

theorem consistent_new (s : List UInt8) (config : ReaderConfig) : (new s config).Consistent :=
  ⟨⟨[], .idle ⟨rfl, rfl, rfl, rfl⟩⟩, by simp [new]⟩

theorem Consistent.readFrame (hr : r.Consistent) : (r.readFrame).2.Consistent := by
  obtain ⟨held, hb⟩ := hr.phase
  rw [readFrame_eq_readFrameBy]
  exact ⟨readFrameBy_between _ hb, hr.pending⟩

/-- A frame read by a consistent reader has the payload its header announces, a header that
passed the checks, and took at least one byte. -/
theorem Consistent.readFrame_sound (hr : r.Consistent) {f : Frame}
    (h : (r.readFrame).1 = .ok (some f)) :
    f.payload.length = f.header.payloadLength ∧ Accepts r.config.maxPayloadSize f.header ∧
      (r.readFrame).2.undecoded.length < r.undecoded.length := by
  obtain ⟨held, hb⟩ := hr.phase
  rw [readFrame_eq_readFrameBy] at h ⊢
  exact readFrameBy_sound _ hb h

theorem data_opcode {op : OpCode} (hnamed : op.isReserved = false) (hdata : op.isControl = false)
    (hcont : op ≠ .continuation) : op = .text ∨ op = .binary := by
  cases op <;> simp_all [OpCode.isReserved, OpCode.isControl, OpCode.toNat]

/-! ## One turn of reading a message -/

/-- What a turn of reading a message comes to: the read ends, with its answer and the reader
after it, or goes on from a reader that carries the message further. -/
inductive Turn where
  | done (answer : Except Error (Option FrameMessage)) (r : FrameReader)
  | next (r : FrameReader)

/-- One turn of reading a message: read a frame, and hand out, refuse or carry on the message in
progress with it. -/
def turn (r : FrameReader) : Turn :=
  match r.readFrame with
  | (.error e, r) => .done (.error e) r
  | (.ok none, r) =>
    if r.pending.isSome then .done (.error .unfinishedMessage) r else .done (.ok none) r
  | (.ok (some f), r) =>
    let op := f.header.opcode
    if op.isControl then .done (.ok (some ⟨op, f.payload⟩)) r
    else if op = .continuation then
      match r.pending with
      | none => .done (.error .orphanContinuation) r
      | some pm =>
        let size := pm.payload.length + f.payload.length
        if size > r.config.maxMessageSize then
          .done (.error (.messageTooLarge size r.config.maxMessageSize)) r
        else
          let pm := { pm with payload := pm.payload ++ f.payload }
          if f.header.fin then .done (.ok (some pm)) { r with pending := none }
          else .next { r with pending := some pm }
    else if r.pending.isSome then .done (.error (.interleavedData op)) r
    else if f.payload.length > r.config.maxMessageSize then
      .done (.error (.messageTooLarge f.payload.length r.config.maxMessageSize)) r
    else if f.header.fin then .done (.ok (some ⟨op, f.payload⟩)) r
    else .next { r with pending := some ⟨op, f.payload⟩ }

/-- Reading a message is taking turns until one ends the read. -/
theorem readMessageLoop_succ (r : FrameReader) (fuel : Nat) :
    r.readMessageLoop (fuel + 1) =
      match r.turn with
      | .done answer r' => (answer, r')
      | .next r' => r'.readMessageLoop fuel := by
  rw [readMessageLoop, turn]
  rcases r.readFrame with ⟨_ | _ | f, r₁⟩
  · rfl
  · simp only
    split <;> rfl
  · simp only
    rcases r₁.pending with _ | pm <;> simp only <;> split_ifs <;> rfl

/-- A frame that carries the message in progress on without ending the read: with no message in
progress, a text or binary frame without the final bit starts one; a continuation frame without
it extends the one in progress; either within the message limit. -/
inductive Continues : FrameReader → FrameReader → Prop
  | start {r r₁ : FrameReader} {f : Frame} (read : r.readFrame = (.ok (some f), r₁))
      (data : f.header.opcode = .text ∨ f.header.opcode = .binary) (idle : r.pending = none)
      (within : f.payload.length ≤ r.config.maxMessageSize) (more : f.header.fin = false) :
      Continues r { r₁ with pending := some ⟨f.header.opcode, f.payload⟩ }
  | extend {r r₁ : FrameReader} {f : Frame} {pm : FrameMessage}
      (read : r.readFrame = (.ok (some f), r₁)) (cont : f.header.opcode = .continuation)
      (busy : r.pending = some pm)
      (within : pm.payload.length + f.payload.length ≤ r.config.maxMessageSize)
      (more : f.header.fin = false) :
      Continues r { r₁ with pending := some { pm with payload := pm.payload ++ f.payload } }

/-- The breaches of the fragmentation rules that a read of a message refuses with a protocol
error of its own: a continuation frame with no message in progress, a text or binary frame
while one is in progress, and the clean end of the stream while one is in progress. -/
inductive Breach : FrameReader → Error → Prop
  | orphan {r : FrameReader} {f : Frame} (read : (r.readFrame).1 = .ok (some f))
      (cont : f.header.opcode = .continuation) (idle : r.pending = none) :
      Breach r .orphanContinuation
  | interleaved {r : FrameReader} {f : Frame} (read : (r.readFrame).1 = .ok (some f))
      (data : f.header.opcode = .text ∨ f.header.opcode = .binary) (busy : r.pending.isSome) :
      Breach r (.interleavedData f.header.opcode)
  | unfinished {r : FrameReader} (read : (r.readFrame).1 = .ok none) (busy : r.pending.isSome) :
      Breach r .unfinishedMessage

/-- The errors a turn from `r` may end with: the frame read's own, a message over the limit, or
a breach. -/
def Fault (r : FrameReader) (e : Error) : Prop :=
  (r.readFrame).1 = .error e ∨
    (∃ size, r.config.maxMessageSize < size ∧ e = .messageTooLarge size r.config.maxMessageSize) ∨
    r.Breach e

/-- A message within its size limit: at most 125 bytes for a control message, at most the
message limit for a data message. -/
def Within (config : ReaderConfig) (m : FrameMessage) : Prop :=
  (m.isControl = true → m.payload.length ≤ 125) ∧
    (m.isControl = false → m.payload.length ≤ config.maxMessageSize)

/-- What a turn from `r` may come to: a reader that carries the message on, or an end at a
consistent reader with the same configuration, handing out a message within its limit or
failing with a fault of `r`. -/
def TurnOk (r : FrameReader) : Turn → Prop
  | .next r' => Continues r r'
  | .done answer r' => r'.Consistent ∧ r'.config = r.config ∧
      (∀ m, answer = .ok (some m) → Within r.config m) ∧
      (∀ e, answer = .error e → r.Fault e)

theorem consistent_extend {r₁ : FrameReader} (h₁ : r₁.Consistent) {pm : FrameMessage}
    (hpm : pm.opcode = .text ∨ pm.opcode = .binary)
    (hlen : pm.payload.length ≤ r₁.config.maxMessageSize) :
    { r₁ with pending := some pm }.Consistent :=
  ⟨h₁.phase, by rintro _ ⟨⟩; exact ⟨hpm, hlen⟩⟩

theorem consistent_release {r₁ : FrameReader} (h₁ : r₁.Consistent) :
    { r₁ with pending := none }.Consistent :=
  ⟨h₁.phase, by rintro _ ⟨⟩⟩

section Ends

variable {r₁ : FrameReader} (h₁ : r₁.Consistent) (hconf : r₁.config = r.config)
include h₁ hconf

theorem turnOk_fail {e : Error} (he : r.Fault e) : TurnOk r (.done (.error e) r₁) :=
  ⟨h₁, hconf, by simp, fun e' h => by cases h; exact he⟩

theorem turnOk_deliver {m : FrameMessage} (hm : Within r.config m) :
    TurnOk r (.done (.ok (some m)) r₁) :=
  ⟨h₁, hconf, fun m' h => by cases h; exact hm, by simp⟩

end Ends

theorem within_data {config : ReaderConfig} {m : FrameMessage}
    (hop : m.opcode = .text ∨ m.opcode = .binary) (h : m.payload.length ≤ config.maxMessageSize) :
    Within config m :=
  ⟨fun hc => by simp [FrameMessage.isControl, ClientFrame.isControl_of_begins hop] at hc,
    fun _ => h⟩

/-- Every turn from a consistent reader does what `TurnOk` allows. The cases follow the frame
read: a failure, the end of the stream, and a control, continuation or other data frame. -/
theorem turn_ok (hr : r.Consistent) : TurnOk r r.turn := by
  have h₁ := hr.readFrame
  have hsound := @Consistent.readFrame_sound r hr
  have hpend := readFrame_pending r
  have hconf := readFrame_config r
  unfold turn
  rcases hread : r.readFrame with ⟨e | _ | f, r₁⟩ <;> rw [hread] at h₁ hpend hconf hsound <;>
    simp only at h₁ hpend hconf hsound ⊢ <;> try rw [hpend]
  · exact turnOk_fail h₁ hconf (.inl (by rw [hread]))
  · split
    · next hbusy => exact turnOk_fail h₁ hconf (.inr (.inr (.unfinished (by rw [hread]) hbusy)))
    · exact ⟨h₁, hconf, by simp, by simp⟩
  obtain ⟨hlen, hacc, -⟩ := hsound rfl
  have htoo : ∀ size, size > r₁.config.maxMessageSize →
      TurnOk r (.done (.error (.messageTooLarge size r₁.config.maxMessageSize)) r₁) :=
    fun size h => turnOk_fail h₁ hconf (.inr (.inl ⟨size, hconf ▸ h, by rw [hconf]⟩))
  by_cases hctl : f.header.opcode.isControl = true
  · simp only [hctl, if_true]
    have ⟨_, hsmall⟩ := hacc.control hctl
    exact turnOk_deliver h₁ hconf
      ⟨fun _ => hlen ▸ hsmall, fun h => by simp [FrameMessage.isControl, hctl] at h⟩
  have hdata : f.header.opcode.isControl = false := by simpa using hctl
  simp only [hdata, Bool.false_eq_true, if_false]
  by_cases hcont : f.header.opcode = .continuation
  · simp only [hcont, if_true]
    rcases hp : r.pending with _ | pm
    · exact turnOk_fail h₁ hconf (.inr (.inr (.orphan (by rw [hread]) hcont hp)))
    obtain ⟨hop, -⟩ := hr.pending pm hp
    simp only
    split
    · next hbig => exact htoo _ hbig
    next hsmall =>
    have hfit : pm.payload.length + f.payload.length ≤ r.config.maxMessageSize := by
      rw [← hconf]
      omega
    split
    · exact turnOk_deliver (consistent_release h₁) hconf (within_data hop (by simpa using hfit))
    · next hmore => exact .extend hread hcont hp hfit (by simpa using hmore)
  have hop := data_opcode hacc.named hdata hcont
  simp only [hcont, if_false]
  split
  · next hbusy => exact turnOk_fail h₁ hconf (.inr (.inr (.interleaved (by rw [hread]) hop hbusy)))
  next hidle =>
  split
  · next hbig => exact htoo _ hbig
  next hsmall =>
  have hfit : f.payload.length ≤ r.config.maxMessageSize := by
    rw [← hconf]
    omega
  split
  · exact turnOk_deliver h₁ hconf (within_data hop hfit)
  · next hmore => exact .start hread hop (by simpa using hidle) hfit (by simpa using hmore)

/-- A frame that carries the message on keeps the reader consistent, with its configuration,
and takes at least one byte. -/
theorem Continues.consistent (hc : Continues r r') (hr : r.Consistent) :
    r'.Consistent ∧ r'.config = r.config ∧ r'.undecoded.length < r.undecoded.length := by
  have h₁ := hr.readFrame
  have hconf := readFrame_config r
  cases hc with
  | @start r₁ f read data idle within more =>
    have hlt := (hr.readFrame_sound (by rw [read])).2.2
    rw [read] at h₁ hconf hlt
    simp only at hconf
    exact ⟨consistent_extend h₁ data (by rw [hconf]; simpa using within), hconf, hlt⟩
  | @extend r₁ f pm read cont busy within more =>
    have hlt := (hr.readFrame_sound (by rw [read])).2.2
    rw [read] at h₁ hconf hlt
    simp only at hconf
    exact ⟨consistent_extend h₁ (hr.pending pm busy).1 (by rw [hconf]; simpa using within), hconf,
      hlt⟩

theorem turn_of_continues (hc : Continues r r') : r.turn = .next r' := by
  have hpend := readFrame_pending r
  have hconf := readFrame_config r
  unfold turn
  cases hc with
  | @start r₁ f read data idle within more =>
    rw [read] at hpend hconf ⊢
    have hnc : f.header.opcode.isControl = false := by rcases data with h | h <;> rw [h] <;> rfl
    have hncont : f.header.opcode ≠ .continuation := by rcases data with h | h <;> rw [h] <;> simp
    simp only at hpend hconf ⊢
    simp [hnc, hncont, hpend, idle, more, hconf, show ¬ f.payload.length > r.config.maxMessageSize
      by omega]
  | @extend r₁ f pm read cont busy within more =>
    rw [read] at hpend hconf ⊢
    simp only at hpend hconf ⊢
    simp [cont, OpCode.isControl, OpCode.toNat, hpend, busy, more, hconf,
      show ¬ pm.payload.length + f.payload.length > r.config.maxMessageSize by omega]

theorem turn_of_breach {e : Error} (hb : r.Breach e) : ∃ r₁, r.turn = .done (.error e) r₁ := by
  have hpend := readFrame_pending r
  unfold turn
  cases hb with
  | @orphan f read cont idle =>
    obtain ⟨r₁, hread⟩ : ∃ r₁, r.readFrame = (.ok (some f), r₁) := ⟨_, Prod.ext read rfl⟩
    rw [hread] at hpend ⊢
    simp only at hpend ⊢
    refine ⟨r₁, ?_⟩
    simp [cont, OpCode.isControl, OpCode.toNat, hpend, idle]
  | @interleaved f read data busy =>
    obtain ⟨r₁, hread⟩ : ∃ r₁, r.readFrame = (.ok (some f), r₁) := ⟨_, Prod.ext read rfl⟩
    rw [hread] at hpend ⊢
    simp only at hpend ⊢
    refine ⟨r₁, ?_⟩
    rcases data with h | h <;> simp [h, OpCode.isControl, OpCode.toNat, hpend, busy]
  | unfinished read busy =>
    obtain ⟨r₁, hread⟩ : ∃ r₁, r.readFrame = (.ok none, r₁) := ⟨_, Prod.ext read rfl⟩
    rw [hread] at hpend ⊢
    simp only at hpend ⊢
    exact ⟨r₁, by simp [hpend, busy]⟩

theorem Breach.kind {e : Error} (hb : r.Breach e) : e.kind = "Protocol" := by
  cases hb <;> rfl

/-! ## Whole reads -/

/-- With more turns allowed than there are bytes ahead, a read of a message does not depend on
how many: every turn that goes on takes at least one byte. -/
theorem readMessageLoop_fuel : ∀ (j k : Nat) {r : FrameReader}, r.Consistent →
    r.undecoded.length < j → r.undecoded.length < k →
      r.readMessageLoop j = r.readMessageLoop k := by
  intro j
  induction j with
  | zero => intro k r _ hj; omega
  | succ j ih =>
    intro k r hr hj hk
    obtain ⟨k, rfl⟩ : ∃ k', k = k' + 1 := ⟨k - 1, by omega⟩
    have hok := turn_ok hr
    rw [readMessageLoop_succ, readMessageLoop_succ]
    rcases ht : r.turn with ⟨answer, r₁⟩ | r'
    · rfl
    · rw [ht] at hok
      obtain ⟨hr', -, hlt⟩ := Continues.consistent hok hr
      exact ih k hr' (by omega) (by omega)

theorem readMessage_eq_loop (hr : r.Consistent) {k : Nat} (hk : r.undecoded.length < k) :
    r.readMessage = r.readMessageLoop k :=
  readMessageLoop_fuel _ k hr (by rw [undecoded_length]; omega) hk

theorem readMessage_of_continues (hc : Continues r r') (hr : r.Consistent) :
    r.readMessage = r'.readMessage := by
  obtain ⟨hr', -, hlt⟩ := hc.consistent hr
  rw [readMessage_eq_loop hr (Nat.lt_succ_self _), readMessageLoop_succ, turn_of_continues hc]
  exact (readMessage_eq_loop hr' hlt).symm

/-- The readers a read of a message goes through are consistent, with the configuration of the
first, and reading from any of them is the same read. -/
theorem path_consistent (h : Relation.ReflTransGen Continues r r₀) (hr : r.Consistent) :
    r₀.Consistent ∧ r₀.config = r.config ∧ r.readMessage = r₀.readMessage := by
  induction h with
  | refl => exact ⟨hr, rfl, rfl⟩
  | tail _ hc ih =>
    obtain ⟨ha, hconf, hread⟩ := ih
    obtain ⟨hb, hconf', -⟩ := hc.consistent ha
    exact ⟨hb, hconf'.trans hconf, hread.trans (readMessage_of_continues hc ha)⟩

/-- Every read of a message from a consistent reader, however many turns it is allowed, ends at a
consistent reader with the same configuration, hands out only a message within its limit, and
fails only with a fault of one of the readers it went through. The induction is on the turns. -/
theorem readMessageLoop_sound : ∀ (fuel : Nat) {r : FrameReader}, r.Consistent →
    (r.readMessageLoop fuel).2.Consistent ∧ (r.readMessageLoop fuel).2.config = r.config ∧
      (∀ m, (r.readMessageLoop fuel).1 = .ok (some m) → Within r.config m) ∧
      (∀ e, (r.readMessageLoop fuel).1 = .error e →
        ∃ r₀, Relation.ReflTransGen Continues r r₀ ∧ r₀.Fault e) := by
  intro fuel
  induction fuel with
  | zero => intro r hr; exact ⟨hr, rfl, by simp [readMessageLoop], by simp [readMessageLoop]⟩
  | succ fuel ih =>
    intro r hr
    have hok := turn_ok hr
    rw [readMessageLoop_succ]
    rcases ht : r.turn with ⟨answer, r₁⟩ | r'
    · rw [ht] at hok
      obtain ⟨h₁, hconf, hmsg, herr⟩ := hok
      exact ⟨h₁, hconf, hmsg, fun e he => ⟨r, .refl, herr e he⟩⟩
    · rw [ht] at hok
      obtain ⟨hr', hconf, -⟩ := Continues.consistent hok hr
      obtain ⟨h₁, hconf₁, hmsg, herr⟩ := ih hr'
      refine ⟨h₁, hconf₁.trans hconf, fun m hm => hconf ▸ hmsg m hm, fun e he => ?_⟩
      obtain ⟨r₀, hpath, hfault⟩ := herr e he
      exact ⟨r₀, .head hok hpath, hfault⟩

/-- Reading messages from the start of a stream, again and again, keeps the reader consistent and
its configuration as given. -/
theorem consistent_iterate (s : List UInt8) (config : ReaderConfig) (n : Nat) :
    ((fun r : FrameReader => r.readMessage.2)^[n] (new s config)).Consistent ∧
      ((fun r : FrameReader => r.readMessage.2)^[n] (new s config)).config = config := by
  induction n with
  | zero => exact ⟨consistent_new s config, rfl⟩
  | succ n ih =>
    rw [Function.iterate_succ_apply']
    obtain ⟨h₁, h₂, -, -⟩ := readMessageLoop_sound _ ih.1
    exact ⟨h₁, h₂.trans ih.2⟩

end FrameReader

open FrameReader in
/-- After any number of reads of messages from any stream, with any configuration, the message
in progress is within the message limit; a read hands out a data message within that limit or a
control message of at most 125 bytes; and a read fails only with the error of a frame read, a
message over the limit, or a breach of the fragmentation rules met at one of the readers the read
went through (a continuation frame with no message in progress, a text or binary frame while one
is, the clean end of the stream while one is), every such breach giving its protocol error. -/
theorem readMessage_bounds_and_faults (config : ReaderConfig) (s : List UInt8) (n : Nat) :
    let r := (fun r : FrameReader => r.readMessage.2)^[n] (FrameReader.new s config)
    (∀ pm, r.pending = some pm → pm.payload.length ≤ config.maxMessageSize) ∧
      (∀ m, r.readMessage.1 = .ok (some m) →
        (m.isControl = true → m.payload.length ≤ 125) ∧
        (m.isControl = false → m.payload.length ≤ config.maxMessageSize)) ∧
      (∀ e, r.readMessage.1 = .error e → ∃ r₀, Relation.ReflTransGen Continues r r₀ ∧
        ((r₀.readFrame).1 = .error e ∨
          (∃ size, config.maxMessageSize < size ∧ e = .messageTooLarge size config.maxMessageSize) ∨
          r₀.Breach e)) ∧
      (∀ r₀ e, Relation.ReflTransGen Continues r r₀ → r₀.Breach e →
        r.readMessage.1 = .error e ∧ e.kind = "Protocol") := by
  intro r
  obtain ⟨hr, hconf⟩ := consistent_iterate s config n
  obtain ⟨-, -, hmsg, herr⟩ := readMessageLoop_sound (r.unread + r.buffer.length + 1) hr
  refine ⟨fun pm hp => ?_, fun m hm => ?_, fun e he => ?_, fun r₀ e hpath hb => ?_⟩
  · rw [← hconf]
    exact (hr.pending pm hp).2
  · rw [← hconf]
    exact hmsg m hm
  · obtain ⟨r₀, hpath, hfault⟩ := herr e he
    refine ⟨r₀, hpath, ?_⟩
    rw [← hconf, ← (path_consistent hpath hr).2.1]
    exact hfault
  · obtain ⟨hr₀, -, hread⟩ := path_consistent hpath hr
    obtain ⟨r₁, ht⟩ := turn_of_breach hb
    refine ⟨?_, hb.kind⟩
    rw [hread, readMessage_eq_loop hr₀ (Nat.lt_succ_self _), readMessageLoop_succ, ht]

end HubLink

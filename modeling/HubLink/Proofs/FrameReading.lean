import HubLink.Frame.Reader
import HubLink.Proofs.FrameDecoding
/-!
# Reading messages from client frames

A frame reader reads a stream in chunks through a frame decoder and reassembles fragmented data
messages. Over the bytes of frames that make whole messages (`ClientFrame.Assembles`: a text or
binary frame begins a message, continuation frames extend it, a final bit ends it, control
frames anywhere), it hands out what `ClientFrame.messages` says, one message per read, and then
finds the clean end of the stream, whatever its chunk size.

Between reads the reader is `Ahead` of the frames still to come: its decoder is idle, and the
bytes it holds followed by those it has not read are exactly theirs. A read of a frame goes
through the rest of the frame chunk by chunk (`readFrameLoop_frame`), the decoder partway
through it all along; a read of a message reads frames until one completes a message.
-/
namespace HubLink

/-- What an application sees arrive, in order: a control message with its opcode and payload,
or a data message. -/
inductive Arrival where
  | control (opcode : OpCode) (payload : List UInt8)
  | data
  deriving DecidableEq, Repr

namespace FrameMessage

/-- What a message that a reader hands out is, as it arrives. -/
def arrival (m : FrameMessage) : Arrival :=
  if m.isControl then .control m.opcode m.payload else .data

/-- The payloads of the data messages, joined in order. -/
def dataBytes (ms : List FrameMessage) : List UInt8 :=
  ms.flatMap fun m => if m.isControl then [] else m.payload

end FrameMessage

namespace ClientFrame

/-- What arrives when a frame is read: a control frame at once, a data message at its final
frame, nothing at the frames before. -/
def arrival (f : ClientFrame) : Option Arrival :=
  if f.opcode.isControl then some (.control f.opcode f.payload)
  else if f.fin then some .data else none

/-- The payloads of the data frames, joined in order. -/
def dataBytes (frames : List ClientFrame) : List UInt8 :=
  frames.flatMap fun f => if f.opcode.isControl then [] else f.payload

/-- The data message a frame begins, or the one begun, extended by the frame's payload. -/
def join (pending : Option FrameMessage) (f : ClientFrame) : FrameMessage :=
  match pending with
  | none => ⟨f.opcode, f.payload⟩
  | some pm => { pm with payload := pm.payload ++ f.payload }

/-- The messages a reader hands out for frames, `pending` being the data message begun: a
control frame at once, a data message at its final frame, with the payloads of its frames
joined. -/
def messages : Option FrameMessage → List ClientFrame → List FrameMessage
  | _, [] => []
  | pending, f :: fs =>
    if f.opcode.isControl then ⟨f.opcode, f.payload⟩ :: messages pending fs
    else if f.fin then join pending f :: messages none fs
    else messages (some (join pending f)) fs

/-- The message begun, if one is, is a data message. -/
def DataPending (pending : Option FrameMessage) : Prop :=
  ∀ pm, pending = some pm → pm.opcode.isControl = false

theorem dataPending_none : DataPending none := fun _ h => nomatch h

theorem dataPending_some {pm : FrameMessage} (h : pm.opcode.isControl = false) :
    DataPending (some pm) := fun _ hpm => Option.some.inj hpm ▸ h

theorem join_data {pending : Option FrameMessage} (hdata : DataPending pending) {f : ClientFrame}
    (hf : f.opcode.isControl = false) : (join pending f).opcode.isControl = false := by
  cases pending with
  | none => exact hf
  | some pm => exact hdata pm rfl

theorem isControl_of_begins {op : OpCode} (h : op = .text ∨ op = .binary) :
    op.isControl = false := by
  rcases h with rfl | rfl <;> rfl

/-- Frames that form whole data messages, with control frames anywhere between: a text or
binary frame begins a message, continuation frames extend it, and a final bit ends it; no
message grows past `maxMessage` bytes. The index is the size of the message begun, if one
is. -/
inductive Assembles (maxMessage : Nat) : Option Nat → List ClientFrame → Prop
  /-- The frames end between messages. -/
  | done : Assembles maxMessage none []
  /-- A control frame, inside a message or between two. -/
  | control {inside : Option Nat} {f : ClientFrame} {fs : List ClientFrame}
      (hc : f.opcode.isControl = true) (rest : Assembles maxMessage inside fs) :
      Assembles maxMessage inside (f :: fs)
  /-- A text or binary frame begins a message; with its final bit, it is the whole message. -/
  | start {f : ClientFrame} {fs : List ClientFrame} (hop : f.opcode = .text ∨ f.opcode = .binary)
      (hsize : f.payload.length ≤ maxMessage)
      (rest : Assembles maxMessage (if f.fin then none else some f.payload.length) fs) :
      Assembles maxMessage none (f :: fs)
  /-- A continuation frame extends the message begun; with its final bit, it ends it. -/
  | extend {n : Nat} {f : ClientFrame} {fs : List ClientFrame} (hop : f.opcode = .continuation)
      (hsize : n + f.payload.length ≤ maxMessage)
      (rest : Assembles maxMessage (if f.fin then none else some (n + f.payload.length)) fs) :
      Assembles maxMessage (some n) (f :: fs)

theorem length_le_wire (frames : List ClientFrame) :
    2 * frames.length ≤ (wire frames).length := by
  induction frames with
  | nil => simp
  | cons f fs ih =>
    have hf : 2 ≤ f.bytes.length := by
      have := f.headerLen_pos
      rw [f.bytes_length]
      omega
    simp only [List.length_cons, wire_cons, List.length_append]
    omega

theorem length_messages (pending : Option FrameMessage) (frames : List ClientFrame) :
    (messages pending frames).length ≤ frames.length := by
  induction frames generalizing pending with
  | nil => simp [messages]
  | cons f fs ih =>
    simp only [messages]
    split
    · exact Nat.succ_le_succ (ih _)
    · split
      · exact Nat.succ_le_succ (ih _)
      · exact Nat.le_succ_of_le (ih _)

/-- Control frames arrive at their places, and each data message at its final frame. -/
theorem messages_arrival (frames : List ClientFrame) :
    ∀ {pending : Option FrameMessage}, DataPending pending →
      (messages pending frames).map FrameMessage.arrival = frames.filterMap arrival := by
  induction frames with
  | nil => intro _ _; rfl
  | cons f fs ih =>
    intro pending hdata
    by_cases hc : f.opcode.isControl = true
    · simp [messages, hc, arrival, FrameMessage.arrival, FrameMessage.isControl, ih hdata]
    · have hnc : f.opcode.isControl = false := by simpa using hc
      have hjoin := join_data hdata hnc
      cases hfin : f.fin
      · simp only [messages, hnc, hfin, Bool.false_eq_true, if_false]
        rw [ih (dataPending_some hjoin)]
        simp [arrival, hnc, hfin]
      · simp only [messages, hnc, hfin, Bool.false_eq_true, if_false, if_true, List.map_cons]
        rw [ih dataPending_none]
        simp [arrival, hnc, hfin, FrameMessage.arrival, FrameMessage.isControl, hjoin]

theorem Assembles.eq_nil_of_messages {maxMessage : Nat} {inside : Option Nat}
    {frames : List ClientFrame} (ha : Assembles maxMessage inside frames) :
    ∀ {pending : Option FrameMessage}, pending.map (·.payload.length) = inside →
      messages pending frames = [] → frames = [] := by
  induction ha with
  | done => intro _ _ _; rfl
  | control hc rest ih =>
    intro pending _ hm
    simp [messages, hc] at hm
  | @start f fs hop hsize rest ih =>
    intro pending hin hm
    have hnc := isControl_of_begins hop
    cases hfin : f.fin
    · simp only [messages, hnc, hfin, Option.map_eq_none_iff.mp hin, Bool.false_eq_true,
        if_false] at hm
      have := ih (by simp [hfin, join]) hm
      subst this
      simp only [hfin, Bool.false_eq_true, if_false] at rest
      cases rest
    · simp [messages, hnc, hfin] at hm
  | @extend n f fs hop hsize rest ih =>
    intro pending hin hm
    have hnc : f.opcode.isControl = false := hop ▸ rfl
    obtain ⟨q, rfl, hq⟩ := Option.map_eq_some_iff.mp hin
    cases hfin : f.fin
    · simp only [messages, hnc, hfin, Bool.false_eq_true, if_false] at hm
      have := ih (by simp [hfin, join, hq]) hm
      subst this
      simp only [hfin, Bool.false_eq_true, if_false] at rest
      cases rest
    · simp [messages, hnc, hfin] at hm

/-- The data messages of frames that make whole messages carry the payloads of the data frames,
after what the message begun holds. -/
theorem Assembles.dataBytes_messages {maxMessage : Nat} {inside : Option Nat}
    {frames : List ClientFrame} (ha : Assembles maxMessage inside frames) :
    ∀ {pending : Option FrameMessage}, pending.map (·.payload.length) = inside →
      DataPending pending →
      FrameMessage.dataBytes (messages pending frames) =
        (pending.map (·.payload)).getD [] ++ dataBytes frames := by
  induction ha with
  | done =>
    intro pending hin _
    simp [Option.map_eq_none_iff.mp hin, messages, FrameMessage.dataBytes, dataBytes]
  | control hc rest ih =>
    intro pending hin hdata
    have h := ih hin hdata
    simp only [FrameMessage.dataBytes, dataBytes, FrameMessage.isControl] at h
    simp [messages, hc, FrameMessage.dataBytes, dataBytes, FrameMessage.isControl, h]
  | @start f fs hop hsize rest ih =>
    intro pending hin hdata
    have hpend := Option.map_eq_none_iff.mp hin
    subst hpend
    have hnc := isControl_of_begins hop
    cases hfin : f.fin
    · have h := @ih (some (join none f)) (by simp [hfin, join]) (dataPending_some hnc)
      simp only [messages, hnc, hfin, Bool.false_eq_true, if_false, h]
      simp [join, dataBytes, hnc]
    · have h := @ih none (by simp [hfin]) dataPending_none
      simp only [FrameMessage.dataBytes, dataBytes, FrameMessage.isControl] at h
      simp [messages, hnc, hfin, FrameMessage.dataBytes, dataBytes, FrameMessage.isControl, join, h]
  | @extend n f fs hop hsize rest ih =>
    intro pending hin hdata
    obtain ⟨q, rfl, hq⟩ := Option.map_eq_some_iff.mp hin
    have hnc : f.opcode.isControl = false := hop ▸ rfl
    have hjoin := join_data hdata hnc
    cases hfin : f.fin
    · have h := @ih (some (join (some q) f)) (by simp [hfin, join, hq])
        (dataPending_some hjoin)
      simp only [messages, hnc, hfin, Bool.false_eq_true, if_false, h]
      simp [join, dataBytes, hnc]
    · have h := @ih none (by simp [hfin]) dataPending_none
      simp only [FrameMessage.dataBytes, dataBytes, FrameMessage.isControl] at h
      simp only [join] at hjoin
      simp [messages, hnc, hfin, FrameMessage.dataBytes, dataBytes, FrameMessage.isControl, join,
        hjoin, h]

end ClientFrame

namespace FrameReader

open FrameDecoder

/-- A chunk read from the stream, followed by the stream after it, is the stream from where the
chunk starts. -/
theorem extract_append_drop (stream : Array UInt8) {pos next : Nat} (h : pos ≤ next) :
    (stream.extract pos next).toList ++ stream.toList.drop next = stream.toList.drop pos := by
  conv_rhs => rw [← List.take_append_drop (next - pos) (stream.toList.drop pos)]
  rw [List.drop_drop, Nat.add_sub_cancel' h]
  simp [Array.toList_extract]

/-- Reading through the rest of a frame, chunk by chunk, hands out the frame with the decoder idle,
the bytes after it read or still in the stream. -/
theorem readFrameLoop_frame {max : Nat} {f : ClientFrame} {todo : List ClientFrame}
    (hs : f.Sendable max) (chunk : Nat) (stream : Array UInt8) :
    ∀ (pos : Nat) (d : FrameDecoder) (src c : List UInt8) (n : Nat),
      Partway max f d src n →
      c ++ stream.toList.drop pos = f.bytes.drop n ++ ClientFrame.wire todo →
      ∃ d' buffer pos', readFrameLoop chunk stream d (src ++ c) pos =
          (.ok (some f.decoded), d', buffer, pos') ∧ d'.Idle max ∧
          buffer ++ stream.toList.drop pos' = ClientFrame.wire todo := by
  intro pos
  induction hm : stream.size - pos using Nat.strong_induction_on generalizing pos with
  | _ m ih =>
  intro d src c n hp hc
  rcases List.append_eq_append_iff.mp hc with ⟨a, hF, hS⟩ | ⟨c₂, hc₂, hW⟩
  · by_cases ha : a = []
    · subst ha
      rw [List.append_nil] at hF
      obtain ⟨d', hstep, hidle⟩ := step_finish hs hp []
      refine ⟨d', [], pos, ?_, hidle, by simpa using hS⟩
      rw [readFrameLoop, ← hF, ← List.append_nil (src ++ f.bytes.drop n), List.append_assoc,
        hstep]
    · have hpre : c <+: f.bytes.drop n := ⟨a, hF.symm⟩
      have hlen : c.length + a.length = f.bytes.length - n := by
        rw [← List.length_append, ← hF, List.length_drop]
      have hapos : 0 < a.length := List.length_pos_iff.mpr ha
      have hlt : n + c.length < f.bytes.length := by have := hp.lt_length; omega
      obtain ⟨d', src', hstep, hp'⟩ := step_advance hs hp hpre hlt
      have hpos : pos < stream.size := by
        by_contra hge
        have hnil : stream.toList.drop pos = [] := List.drop_eq_nil_of_le (by simp; omega)
        rw [hnil] at hS
        simp at hS
        exact ha hS.1
      have hnext : f.bytes.drop (n + c.length) = a := by
        rw [← List.drop_drop, hF, List.drop_left]
      rw [readFrameLoop, hstep]
      simp only [dif_pos hpos]
      have hchunk : 1 ≤ Nat.max chunk 1 := Nat.le_max_right _ _
      have hdec : stream.size - (pos + Nat.max chunk 1) < m := by omega
      exact ih _ hdec (pos + Nat.max chunk 1) rfl d' src' _ (n + c.length) hp'
        (by rw [extract_append_drop stream (by omega), hS, hnext])
  · obtain ⟨d', hstep, hidle⟩ := step_finish hs hp c₂
    refine ⟨d', c₂, pos, ?_, hidle, hW.symm⟩
    rw [readFrameLoop, hc₂, hstep]

theorem readFrameLoop_end {max : Nat} (chunk : Nat) (stream : Array UInt8) {d : FrameDecoder}
    (hd : d.Idle max) {pos : Nat} (hend : stream.toList.drop pos = []) :
    readFrameLoop chunk stream d [] pos = (.ok none, d, [], pos) := by
  have hge : ¬ pos < stream.size := by
    have := congrArg List.length hend
    simp at this
    omega
  rw [readFrameLoop, step_idle_nil hd]
  simp [hge, hd.header]

theorem readFrame_next {r : FrameReader} {f : ClientFrame} {todo : List ClientFrame}
    (hs : f.Sendable r.config.maxPayloadSize) (hd : r.decoder.Idle r.config.maxPayloadSize)
    (hrest : r.buffer ++ r.stream.toList.drop r.position = ClientFrame.wire (f :: todo)) :
    ∃ d' buffer pos, r.readFrame =
        (.ok (some f.decoded), { r with decoder := d', buffer := buffer, position := pos }) ∧
      d'.Idle r.config.maxPayloadSize ∧
      buffer ++ r.stream.toList.drop pos = ClientFrame.wire todo := by
  obtain ⟨d', buffer, pos, hloop, hidle, hrest'⟩ :=
    readFrameLoop_frame hs r.config.readChunkSize r.stream r.position r.decoder [] r.buffer 0
      (partway_start f hd) (by rw [hrest]; rfl)
  refine ⟨d', buffer, pos, ?_, hidle, hrest'⟩
  rw [readFrame, ← List.nil_append r.buffer, hloop]

theorem readFrame_end {r : FrameReader} (hd : r.decoder.Idle r.config.maxPayloadSize)
    (hrest : r.buffer ++ r.stream.toList.drop r.position = []) :
    r.readFrame = (.ok none, r) := by
  obtain ⟨hbuf, hend⟩ := List.append_eq_nil_iff.mp hrest
  rw [readFrame, hbuf, readFrameLoop_end r.config.readChunkSize r.stream hd hend]
  obtain ⟨stream, position, buffer, decoder, pending, config⟩ := r
  simp only at hbuf
  simp [hbuf]

/-- A reader with frames `todo` ahead of it: its decoder is idle between frames, the bytes it
holds and the stream it has not read are those of the frames, the frames make whole messages
from the one it is reassembling, and that message is a data message. -/
structure Ahead (r : FrameReader) (todo : List ClientFrame) : Prop where
  sendable : ∀ f ∈ todo, f.Sendable r.config.maxPayloadSize
  idle : r.decoder.Idle r.config.maxPayloadSize
  rest : r.buffer ++ r.stream.toList.drop r.position = ClientFrame.wire todo
  assembles :
    ClientFrame.Assembles r.config.maxMessageSize (r.pending.map (·.payload.length)) todo
  data : ClientFrame.DataPending r.pending

/-- Reading frames until a message is complete hands out the next message the frames make, and
leaves the reader ahead of the frames after it. -/
theorem readMessageLoop_next {todo : List ClientFrame} :
    ∀ {r : FrameReader} {m : FrameMessage} {ms : List FrameMessage} {fuel : Nat}, r.Ahead todo →
      ClientFrame.messages r.pending todo = m :: ms → todo.length < fuel →
      ∃ r' todo', r.readMessageLoop fuel = (.ok (some m), r') ∧ r'.Ahead todo' ∧
        ClientFrame.messages r'.pending todo' = ms := by
  induction todo with
  | nil => intro r m ms fuel _ hm; simp [ClientFrame.messages] at hm
  | cons f fs ih =>
    intro r m ms fuel ha hm hfuel
    obtain ⟨k, rfl⟩ : ∃ k, fuel = k + 1 := ⟨fuel - 1, by simp at hfuel; omega⟩
    have hs := ha.sendable f (by simp)
    obtain ⟨d', buffer, pos, hread, hidle, hrest⟩ := readFrame_next hs ha.idle ha.rest
    have hsend : ∀ g ∈ fs, g.Sendable r.config.maxPayloadSize :=
      fun g hg => ha.sendable g (by simp [hg])
    have hasm := ha.assembles
    generalize hin : r.pending.map (·.payload.length) = inside at hasm
    rw [readMessageLoop, hread]
    cases hasm with
    | control hc rest =>
      simp only [ClientFrame.messages, hc, if_true, List.cons.injEq] at hm
      obtain ⟨rfl, rfl⟩ := hm
      refine ⟨{ r with decoder := d', buffer := buffer, position := pos }, fs, ?_,
        ⟨hsend, hidle, hrest, by simpa [hin] using rest, ha.data⟩, rfl⟩
      simp [ClientFrame.decoded, ClientFrame.header, hc]
    | start hop hsize rest =>
      have hpend : r.pending = none := Option.map_eq_none_iff.mp hin
      have hnc := ClientFrame.isControl_of_begins hop
      have hncont : f.opcode ≠ .continuation := by rcases hop with h | h <;> simp [h]
      have hfit : ¬ f.payload.length > r.config.maxMessageSize := by omega
      simp only [ClientFrame.messages, ClientFrame.join, hnc, hpend, Bool.false_eq_true,
        if_false] at hm
      simp only [ClientFrame.decoded, ClientFrame.header, hnc, hncont, hpend, hfit,
        Bool.false_eq_true, if_false, Option.isSome_none]
      cases hfin : f.fin
      · simp only [hfin, Bool.false_eq_true, if_false] at hm rest ⊢
        exact ih ⟨hsend, hidle, hrest, rest, ClientFrame.dataPending_some hnc⟩ hm
          (by simp at hfuel; omega)
      · simp only [hfin, if_true, List.cons.injEq] at hm rest ⊢
        obtain ⟨rfl, rfl⟩ := hm
        exact ⟨{ r with decoder := d', buffer := buffer, position := pos }, fs, by simp [hpend],
          ⟨hsend, hidle, hrest, by simpa [hpend] using rest, ha.data⟩, by simp [hpend]⟩
    | extend hop hsize rest =>
      obtain ⟨q, hpend, hq⟩ := Option.map_eq_some_iff.mp hin
      have hnc : f.opcode.isControl = false := hop ▸ rfl
      have hfit : ¬ q.payload.length + f.payload.length > r.config.maxMessageSize := by omega
      simp only [ClientFrame.messages, ClientFrame.join, hnc, hpend, Bool.false_eq_true,
        if_false] at hm
      simp only [ClientFrame.decoded, ClientFrame.header, hop, hpend, hfit, if_false, if_true]
      cases hfin : f.fin
      · simp only [hfin, Bool.false_eq_true, if_false] at hm rest ⊢
        exact ih ⟨hsend, hidle, hrest, by simpa [hq] using rest,
          ClientFrame.dataPending_some (ha.data q hpend)⟩ hm (by simp at hfuel; omega)
      · simp only [hfin, if_true, List.cons.injEq] at hm rest ⊢
        obtain ⟨rfl, rfl⟩ := hm
        exact ⟨{ r with decoder := d', buffer := buffer, position := pos, pending := none }, fs,
          rfl,
          ⟨hsend, hidle, hrest, by simpa using rest, ClientFrame.dataPending_none⟩, rfl⟩

theorem readMessageLoop_end {r : FrameReader} {todo : List ClientFrame} (ha : r.Ahead todo)
    (hm : ClientFrame.messages r.pending todo = []) {fuel : Nat} (hfuel : 0 < fuel) :
    (r.readMessageLoop fuel).1 = .ok none := by
  have hnil := ha.assembles.eq_nil_of_messages rfl hm
  subst hnil
  have hpend : r.pending = none := by
    have hasm := ha.assembles
    generalize hin : r.pending.map (·.payload.length) = inside at hasm
    cases hasm
    exact Option.map_eq_none_iff.mp hin
  obtain ⟨k, rfl⟩ : ∃ k, fuel = k + 1 := ⟨fuel - 1, by omega⟩
  rw [readMessageLoop, readFrame_end ha.idle ha.rest]
  simp [hpend]

theorem Ahead.length_lt {r : FrameReader} {todo : List ClientFrame} (ha : r.Ahead todo) :
    todo.length < r.unread + r.buffer.length + 1 := by
  have hlen := congrArg List.length ha.rest
  have hwire := ClientFrame.length_le_wire todo
  simp only [List.length_append, List.length_drop, Array.length_toList] at hlen
  simp only [unread]
  omega

/-- A reader that hands out the messages `ms`, one per read, and then finds the end of the
stream. -/
def Delivers (r : FrameReader) (ms : List FrameMessage) : Prop :=
  ∃ todo, r.Ahead todo ∧ ClientFrame.messages r.pending todo = ms

theorem readMessage_next {r : FrameReader} {m : FrameMessage} {ms : List FrameMessage}
    (h : r.Delivers (m :: ms)) : ∃ r', r.readMessage = (.ok (some m), r') ∧ r'.Delivers ms := by
  obtain ⟨todo, ha, hm⟩ := h
  obtain ⟨r', todo', hread, ha', hm'⟩ := readMessageLoop_next ha hm ha.length_lt
  exact ⟨r', hread, todo', ha', hm'⟩

theorem readMessage_end {r : FrameReader} (h : r.Delivers []) : (r.readMessage).1 = .ok none := by
  obtain ⟨todo, ha, hm⟩ := h
  exact readMessageLoop_end ha hm (by omega)

/-- A reader at the start of the bytes of frames that make whole messages delivers them. -/
theorem delivers_new (config : ReaderConfig) {frames : List ClientFrame}
    (hs : ∀ f ∈ frames, f.Sendable config.maxPayloadSize)
    (ha : ClientFrame.Assembles config.maxMessageSize none frames) :
    (new (ClientFrame.wire frames) config).Delivers (ClientFrame.messages none frames) :=
  ⟨frames, ⟨hs, ⟨rfl, rfl, rfl, rfl⟩, by simp [new], ha, ClientFrame.dataPending_none⟩,
    rfl⟩

end FrameReader

end HubLink

import HubLink.Session
import HubLink.Proofs.FrameReading
import HubLink.Proofs.MessageBuffer
import HubLink.Proofs.HubCodec
/-!
# Sessions over client frames

A session reads messages from a frame reader, reports each control message and pushes the
payload of each data message into one message buffer. Over the frames of readable hub messages,
however the frames cut and fragment their bytes, it hands out exactly those messages and reports
each control frame where it came (`runSession_delivers`).

The session loop does what one reading of the buffered bytes and the data payloads does
(`Session.loop_delivers`), and that reading reads each message's bytes back
(`Protocol.readAll_readable`).
-/
namespace HubLink

namespace SessionEvent

/-- What the event reports as arriving: a control message, or a data message. -/
def arrival : SessionEvent → Option Arrival
  | .control opcode payload => some (.control opcode payload)
  | .data .. => some .data
  | _ => none

/-- The hub messages the event hands out. -/
def messages : SessionEvent → List HubMessage
  | .data _ messages _ _ => messages
  | _ => []

end SessionEvent

namespace Protocol

variable (p : Protocol) (binder : InvocationBinder)

/-- The bytes of readable messages, one after the other, read back as those messages, as the
reader returns them, with nothing left. -/
theorem readAll_readable {ms : List HubMessage} {ws : List (List UInt8)}
    (h : List.Forall₂ (HubMessage.Readable p binder) ms ws) (pos : Nat) :
    p.readAll (fun _ => binder) pos ws.flatten = ⟨ms.map (.message ·.canon), none, []⟩ := by
  induction h generalizing pos with
  | nil =>
    have hparse : p.tryParse ((fun _ => binder) (pos + (Envelope.envelopeLength []).getD 0)) [] =
        .ok (.incomplete, []) := p.tryParse_of_pending ⟨rfl, fun n hn => by cases hn⟩ _
    simpa using @readAll_of_incomplete p (fun _ => binder) pos [] [] hparse
  | @cons m bytes ms ws hm _ ih =>
    obtain ⟨body, hbody, hlen, rfl⟩ := HubMessage.toBytes_eq_ok hm.written
    have hparse := parseBody_body p binder [] hbody
      (by simp [Envelope.maxSize] at hlen; omega) hm.described
    rw [List.append_nil] at hparse
    have hread : p.tryParse ((fun _ => binder) (pos + (Envelope.envelopeLength
        ((Envelope.varint body.length ++ body) ++ ws.flatten)).getD 0))
        ((Envelope.varint body.length ++ body) ++ ws.flatten) =
          .ok (.message m.canon, ws.flatten) := by
      rw [List.append_assoc]
      exact p.tryParse_varint hlen (hm.admitted body hbody) hparse _
    rw [List.flatten_cons, @readAll_of_ok p (fun _ => binder) pos _ _ _ hread (by simp), ih]
    rfl

end Protocol

namespace Session

open MessageBuffer

variable (p : Protocol) (binder : InvocationBinder)

/-- A session over a reader that delivers messages `ms`, with a settled buffer and enough fuel,
reports each control message at its place and a data message for each data message, hands out
the hub messages that reading the buffered bytes and the data payloads gives, and ends with the
bytes that reading leaves, when the reading meets no error. -/
theorem loop_delivers : ∀ (ms : List FrameMessage) (r : FrameReader) (b : MessageBuffer)
    (pos fuel : Nat), r.Delivers ms → ms.length < fuel → Settled p b →
    (p.readAll (fun _ => binder) pos (b.bytes ++ FrameMessage.dataBytes ms)).error = none →
    (loop p binder r b fuel).filterMap SessionEvent.arrival = ms.map FrameMessage.arrival ∧
      (loop p binder r b fuel).flatMap SessionEvent.messages =
        (p.readAll (fun _ => binder) pos (b.bytes ++ FrameMessage.dataBytes ms)).messages ∧
      (loop p binder r b fuel).getLast? =
        some (.finished (p.readAll (fun _ => binder) pos
          (b.bytes ++ FrameMessage.dataBytes ms)).rest.length)
  | [], r, b, pos, fuel, hr, hfuel, hb, _ => by
    obtain ⟨k, rfl⟩ : ∃ k, fuel = k + 1 := ⟨fuel - 1, by simp at hfuel; omega⟩
    have hend := FrameReader.readMessage_end hr
    have hparse : p.tryParse ((fun _ => binder) (pos + (Envelope.envelopeLength b.bytes).getD 0))
        b.bytes = .ok (.incomplete, b.bytes) := p.tryParse_of_pending hb.1 _
    have hrd := @Protocol.readAll_of_incomplete p (fun _ => binder) pos b.bytes b.bytes hparse
    rcases hread : r.readMessage with ⟨res, r'⟩
    rw [hread] at hend
    simp only at hend
    subst hend
    simp [loop, hread, hrd, Reading.messages, FrameMessage.dataBytes, size, SessionEvent.arrival,
      SessionEvent.messages]
  | m :: ms, r, b, pos, fuel, hr, hfuel, hb, herr => by
    obtain ⟨k, rfl⟩ : ∃ k, fuel = k + 1 := ⟨fuel - 1, by omega⟩
    obtain ⟨r', hread, hr'⟩ := FrameReader.readMessage_next hr
    have hfuel' : ms.length < k := by simp at hfuel; omega
    by_cases hc : m.isControl = true
    · have hdata : FrameMessage.dataBytes (m :: ms) = FrameMessage.dataBytes ms := by
        simp [FrameMessage.dataBytes, hc]
      rw [hdata] at herr ⊢
      obtain ⟨h₁, h₂, h₃⟩ := loop_delivers ms r' b pos k hr' hfuel' hb herr
      simp only [loop, hread, hc, if_true]
      refine ⟨?_, ?_, ?_⟩
      · simp [SessionEvent.arrival, FrameMessage.arrival, hc, h₁]
      · simp [SessionEvent.messages, h₂]
      · rw [List.getLast?_cons, h₃]
        rfl
    · have hnc : m.isControl = false := by simpa using hc
      have hdata : FrameMessage.dataBytes (m :: ms) = m.payload ++ FrameMessage.dataBytes ms := by
        simp [FrameMessage.dataBytes, hnc]
      rw [hdata, ← List.append_assoc, Protocol.readAll_append] at herr ⊢
      cases hde : (p.readAll (fun _ => binder) pos (b.bytes ++ m.payload)).error with
      | some e => simp [Protocol.readOn, hde] at herr
      | none =>
        obtain ⟨hp, hb'⟩ := push_of_ok p binder hb m.payload pos hde
        generalize p.readAll (fun _ => binder) pos (b.bytes ++ m.payload) = d at herr hp hb' hde ⊢
        simp only [Protocol.readOn, hde] at herr ⊢
        obtain ⟨h₁, h₂, h₃⟩ := loop_delivers ms r' _
          (pos + ((b.bytes ++ m.payload).length - d.rest.length)) k hr' hfuel' hb' herr
        simp only [loop, hread, hnc, Bool.false_eq_true, if_false, hp]
        refine ⟨?_, ?_, ?_⟩
        · simp [SessionEvent.arrival, FrameMessage.arrival, hnc, h₁]
        · simp [SessionEvent.messages, h₂, Reading.messages]
        · rw [List.getLast?_cons, h₃]
          rfl

end Session

/-- A session over the frames of readable hub messages hands out exactly those messages, as the
reader returns them, and ends with nothing buffered; each control frame is reported, with its
payload, where it came. The frames may cut the messages' bytes anywhere, a data message may be
fragmented, control frames may come between any two frames, and every frame has its own key;
the frames and the messages they make must fit the reader's limits. -/
theorem runSession_delivers (p : Protocol) (binder : InvocationBinder) (config : ReaderConfig)
    {ms : List HubMessage} {ws : List (List UInt8)}
    (hms : List.Forall₂ (HubMessage.Readable p binder) ms ws) {frames : List ClientFrame}
    (hsend : ∀ f ∈ frames, f.Sendable config.maxPayloadSize)
    (hshape : ClientFrame.Assembles config.maxMessageSize none frames)
    (hdata : ClientFrame.dataBytes frames = ws.flatten) :
    (runSession p binder config (ClientFrame.wire frames)).filterMap SessionEvent.arrival =
        frames.filterMap ClientFrame.arrival ∧
      (runSession p binder config (ClientFrame.wire frames)).flatMap SessionEvent.messages =
        ms.map HubMessage.canon ∧
      (runSession p binder config (ClientFrame.wire frames)).getLast? = some (.finished 0) := by
  have hdel := FrameReader.delivers_new config hsend hshape
  have hfuel :
      (ClientFrame.messages none frames).length < (ClientFrame.wire frames).length + 1 := by
    have h₁ := ClientFrame.length_messages none frames
    have h₂ := ClientFrame.length_le_wire frames
    omega
  have hbytes : FrameMessage.dataBytes (ClientFrame.messages none frames) = ws.flatten := by
    rw [hshape.dataBytes_messages rfl ClientFrame.dataPending_none, hdata]
    rfl
  have hread := p.readAll_readable binder hms 0
  have hrun := Session.loop_delivers p binder _ _ MessageBuffer.empty 0 _ hdel hfuel
    (MessageBuffer.settled_empty p) (by simp [MessageBuffer.empty, hbytes, hread])
  have hempty : MessageBuffer.empty.bytes = [] := rfl
  simp only [hempty, List.nil_append, hbytes, hread, List.length_nil] at hrun
  obtain ⟨h₁, h₂, h₃⟩ := hrun
  refine ⟨h₁.trans (ClientFrame.messages_arrival frames ClientFrame.dataPending_none), ?_,
    h₃⟩
  rw [runSession, h₂]
  simp [Reading.messages, Function.comp_def]

/-- A call of `Send` with one text argument cut across a fragmented binary message, with a ping
frame between the fragments, under two keys. -/
theorem runSession_call_in_fragments :
    let binder := MethodTable.toBinder ⟨[("Send", [.string])], []⟩
    let m : HubMessage := .invocation ⟨some "1", "Send", [⟨.string, .string "hi"⟩], none,
      some (Headers.ofList [("k", "v")])⟩
    let bytes : List UInt8 := [19, 150, 1, 129, 161, 107, 161, 118, 161, 49, 164, 83, 101, 110,
      100, 145, 162, 104, 105, 144]
    let frames : List ClientFrame :=
      [⟨.binary, false, 0x01020304, bytes.take 8⟩, ⟨.ping, true, 0, [7]⟩,
        ⟨.continuation, true, 0xA0B0C0D0, bytes.drop 8⟩]
    let events := runSession Protocol.standard binder {} (ClientFrame.wire frames)
    List.Forall₂ (HubMessage.Readable Protocol.standard binder) [m] [bytes] ∧
      (∀ f ∈ frames, f.Sendable ({} : ReaderConfig).maxPayloadSize) ∧
      ClientFrame.Assembles ({} : ReaderConfig).maxMessageSize none frames ∧
      ClientFrame.dataBytes frames = [bytes].flatten ∧
      (events.filterMap SessionEvent.arrival = frames.filterMap ClientFrame.arrival ∧
        events.flatMap SessionEvent.messages = [m].map HubMessage.canon ∧
        events.getLast? = some (.finished 0)) := by
  intro binder m bytes frames events
  have hwritten : m.toBytes = .ok bytes := HubMessage.toBytes_of_short_body rfl (by decide) rfl
  have htext : (⟨.string, .string "hi"⟩ : Argument).ReadsBack Protocol.standard.resolver :=
    Argument.readsBack_string rfl Resolver.standard_decode (by decide)
  have hms : List.Forall₂ (HubMessage.Readable Protocol.standard binder) [m] [bytes] :=
    .cons ⟨hwritten, ⟨rfl, fun a ha => by rw [List.mem_singleton] at ha; subst ha; exact htext⟩,
      fun _ _ => rfl⟩ .nil
  have hs : ∀ f ∈ frames, f.Sendable ({} : ReaderConfig).maxPayloadSize := by
    intro f hf
    simp only [frames, List.mem_cons, List.not_mem_nil, or_false] at hf
    rcases hf with rfl | rfl | rfl <;> exact ⟨rfl, by decide, by decide, by decide⟩
  have ha : ClientFrame.Assembles ({} : ReaderConfig).maxMessageSize none frames :=
    .start (Or.inr rfl) (by decide) (.control rfl (.extend rfl (by decide) .done))
  have hd : ClientFrame.dataBytes frames = [bytes].flatten := by decide
  exact ⟨hms, hs, ha, hd, runSession_delivers Protocol.standard binder {} hms hs ha hd⟩

end HubLink

import HubLink.Proofs.FrameReading
/-!
# Messages sent in fragments

A client sends each message in frames. A control message (close, ping or pong) goes in one final
frame. A data message goes in one final text or binary frame, or split into pieces: the first in
a text or binary frame without the final bit, the others in continuation frames of which only the
last is final, with control frames sent before any piece after the first. Pieces may be empty,
and every frame has a key of its own.

Read back message by message, such frames give the control messages where their frames stand and
each data message, its pieces joined, at its last frame; then the stream ends
(`readMessage_reassembles`). The frames of a message make whole messages (`Send.assembles`), and
the messages the reader makes of them are the message's arrivals (`Send.messages_frames`).
-/
namespace HubLink

/-- A control frame as a client sends it: its opcode, key and payload. -/
structure ControlSend where
  opcode : OpCode
  key : UInt32
  payload : List UInt8
  deriving DecidableEq, Repr

namespace ControlSend

/-- The final frame it is sent in. -/
def frame (c : ControlSend) : ClientFrame := ⟨c.opcode, true, c.key, c.payload⟩

/-- The message it arrives as. -/
def message (c : ControlSend) : FrameMessage := ⟨c.opcode, c.payload⟩

/-- A close, ping or pong whose payload has at most 125 bytes and is within the frame limit. -/
def Valid (maxPayload : Nat) (c : ControlSend) : Prop :=
  (c.opcode = .close ∨ c.opcode = .ping ∨ c.opcode = .pong) ∧ c.payload.length ≤ 125 ∧
    c.payload.length ≤ maxPayload

instance (maxPayload : Nat) (c : ControlSend) : Decidable (c.Valid maxPayload) :=
  inferInstanceAs (Decidable ((c.opcode = .close ∨ c.opcode = .ping ∨ c.opcode = .pong) ∧
    c.payload.length ≤ 125 ∧ c.payload.length ≤ maxPayload))

variable {maxPayload : Nat} {c : ControlSend}

theorem Valid.isControl (h : c.Valid maxPayload) : c.opcode.isControl = true := by
  rcases h.1 with h | h | h <;> rw [h] <;> rfl

theorem Valid.sendable (h : c.Valid maxPayload) : c.frame.Sendable maxPayload where
  named := by rcases h.1 with h | h | h <;> simp [frame, h, OpCode.isReserved]
  control := fun _ => ⟨rfl, h.2.1⟩
  within := h.2.2
  fits := by
    have := h.2.1
    simp only [frame]
    omega

end ControlSend

/-- A piece of a data message after its first: the control frames sent before it, its key and its
bytes. -/
structure Piece where
  controls : List ControlSend
  key : UInt32
  bytes : List UInt8
  deriving DecidableEq, Repr

namespace Piece

/-- The frames of the pieces after the first: each piece's control frames, then its continuation
frame, final for the last piece. -/
def frames : List Piece → List ClientFrame
  | [] => []
  | p :: ps => p.controls.map ControlSend.frame ++ ⟨.continuation, ps.isEmpty, p.key, p.bytes⟩ ::
      frames ps

/-- The control messages sent between the pieces. -/
def controlMessages (ps : List Piece) : List FrameMessage :=
  ps.flatMap fun p => p.controls.map ControlSend.message

/-- The bytes of the pieces, joined. -/
def joined (ps : List Piece) : List UInt8 := ps.flatMap bytes

/-- What a piece may be sent with: bytes within the frame limit and below `2 ^ 63`, the largest
length a frame header holds, and valid control frames. -/
def Fits (maxPayload : Nat) (p : Piece) : Prop :=
  p.bytes.length ≤ maxPayload ∧ p.bytes.length < 2 ^ 63 ∧ ∀ c ∈ p.controls, c.Valid maxPayload

instance (maxPayload : Nat) (p : Piece) : Decidable (p.Fits maxPayload) :=
  inferInstanceAs (Decidable (p.bytes.length ≤ maxPayload ∧ p.bytes.length < 2 ^ 63 ∧
    ∀ c ∈ p.controls, c.Valid maxPayload))

@[simp]
theorem frames_nil : frames [] = [] := rfl

theorem frames_cons (p : Piece) (ps : List Piece) :
    frames (p :: ps) = p.controls.map ControlSend.frame ++
      ⟨.continuation, ps.isEmpty, p.key, p.bytes⟩ :: frames ps := rfl

@[simp]
theorem controlMessages_nil : controlMessages [] = [] := rfl

@[simp]
theorem controlMessages_cons (p : Piece) (ps : List Piece) :
    controlMessages (p :: ps) = p.controls.map ControlSend.message ++ controlMessages ps := by
  simp [controlMessages]

@[simp]
theorem joined_nil : joined [] = [] := rfl

@[simp]
theorem joined_cons (p : Piece) (ps : List Piece) : joined (p :: ps) = p.bytes ++ joined ps := by
  simp [joined]

end Piece

/-- A message as a client sends it: a control frame, or a data message with its opcode, the key and
bytes of its first piece, and the pieces after it (none when it goes in one frame). -/
inductive Send where
  | control (c : ControlSend)
  | data (opcode : OpCode) (key : UInt32) (first : List UInt8) (more : List Piece)
  deriving DecidableEq, Repr

namespace Send

/-- The frames a message is sent in. -/
def frames : Send → List ClientFrame
  | .control c => [c.frame]
  | .data op key first more => ⟨op, more.isEmpty, key, first⟩ :: Piece.frames more

/-- What arrives for a message: a control message at once; for a data message, the control
messages sent between its pieces, then the message with its pieces joined. -/
def arrivals : Send → List FrameMessage
  | .control c => [c.message]
  | .data op _ first more => Piece.controlMessages more ++ [⟨op, first ++ Piece.joined more⟩]

/-- What a client may send through a reader with frame limit `maxPayload` and message limit
`maxMessage`: valid control frames, and data messages of a text or binary opcode whose frames are
within the frame limit and below `2 ^ 63` bytes and whose joined payload is within the message
limit. -/
def Valid (maxPayload maxMessage : Nat) : Send → Prop
  | .control c => c.Valid maxPayload
  | .data op _ first more =>
    (op = .text ∨ op = .binary) ∧ first.length ≤ maxPayload ∧ first.length < 2 ^ 63 ∧
      (∀ p ∈ more, p.Fits maxPayload) ∧ (first ++ Piece.joined more).length ≤ maxMessage

instance (maxPayload maxMessage : Nat) : (m : Send) → Decidable (m.Valid maxPayload maxMessage)
  | .control c => inferInstanceAs (Decidable (c.Valid maxPayload))
  | .data op _ first more =>
    inferInstanceAs (Decidable ((op = .text ∨ op = .binary) ∧ first.length ≤ maxPayload ∧
      first.length < 2 ^ 63 ∧ (∀ p ∈ more, p.Fits maxPayload) ∧
      (first ++ Piece.joined more).length ≤ maxMessage))

end Send

namespace ClientFrame

variable {maxPayload maxMessage : Nat}

theorem sendable_data {op : OpCode} (hnamed : op.isReserved = false) (hdata : op.isControl = false)
    {fin : Bool} {key : UInt32} {payload : List UInt8} (hwithin : payload.length ≤ maxPayload)
    (hfits : payload.length < 2 ^ 63) :
    (⟨op, fin, key, payload⟩ : ClientFrame).Sendable maxPayload where
  named := hnamed
  control := by simp [hdata]
  within := hwithin
  fits := hfits

theorem assembles_controls {cs : List ControlSend} (hc : ∀ c ∈ cs, c.Valid maxPayload)
    {inside : Option Nat} {fs : List ClientFrame} (h : Assembles maxMessage inside fs) :
    Assembles maxMessage inside (cs.map ControlSend.frame ++ fs) := by
  induction cs with
  | nil => exact h
  | cons c cs ih =>
    have hc' : ∀ c ∈ cs, c.Valid maxPayload := fun c hm => hc c (by simp [hm])
    exact .control (hc c (by simp)).isControl (ih hc')

theorem messages_controls {cs : List ControlSend} (hc : ∀ c ∈ cs, c.Valid maxPayload)
    (pending : Option FrameMessage) (fs : List ClientFrame) :
    messages pending (cs.map ControlSend.frame ++ fs) =
      cs.map ControlSend.message ++ messages pending fs := by
  induction cs with
  | nil => rfl
  | cons c cs ih =>
    have hc' : ∀ c ∈ cs, c.Valid maxPayload := fun c hm => hc c (by simp [hm])
    simp [messages, ControlSend.frame, ControlSend.message, (hc c (by simp)).isControl, ih hc']

end ClientFrame

namespace Piece

open ClientFrame

variable {maxPayload maxMessage : Nat}

theorem sendable_frames {more : List Piece} (hvalid : ∀ p ∈ more, p.Fits maxPayload) :
    ∀ f ∈ frames more, f.Sendable maxPayload := by
  induction more with
  | nil => simp
  | cons p ps ih =>
    have hp := hvalid p (by simp)
    intro f hf
    simp only [frames_cons, List.mem_append, List.mem_map, List.mem_cons] at hf
    rcases hf with ⟨c, hc, rfl⟩ | rfl | hf
    · exact (hp.2.2 c hc).sendable
    · exact sendable_data rfl rfl hp.1 hp.2.1
    · exact ih (fun q hq => hvalid q (by simp [hq])) f hf

/-- The pieces after the first extend the message begun and end it with the last one. The
induction is on the pieces, with the size of the message begun generalized. -/
theorem assembles_frames {more : List Piece} (hne : more ≠ [])
    (hvalid : ∀ p ∈ more, p.Fits maxPayload) {fs : List ClientFrame}
    (hfs : Assembles maxMessage none fs) :
    ∀ {n : Nat}, n + (joined more).length ≤ maxMessage →
      Assembles maxMessage (some n) (frames more ++ fs) := by
  induction more with
  | nil => exact absurd rfl hne
  | cons p ps ih =>
    intro n hsize
    have hp := hvalid p (by simp)
    simp only [joined_cons, List.length_append] at hsize
    rw [frames_cons, List.append_assoc, List.cons_append]
    refine assembles_controls hp.2.2
      (.extend rfl (show n + p.bytes.length ≤ maxMessage by omega) ?_)
    cases ps with
    | nil => simpa using hfs
    | cons q qs =>
      simpa using ih (by simp) (fun r hr => hvalid r (by simp [hr])) (by simp at hsize ⊢; omega)

/-- The pieces after the first hand out the control messages sent between them, then the message
begun with their bytes joined to it. -/
theorem messages_frames {more : List Piece} (hne : more ≠ [])
    (hvalid : ∀ p ∈ more, p.Fits maxPayload) (fs : List ClientFrame) :
    ∀ pm : FrameMessage, messages (some pm) (frames more ++ fs) =
      controlMessages more ++ { pm with payload := pm.payload ++ joined more } ::
        messages none fs := by
  induction more with
  | nil => exact absurd rfl hne
  | cons p ps ih =>
    intro pm
    have hp := hvalid p (by simp)
    rw [frames_cons, List.append_assoc, List.cons_append, messages_controls hp.2.2]
    cases ps with
    | nil => simp [messages, join, OpCode.isControl, OpCode.toNat]
    | cons q qs =>
      have h := ih (by simp) (fun r hr => hvalid r (by simp [hr]))
        { pm with payload := pm.payload ++ p.bytes }
      simp [messages, join, OpCode.isControl, OpCode.toNat, h]

end Piece

namespace Send

open ClientFrame

variable {maxPayload maxMessage : Nat} {m : Send}

theorem sendable (hm : m.Valid maxPayload maxMessage) : ∀ f ∈ m.frames, f.Sendable maxPayload := by
  cases m with
  | control c => simpa [frames] using hm.sendable
  | data op key first more =>
    have hnamed : op.isReserved = false := by rcases hm.1 with h | h <;> simp [h, OpCode.isReserved]
    intro f hf
    simp only [frames, List.mem_cons] at hf
    rcases hf with rfl | hf
    · exact sendable_data hnamed (isControl_of_begins hm.1) hm.2.1 hm.2.2.1
    · exact Piece.sendable_frames hm.2.2.2.1 f hf

theorem assembles (hm : m.Valid maxPayload maxMessage) {fs : List ClientFrame}
    (hfs : Assembles maxMessage none fs) : Assembles maxMessage none (m.frames ++ fs) := by
  cases m with
  | control c => exact .control hm.isControl hfs
  | data op key first more =>
    have hsize := hm.2.2.2.2
    rw [List.length_append] at hsize
    refine .start hm.1 (show first.length ≤ maxMessage by omega) ?_
    cases more with
    | nil => simpa using hfs
    | cons p ps => simpa using Piece.assembles_frames (by simp) hm.2.2.2.1 hfs hsize

theorem messages_frames (hm : m.Valid maxPayload maxMessage) (fs : List ClientFrame) :
    messages none (m.frames ++ fs) = m.arrivals ++ messages none fs := by
  cases m with
  | control c => simp [frames, arrivals, messages, ControlSend.frame, ControlSend.message,
      hm.isControl]
  | data op key first more =>
    have hdata := isControl_of_begins hm.1
    cases more with
    | nil => simp [frames, arrivals, messages, join, hdata]
    | cons p ps =>
      have h := Piece.messages_frames (by simp) hm.2.2.2.1 fs ⟨op, first⟩
      simp [frames, arrivals, messages, join, hdata, h]

/-- Messages sent one after the other make whole messages, and the messages made of them are
their arrivals in order. -/
theorem frames_all {sent : List Send} (hvalid : ∀ m ∈ sent, m.Valid maxPayload maxMessage) :
    Assembles maxMessage none (sent.flatMap frames) ∧
      messages none (sent.flatMap frames) = sent.flatMap arrivals := by
  induction sent with
  | nil => exact ⟨.done, rfl⟩
  | cons m ms ih =>
    have hm := hvalid m (by simp)
    obtain ⟨hasm, hmsg⟩ := ih (fun m' hm' => hvalid m' (by simp [hm']))
    simp only [List.flatMap_cons]
    exact ⟨assembles hm hasm, by rw [messages_frames hm, hmsg]⟩

end Send

namespace FrameReader

/-- A reader that delivers messages hands them out one per read, then the end of the stream. The
induction is on the messages, with the reader generalized. -/
theorem repeatRead_readMessage (ms : List FrameMessage) :
    ∀ {r : FrameReader} {count : Nat}, r.Delivers ms → ms.length < count →
      (r.repeatRead readMessage count).1 = ms.map some ++ [none] ∧
        (r.repeatRead readMessage count).2.1 = none := by
  induction ms with
  | nil =>
    intro r count h hcount
    obtain ⟨k, rfl⟩ : ∃ k, count = k + 1 := ⟨count - 1, by simp at hcount; omega⟩
    have hend := readMessage_end h
    rcases hr : r.readMessage with ⟨res, r'⟩
    rw [hr] at hend
    simp only at hend
    simp [repeatRead, hr, hend]
  | cons m ms ih =>
    intro r count h hcount
    obtain ⟨k, rfl⟩ : ∃ k, count = k + 1 := ⟨count - 1, by simp at hcount; omega⟩
    obtain ⟨r', hr, h'⟩ := readMessage_next h
    obtain ⟨h1, h2⟩ := ih h' (by simp at hcount; omega)
    rcases hrun : r'.repeatRead readMessage k with ⟨items, e, r''⟩
    rw [hrun] at h1 h2
    simp only at h1 h2
    simp [repeatRead, hr, hrun, h1, h2]

end FrameReader

/-- Control and data messages sent in frames, the data messages whole or split into pieces with
control frames between them, are read back one per read: each control message where its frame
stands, each data message with its pieces joined at its last frame, and then the end of the
stream. -/
theorem readMessage_reassembles (config : ReaderConfig) (sent : List Send)
    (hvalid : ∀ m ∈ sent, m.Valid config.maxPayloadSize config.maxMessageSize)
    {count : Nat} (hcount : (sent.flatMap Send.arrivals).length < count) :
    let run := (FrameReader.new (ClientFrame.wire (sent.flatMap Send.frames)) config).repeatRead
      FrameReader.readMessage count
    run.1 = (sent.flatMap Send.arrivals).map some ++ [none] ∧ run.2.1 = none := by
  intro run
  obtain ⟨hasm, hmsg⟩ := Send.frames_all hvalid
  have hsend : ∀ f ∈ sent.flatMap Send.frames, f.Sendable config.maxPayloadSize := by
    intro f hf
    obtain ⟨m, hm, hf⟩ := List.mem_flatMap.mp hf
    exact Send.sendable (hvalid m hm) f hf
  have hdel := FrameReader.delivers_new config hsend hasm
  rw [hmsg] at hdel
  exact FrameReader.repeatRead_readMessage _ hdel hcount

/-- A text message in two pieces with a ping between them: the ping arrives first, then the text
with its pieces joined. -/
theorem reassembles_ping_between_pieces :
    (∀ m ∈ [Send.data .text 1 [104] [⟨[⟨.ping, 2, [7]⟩], 3, [105]⟩]],
        m.Valid ({} : ReaderConfig).maxPayloadSize ({} : ReaderConfig).maxMessageSize) ∧
      ([Send.data .text 1 [104] [⟨[⟨.ping, 2, [7]⟩], 3, [105]⟩]].flatMap Send.arrivals).length < 3 ∧
      let run := (FrameReader.new (ClientFrame.wire
          ([Send.data .text 1 [104] [⟨[⟨.ping, 2, [7]⟩], 3, [105]⟩]].flatMap Send.frames))
          {}).repeatRead FrameReader.readMessage 3
      run.1 = ([Send.data .text 1 [104] [⟨[⟨.ping, 2, [7]⟩], 3, [105]⟩]].flatMap
        Send.arrivals).map some ++ [none] ∧ run.2.1 = none :=
  ⟨by decide, by decide,
    readMessage_reassembles {} [Send.data .text 1 [104] [⟨[⟨.ping, 2, [7]⟩], 3, [105]⟩]]
      (by decide) (by decide)⟩

end HubLink

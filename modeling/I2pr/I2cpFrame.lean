import I2pr.Lib.Framing
import I2pr.Lib.BigEndian
import I2pr.Lib.Fallible

namespace I2pr.I2cp

open List

open BigEndian (encode decode slice)

inductive I2cpError
  | incomplete (needed : Nat)
  | bodyTooLarge (declared maximum : Nat)
  deriving DecidableEq, Repr

def maxI2cpBodyBytes : Nat := 64 * 1024

def frameHeaderLen : Nat := 5

def readChunkBytes : Nat := 16384

structure FrameHeader where
  bodyLength : Nat
  messageType : UInt8
  deriving DecidableEq, Repr

structure RawFrame where
  messageType : UInt8
  body : List UInt8
  deriving DecidableEq, Repr

def encodeFrame (messageType : UInt8) (body : List UInt8) : Except I2cpError (List UInt8) :=
  if maxI2cpBodyBytes < body.length then .error (.bodyTooLarge body.length maxI2cpBodyBytes)
  else .ok (encode 4 body.length ++ messageType :: body)

def decodeHeader : List UInt8 → Except I2cpError FrameHeader
  | b0 :: b1 :: b2 :: b3 :: messageType :: _ =>
    let declared := decode [b0, b1, b2, b3]
    if maxI2cpBodyBytes < declared then .error (.bodyTooLarge declared maxI2cpBodyBytes)
    else .ok ⟨declared, messageType⟩
  | input => .error (.incomplete (frameHeaderLen - input.length))

structure FrameDecoder where
  buffer : List UInt8
  deriving DecidableEq, Repr

namespace FrameDecoder

def new : FrameDecoder := ⟨[]⟩

/-- One turn of the loop of `push`: the first frame of the buffer, once all of it is there. -/
def nextFrame (buffer : List UInt8) : Except I2cpError (Option (RawFrame × List UInt8)) :=
  if buffer.length < frameHeaderLen then .ok none
  else do
    let header ← decodeHeader buffer
    let total := frameHeaderLen + header.bodyLength
    if buffer.length < total then .ok none
    else .ok (some (⟨header.messageType, slice buffer frameHeaderLen header.bodyLength⟩, buffer.drop total))

/-- The size of the buffer is checked before any frame is taken off it. -/
def push (decoder : FrameDecoder) (chunk : List UInt8) : Except I2cpError (List RawFrame) × FrameDecoder :=
  let total := decoder.buffer.length + chunk.length
  if frameHeaderLen + maxI2cpBodyBytes < total then
    (.error (.bodyTooLarge total (frameHeaderLen + maxI2cpBodyBytes)), decoder)
  else
    let drained := Framing.drain nextFrame total (decoder.buffer ++ chunk) []
    (drained.1, ⟨drained.2⟩)

def feed : FrameDecoder → List (List UInt8) → Except I2cpError (List RawFrame × FrameDecoder)
  | decoder, [] => .ok ([], decoder)
  | decoder, chunk :: chunks =>
    match decoder.push chunk with
    | (.error e, _) => .error e
    | (.ok frames, decoder) => do
      let (later, decoder) ← feed decoder chunks
      .ok (frames ++ later, decoder)

def HoldsFrame (decoder : FrameDecoder) : Prop :=
  ∃ header, decodeHeader decoder.buffer = .ok header ∧ frameHeaderLen + header.bodyLength ≤ decoder.buffer.length

end FrameDecoder

namespace RawFrame

def wire (frame : RawFrame) : List UInt8 := encode 4 frame.body.length ++ frame.messageType :: frame.body

def Fits (frame : RawFrame) : Prop := frame.body.length ≤ maxI2cpBodyBytes

@[simp] theorem length_wire (frame : RawFrame) : frame.wire.length = frameHeaderLen + frame.body.length := by
  simp only [wire, length_append, BigEndian.length_encode, length_cons, frameHeaderLen]
  omega

theorem wire_ne_nil (frame : RawFrame) : frame.wire ≠ [] := by
  simp [wire]

end RawFrame

def encodeFrames (messages : List RawFrame) : Except I2cpError (List UInt8) := do
  let frames ← messages.mapM fun message => encodeFrame message.messageType message.body
  .ok frames.flatten

variable {frame : RawFrame}

theorem encodeFrame_eq_wire (h : frame.Fits) : encodeFrame frame.messageType frame.body = .ok frame.wire :=
  if_neg (Nat.not_lt.mpr h)

theorem mapM_encodeFrame {messages : List RawFrame} (h : ∀ message ∈ messages, message.Fits) :
    (messages.mapM fun message => encodeFrame message.messageType message.body) =
      .ok (messages.map RawFrame.wire) := by
  induction messages with
  | nil => rfl
  | cons message messages ih =>
    rw [mapM_cons, encodeFrame_eq_wire (h message mem_cons_self),
      ih fun m hm => h m (mem_cons_of_mem _ hm)]
    rfl

theorem encodeFrames_eq_wire {messages : List RawFrame} (h : ∀ message ∈ messages, message.Fits) :
    encodeFrames messages = .ok (messages.flatMap RawFrame.wire) := by
  rw [encodeFrames, mapM_encodeFrame h, flatMap_def]
  rfl

theorem decodeHeader_wire (h : frame.Fits) (rest : List UInt8) :
    decodeHeader (frame.wire ++ rest) = .ok ⟨frame.body.length, frame.messageType⟩ := by
  have hread : decode (encode 4 frame.body.length) = frame.body.length :=
    BigEndian.decode_encode (lt_of_le_of_lt h (by decide))
  show (if maxI2cpBodyBytes < decode (encode 4 frame.body.length) then _
    else Except.ok (FrameHeader.mk (decode (encode 4 frame.body.length)) frame.messageType)) = _
  rw [hread, if_neg (Nat.not_lt.mpr h)]

theorem decodeHeader_start (h : frame.Fits) {buffer missing : List UInt8}
    (hstart : buffer ++ missing = frame.wire) (hlen : frameHeaderLen ≤ buffer.length) :
    decodeHeader buffer = .ok ⟨frame.body.length, frame.messageType⟩ := by
  match buffer, hlen with
  | b0 :: b1 :: b2 :: b3 :: messageType :: later, _ => rw [← decodeHeader_wire h [], append_nil, ← hstart]; rfl

namespace FrameDecoder

theorem nextFrame_wire (h : frame.Fits) (rest : List UInt8) :
    nextFrame (frame.wire ++ rest) = .ok (some (frame, rest)) := by
  have hlen : (frame.wire ++ rest).length = frameHeaderLen + frame.body.length + rest.length := by simp
  have hbody : slice (frame.wire ++ rest) frameHeaderLen frame.body.length = frame.body := by
    have hwire : frame.wire ++ rest = (encode 4 frame.body.length ++ [frame.messageType]) ++ (frame.body ++ rest) := by
      simp [RawFrame.wire]
    rw [hwire]
    exact BigEndian.slice_append (by simp [frameHeaderLen]) rfl
  rw [nextFrame, if_neg (by omega), decodeHeader_wire h]
  show (if _ then _ else _) = _
  rw [if_neg (by dsimp only; omega), hbody, drop_left' frame.length_wire]

variable {buffer : List UInt8} {messages frames : List RawFrame} {chunks : List (List UInt8)}

theorem nextFrame_start (h : frame.Fits) {missing : List UInt8} (hne : missing ≠ [])
    (hstart : buffer ++ missing = frame.wire) : nextFrame buffer = .ok none := by
  have hlen := congrArg length hstart
  rw [length_append, frame.length_wire] at hlen
  have hpos := length_pos_iff.mpr hne
  by_cases hheader : buffer.length < frameHeaderLen
  · rw [nextFrame, if_pos hheader]
  rw [nextFrame, if_neg hheader, decodeHeader_start h hstart (not_lt.mp hheader)]
  exact if_pos (by dsimp only; omega)

theorem codec : Framing.Codec RawFrame.wire nextFrame RawFrame.Fits where
  encode_ne_nil := RawFrame.wire_ne_nil
  next_nil := rfl
  next_encode _ rest h := nextFrame_wire h rest
  next_start _ _ _ h hne hstart := nextFrame_start h hne hstart

/-- Each read fits beside the part of a frame that the reads before it left. -/
def ReadsFit (messages : List RawFrame) : Nat → List (List UInt8) → Prop
  | _, [] => True
  | received, chunk :: chunks =>
    Framing.unfinished RawFrame.wire messages received + chunk.length ≤ frameHeaderLen + maxI2cpBodyBytes ∧
      ReadsFit messages (received + chunk.length) chunks

/-- No read fails, the frames are the messages in their order, no read leaves a complete frame behind and the last one
leaves nothing. -/
def Delivers (messages : List RawFrame) (chunks : List (List UInt8)) : Prop :=
  feed new chunks = .ok (messages, new) ∧
    ∀ before after, chunks = before ++ after → before ≠ [] →
      ∃ frames decoder, feed new before = .ok (frames, decoder) ∧ ¬ decoder.HoldsFrame

/-- The frames given and the bytes kept once part of the stream of `messages` has been read. -/
structure ReadTo (messages frames : List RawFrame) (buffer : List UInt8) : Prop where
  split : ∃ rest, messages = frames ++ rest ∧ Framing.InProgress RawFrame.wire rest buffer

theorem readTo_new (messages : List RawFrame) : ReadTo messages [] [] :=
  ⟨messages, rfl, Framing.inProgress_nil RawFrame.wire_ne_nil messages⟩

section Reads

variable (hbodies : ∀ message ∈ messages, message.Fits)
include hbodies

section Part

variable (h : ReadTo messages frames buffer)
include h

omit hbodies in
theorem ReadTo.unfinished_eq :
    Framing.unfinished RawFrame.wire messages ((frames.flatMap RawFrame.wire).length + buffer.length) = buffer.length := by
  obtain ⟨rest, rfl, hpart⟩ := h
  rw [Framing.unfinished_append, hpart.unfinished_eq]

theorem ReadTo.not_holdsFrame : ¬ (FrameDecoder.mk buffer).HoldsFrame := by
  obtain ⟨rest, rfl, hpart⟩ := h
  rintro ⟨header, hheader, hlen⟩
  have hnext := codec.next_inProgress (fun m hm => hbodies m (mem_append_right _ hm)) hpart
  rw [nextFrame, if_neg (by dsimp only at hlen; omega)] at hnext
  dsimp only at hheader hlen
  rw [hheader] at hnext
  replace hnext : (if _ then _ else _) = _ := hnext
  rw [if_neg (Nat.not_lt.mpr hlen)] at hnext
  cases hnext

theorem push_readTo {chunk : List UInt8}
    (hstart : frames.flatMap RawFrame.wire ++ buffer ++ chunk <+: messages.flatMap RawFrame.wire)
    (hfits : buffer.length + chunk.length ≤ frameHeaderLen + maxI2cpBodyBytes) :
    ∃ more tail, (FrameDecoder.mk buffer).push chunk = (.ok more, ⟨tail⟩) ∧ ReadTo messages (frames ++ more) tail ∧
      (frames ++ more).flatMap RawFrame.wire ++ tail = frames.flatMap RawFrame.wire ++ buffer ++ chunk := by
  obtain ⟨rest, rfl, -⟩ := h
  rw [flatMap_append, append_assoc] at hstart
  obtain ⟨more, rest, tail, rfl, hsplit, hpart, hdrain⟩ := codec.drain_stream []
    (fun m hm => hbodies m (mem_append_right _ hm)) ((prefix_append_right_inj _).mp hstart)
    length_append.le
  refine ⟨more, tail, ?_, ⟨rest, (append_assoc ..).symm, hpart⟩, ?_⟩
  · rw [push, if_neg (Nat.not_lt.mpr hfits), hdrain]
    rfl
  · rw [flatMap_append, append_assoc, ← hsplit, append_assoc]

theorem feed_readTo
    (hstart : frames.flatMap RawFrame.wire ++ buffer ++ chunks.flatten <+: messages.flatMap RawFrame.wire)
    (hfits : ReadsFit messages ((frames.flatMap RawFrame.wire).length + buffer.length) chunks) :
    ∃ more tail, feed ⟨buffer⟩ chunks = .ok (more, ⟨tail⟩) ∧ ReadTo messages (frames ++ more) tail ∧
      (frames ++ more).flatMap RawFrame.wire ++ tail = frames.flatMap RawFrame.wire ++ buffer ++ chunks.flatten := by
  induction chunks generalizing frames buffer with
  | nil => exact ⟨[], buffer, rfl, by rwa [append_nil], by simp⟩
  | cons chunk chunks ih =>
    rw [flatten_cons, ← append_assoc] at hstart
    obtain ⟨hfirst, hlater⟩ := hfits
    rw [h.unfinished_eq] at hfirst
    obtain ⟨now, tail, hpush, hread, hbytes⟩ := push_readTo hbodies h ((prefix_append _ _).trans hstart) hfirst
    have hlen := congrArg length hbytes
    simp only [length_append] at hlen
    rw [← hbytes] at hstart
    rw [← hlen] at hlater
    obtain ⟨more, last, hfeed, hend, hall⟩ := ih hread hstart hlater
    refine ⟨now ++ more, last, ?_, by rwa [← append_assoc], ?_⟩
    · rw [feed, hpush]
      dsimp only
      rw [hfeed]
      rfl
    · rw [← append_assoc, hall, hbytes, flatten_cons, ← append_assoc]

theorem feed_error
    (hstart : frames.flatMap RawFrame.wire ++ buffer ++ chunks.flatten <+: messages.flatMap RawFrame.wire)
    (hfits : ¬ ReadsFit messages ((frames.flatMap RawFrame.wire).length + buffer.length) chunks) :
    ∃ e, feed ⟨buffer⟩ chunks = .error e := by
  induction chunks generalizing frames buffer with
  | nil => exact absurd trivial hfits
  | cons chunk chunks ih =>
    rw [flatten_cons, ← append_assoc] at hstart
    by_cases hfirst : buffer.length + chunk.length ≤ frameHeaderLen + maxI2cpBodyBytes
    · obtain ⟨now, tail, hpush, hread, hbytes⟩ := push_readTo hbodies h ((prefix_append _ _).trans hstart) hfirst
      have hlen := congrArg length hbytes
      simp only [length_append] at hlen
      have hlater : ¬ ReadsFit messages (((frames ++ now).flatMap RawFrame.wire).length + tail.length) chunks := by
        rw [hlen]
        exact fun hlater => hfits ⟨by rwa [h.unfinished_eq], hlater⟩
      rw [← hbytes] at hstart
      obtain ⟨e, hfeed⟩ := ih hread hstart hlater
      refine ⟨e, ?_⟩
      rw [feed, hpush]
      dsimp only
      rw [hfeed]
      rfl
    · obtain ⟨e, hpush⟩ : ∃ e, ((FrameDecoder.mk buffer).push chunk).1 = .error e :=
        ⟨_, congrArg Prod.fst (if_pos (not_le.mp hfirst))⟩
      refine ⟨e, ?_⟩
      rw [feed]
      split
      next e' _ heq => rw [heq] at hpush; rw [Except.error.inj hpush]
      next heq => rw [heq] at hpush; cases hpush

end Part

omit hbodies in
theorem readsFit_append {received : Nat} {before after : List (List UInt8)}
    (h : ReadsFit messages received (before ++ after)) : ReadsFit messages received before := by
  induction before generalizing received with
  | nil => trivial
  | cons chunk before ih => exact ⟨h.1, ih h.2⟩

theorem delivers_of_readsFit (hstream : chunks.flatten = messages.flatMap RawFrame.wire)
    (hfits : ReadsFit messages 0 chunks) : Delivers messages chunks := by
  have hstart : ∀ before after, chunks = before ++ after → before.flatten <+: messages.flatMap RawFrame.wire := by
    intro before after hsplit
    rw [← hstream, hsplit, flatten_append]
    exact prefix_append _ _
  constructor
  · obtain ⟨more, tail, hfeed, ⟨rest, hmessages, hpart⟩, hall⟩ :=
      feed_readTo hbodies (readTo_new messages) (hstart chunks [] (by simp)) hfits
    -- the whole stream has come, so nothing is in progress
    have hrest : tail = rest.flatMap RawFrame.wire := by
      rw [hstream, hmessages] at hall
      simpa using hall
    obtain ⟨rfl, rfl⟩ := hpart.eq_nil hrest
    simp only [nil_append, append_nil] at hmessages
    rw [new, hfeed, hmessages]
  · intro before after hsplit _
    obtain ⟨more, tail, hfeed, hread, -⟩ := feed_readTo hbodies (readTo_new messages) (hstart before after hsplit)
      (readsFit_append (hsplit ▸ hfits))
    exact ⟨more, ⟨tail⟩, hfeed, hread.not_holdsFrame hbodies⟩

theorem not_delivers_of_not_readsFit (hstream : chunks.flatten = messages.flatMap RawFrame.wire)
    (hfits : ¬ ReadsFit messages 0 chunks) : ¬ Delivers messages chunks := by
  obtain ⟨e, herror⟩ := feed_error hbodies (readTo_new messages) (hstream ▸ prefix_rfl) hfits
  rintro ⟨hfeed, -⟩
  cases hfeed.symm.trans herror

end Reads

/-- Framing is independent of the read boundaries exactly when every read fits beside what is in progress. -/
theorem delivers_iff_readsFit {messages : List RawFrame} {chunks : List (List UInt8)}
    (hbodies : ∀ message ∈ messages, message.body.length ≤ maxI2cpBodyBytes)
    (hstream : encodeFrames messages = .ok chunks.flatten)
    (_hreads : ∀ chunk ∈ chunks, chunk ≠ [] ∧ chunk.length ≤ readChunkBytes) :
    Delivers messages chunks ↔ ReadsFit messages 0 chunks := by
  rw [encodeFrames_eq_wire hbodies] at hstream
  have hwire := (Except.ok.inj hstream).symm
  constructor
  · intro hdelivers
    by_contra hfits
    exact not_delivers_of_not_readsFit hbodies hwire hfits hdelivers
  · exact delivers_of_readsFit hbodies hwire

theorem delivers_two_reads : Delivers [⟨8, [1]⟩, ⟨9, []⟩] [[0, 0, 0, 1, 8, 1], [0, 0, 0, 0, 9]] :=
  (delivers_iff_readsFit (by decide) rfl (by decide)).mpr ⟨by decide, by decide, trivial⟩

/-- A frame with a body of the largest size and an empty one. -/
def largestThenEmpty : List RawFrame := [⟨0, List.replicate 65536 0⟩, ⟨0, []⟩]

/-- Four full reads, and the rest of both frames in a fifth. -/
def lastReadAcross : List (List UInt8) :=
  [[0, 1, 0, 0] ++ List.replicate 16380 0, List.replicate 16384 0, List.replicate 16384 0, List.replicate 16384 0,
    List.replicate 10 0]

theorem wire_largestThenEmpty : largestThenEmpty.flatMap RawFrame.wire = [0, 1, 0, 0] ++ replicate 65542 0 := by
  have hfirst : RawFrame.wire ⟨0, replicate 65536 0⟩ = [0, 1, 0, 0] ++ replicate 65537 0 := by
    rw [RawFrame.wire, length_replicate]
    rfl
  have hsecond : RawFrame.wire ⟨0, []⟩ = replicate 5 0 := by decide
  rw [largestThenEmpty, flatMap_cons, hfirst, flatMap_cons, hsecond, flatMap_nil, append_nil,
    append_assoc, replicate_append_replicate]

theorem flatten_lastReadAcross : lastReadAcross.flatten = [0, 1, 0, 0] ++ replicate 65542 0 := by
  simp only [lastReadAcross, flatten_cons, flatten_nil, append_nil, append_assoc,
    replicate_append_replicate]

/-- The fifth read would take the buffer to 65546 bytes, although 65541 of them are a whole frame. -/
theorem not_delivers_lastReadAcross : (∀ message ∈ largestThenEmpty, message.body.length ≤ maxI2cpBodyBytes) ∧
      encodeFrames largestThenEmpty = .ok lastReadAcross.flatten ∧
      (∀ chunk ∈ lastReadAcross, chunk ≠ [] ∧ chunk.length ≤ readChunkBytes) ∧
      ¬ Delivers largestThenEmpty lastReadAcross := by
  have hbodies : ∀ message ∈ largestThenEmpty, message.Fits := by
    simp only [largestThenEmpty, mem_cons, not_mem_nil, or_false, RawFrame.Fits]
    rintro message (rfl | rfl)
    · rw [length_replicate]
      decide
    · decide
  have hwire := flatten_lastReadAcross.trans wire_largestThenEmpty.symm
  refine ⟨hbodies, by rw [encodeFrames_eq_wire hbodies, hwire], ?_, ?_⟩
  · simp only [lastReadAcross, mem_cons, not_mem_nil, or_false]
    rintro chunk (rfl | rfl | rfl | rfl | rfl)
    all_goals simp [readChunkBytes, -reduceReplicate]
  · refine not_delivers_of_not_readsFit hbodies hwire ?_
    simp [ReadsFit, lastReadAcross, largestThenEmpty, Framing.unfinished, RawFrame.length_wire, frameHeaderLen,
      maxI2cpBodyBytes, -reduceReplicate]

end FrameDecoder

end I2pr.I2cp

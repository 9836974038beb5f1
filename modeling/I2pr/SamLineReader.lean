import I2pr.Lib.Lines
import I2pr.Lib.Reads
import I2pr.Lib.Utf8Lossy

namespace I2pr.Sam

open List

def maxSamLineBytes : Nat := 8192

def readBufferBytes : Nat := 4096

def lf : UInt8 := 0x0a

def cr : UInt8 := 0x0d

def isControl (byte : UInt8) : Bool := byte < 0x20 || byte == 0x7f

inductive LineEvent
  | completeLine (line : List UInt8)
  | overflowLine (observed ceiling : Nat)
  | controlByteInLine (byte : UInt8) (index : Nat)
  | needMore
  deriving DecidableEq, Repr

structure LineReader where
  buf : List UInt8
  lineCeiling : Nat
  rejectControlBytes : Bool
  deriving DecidableEq, Repr

def stripCr (content : List UInt8) : List UInt8 :=
  if content.getLast? = some cr then content.dropLast else content

namespace LineReader

def withCeiling (lineCeiling : Nat) : LineReader := ⟨[], max 1 (min lineCeiling maxSamLineBytes), true⟩

def new : LineReader := withCeiling maxSamLineBytes

/-- The end of `push`: the first line that is already in the buffer. Its bytes are not looked at. -/
def takeLine (reader : LineReader) : LineEvent × LineReader :=
  match Lines.splitOnce lf reader.buf with
  | none => (.needMore, reader)
  | some (content, rest) =>
    let line := stripCr content
    if reader.lineCeiling < line.length then
      (.overflowLine line.length reader.lineCeiling, { reader with buf := rest })
    else (.completeLine line, { reader with buf := rest })

def push (reader : LineReader) : List UInt8 → LineEvent × LineReader
  | [] => reader.takeLine
  | byte :: rest =>
    if reader.lineCeiling ≤ reader.buf.length ∧ lf ∉ reader.buf then
      (.overflowLine reader.buf.length reader.lineCeiling, { reader with buf := [] })
    else if byte = lf then
      let line := stripCr reader.buf
      if reader.lineCeiling < line.length then
        (.overflowLine line.length reader.lineCeiling, { reader with buf := [] })
      -- the rest of the read is kept as it is
      else (.completeLine line, { reader with buf := rest })
    else if byte = cr then push { reader with buf := reader.buf ++ [byte] } rest
    else if reader.rejectControlBytes ∧ isControl byte then
      (.controlByteInLine byte reader.buf.length, { reader with buf := [] })
    else push { reader with buf := reader.buf ++ [byte] } rest

def takeBuffered (reader : LineReader) : List UInt8 × LineReader := (reader.buf, { reader with buf := [] })

end LineReader

inductive Received
  | command (line : List UInt8)
  | failed (event : LineEvent)
  | eof
  deriving DecidableEq, Repr

/-- One call of `receive_command`, with the reads still to come. -/
def receiveCommand (reader : LineReader) (reads : List (List UInt8)) : Received × LineReader × List (List UInt8) :=
  match reader.push [] with
  | (.completeLine line, reader) => (.command line, reader, reads)
  | (.needMore, reader) =>
    match reads with
    | [] => (.eof, reader, [])
    | read :: reads =>
      match reader.push read with
      | (.completeLine line, reader) => (.command line, reader, reads)
      | (.needMore, reader) => receiveCommand reader reads
      | (event, reader) => (.failed event, reader, reads)
  | (event, reader) => (.failed event, reader, reads)

inductive ParseError
  | lineTooLong (actual maximum : Nat)
  | empty
  | containsNul
  | containsControlByte (byte : UInt8) (index : Nat)
  deriving DecidableEq, Repr

/-- What `parse_line` checks before it looks for tokens. -/
def checkLine (text : List UInt8) : Except ParseError Unit :=
  if maxSamLineBytes < text.length then .error (.lineTooLong text.length maxSamLineBytes)
  else if text = [] then .error .empty
  else
    match text.zipIdx.find? fun indexed => isControl indexed.1 with
    | none => .ok ()
    | some (byte, index) => if byte = 0 then .error .containsNul else .error (.containsControlByte byte index)

/-- A complete line that is overlong as text, or carries a control byte. -/
def endsConnection (line : List UInt8) : Bool :=
  match checkLine (Utf8.lossy line) with
  | .error .empty => false
  | .error _ => true
  | .ok () => false

/-- The lines before the one that ends the connection, if one does. -/
structure Outcome where
  lines : List (List UInt8)
  ended : Bool
  deriving DecidableEq, Repr

def session : Nat → LineReader → List (List UInt8) → Outcome
  | 0, _, _ => ⟨[], false⟩
  | fuel + 1, reader, reads =>
    match receiveCommand reader reads with
    | (.command line, reader, reads) =>
      if endsConnection line then ⟨[], true⟩
      else
        let later := session fuel reader reads
        ⟨line :: later.lines, later.ended⟩
    | (.failed _, _, _) => ⟨[], true⟩
    | (.eof, _, _) => ⟨[], false⟩

/-- A line takes a byte at least, so as many calls as bytes and one more come to the end of the stream. -/
def outcome (reads : List (List UInt8)) : Outcome := session (reads.flatten.length + 1) .new reads

def receiveLines : Nat → LineReader → List (List UInt8) → Option (LineReader × List (List UInt8))
  | 0, reader, reads => some (reader, reads)
  | count + 1, reader, reads =>
    match receiveCommand reader reads with
    | (.command _, reader, reads) => receiveLines count reader reads
    | _ => none

def afterLines : Nat → List UInt8 → List UInt8
  | 0, stream => stream
  | count + 1, stream =>
    match Lines.splitOnce lf stream with
    | some (_, rest) => afterLines count rest
    | none => []

structure IsCut (stream : List UInt8) (reads : List (List UInt8)) : Prop where
  flatten_eq : reads.flatten = stream
  reads_fit : ∀ read ∈ reads, read ≠ [] ∧ read.length ≤ readBufferBytes

/-- The outcome and the bytes left for raw mode do not depend on how the stream is cut. -/
def SegmentationFree (stream : List UInt8) : Prop :=
  (∀ reads reads', IsCut stream reads → IsCut stream reads' → outcome reads = outcome reads') ∧
    ∀ reads, IsCut stream reads → ∀ count reader unread, receiveLines count .new reads = some (reader, unread) →
      reader.takeBuffered.1 ++ unread.flatten = afterLines count stream

/-- The control bytes the reader stops at, before the end of the line. -/
def isStray (byte : UInt8) : Bool := byte ≠ cr && isControl byte

/-- What stands before a line feed, when it ends the connection. -/
def lineEnds (content : List UInt8) : Bool := maxSamLineBytes ≤ content.length || endsConnection (stripCr content)

/-- The line without a line feed is the first, or comes after one that ends the connection, or is overlong, or has no
stray control byte, or has one that no read can hold together with the line feed before it. -/
def Settled (stream : List UInt8) : Prop :=
  ∀ before tail, stream = before ++ lf :: tail → lf ∉ tail →
    (∃ content ∈ before.splitOn lf, lineEnds content) ∨ maxSamLineBytes < tail.length ∨
      (∀ byte ∈ tail, ¬ isStray byte) ∨ ∃ byte ∈ tail.drop (readBufferBytes - 1), isStray byte

def holding (buf : List UInt8) : LineReader := { LineReader.new with buf := buf }

/-- Bytes the reader only keeps. -/
structure Quiet (buf bytes : List UInt8) : Prop where
  lf_notMem : lf ∉ bytes
  fits : buf.length + bytes.length ≤ maxSamLineBytes
  not_stray : ∀ byte ∈ bytes, ¬ isStray byte

variable {buf bytes content rest tail before : List UInt8} {fuel checked : Nat} {byte : UInt8}
  {reads : List (List UInt8)} {reader : LineReader}

theorem Quiet.of_append {a b : List UInt8} (h : Quiet buf (a ++ b)) : Quiet buf a ∧ Quiet (buf ++ a) b := by
  have hfits := h.fits
  rw [length_append] at hfits
  obtain ⟨hlfa, hlfb⟩ := not_or.mp (mem_append.not.mp h.lf_notMem)
  obtain ⟨ha, hb⟩ := forall_mem_append.mp h.not_stray
  exact ⟨⟨hlfa, by omega, ha⟩, hlfb, by rw [length_append]; omega, hb⟩

theorem push_quiet (h : Quiet buf bytes) (rest : List UInt8) :
    (holding buf).push (bytes ++ rest) = (holding (buf ++ bytes)).push rest := by
  induction bytes generalizing buf with
  | nil => rw [nil_append, append_nil]
  | cons byte bytes ih =>
    have hfits := h.fits
    rw [length_cons] at hfits
    have hlf : byte ≠ lf := fun heq => h.lf_notMem (heq ▸ mem_cons_self)
    have hstray := h.not_stray byte mem_cons_self
    have hnext : (holding (buf ++ [byte])).push (bytes ++ rest) = (holding (buf ++ byte :: bytes)).push rest := by
      rw [ih (Quiet.of_append (a := [byte]) h).2, append_assoc, singleton_append]
    rw [cons_append, LineReader.push, if_neg fun hfull => absurd hfull.1 (by show ¬ maxSamLineBytes ≤ buf.length; omega),
      if_neg hlf]
    by_cases hcr : byte = cr
    · rw [if_pos hcr]
      exact hnext
    rw [if_neg hcr, if_neg fun hcontrol => hstray (by simp [isStray, hcr, hcontrol.2])]
    exact hnext

theorem push_nil (h : lf ∉ buf) : (holding buf).push [] = (.needMore, holding buf) := by
  rw [LineReader.push, LineReader.takeLine, show (holding buf).buf = buf from rfl, Lines.splitOnce_eq_none.mpr h]

theorem length_stripCr_le (content : List UInt8) : (stripCr content).length ≤ content.length := by
  unfold stripCr
  split
  · simp
  · exact le_rfl

theorem push_nil_line (h : lf ∉ content) (hfits : content.length ≤ maxSamLineBytes) :
    (holding (content ++ lf :: rest)).push [] = (.completeLine (stripCr content), holding rest) := by
  have hlen := length_stripCr_le content
  rw [LineReader.push, LineReader.takeLine, show (holding (content ++ lf :: rest)).buf = content ++ lf :: rest from rfl,
    Lines.splitOnce_eq_some.mpr ⟨rfl, h⟩]
  exact if_neg (Nat.not_lt.mpr (hlen.trans hfits))

theorem push_line (hfits : content.length < maxSamLineBytes) (rest : List UInt8) :
    (holding content).push (lf :: rest) = (.completeLine (stripCr content), holding rest) := by
  have hlen := length_stripCr_le content
  rw [LineReader.push, if_neg fun hfull => absurd hfull.1 (Nat.not_le.mpr hfits), if_pos rfl]
  exact if_neg (Nat.not_lt.mpr (hlen.trans hfits.le))

def Fault (content : List UInt8) (byte : UInt8) : Prop :=
  lf ∉ content ∧ (maxSamLineBytes ≤ content.length ∨ byte ≠ lf ∧ isStray byte)

def proceed (result : LineEvent × LineReader) (reads : List (List UInt8)) : Received × LineReader × List (List UInt8) :=
  match result with
  | (.completeLine line, reader) => (.command line, reader, reads)
  | (.needMore, reader) => receiveCommand reader reads
  | (event, reader) => (.failed event, reader, reads)

theorem proceed_fault (h : Fault content byte) (rest : List UInt8) (reads : List (List UInt8)) :
    ∃ event after, proceed ((holding content).push (byte :: rest)) reads = (.failed event, after) := by
  obtain ⟨hlf, hfault⟩ := h
  by_cases hfull : maxSamLineBytes ≤ content.length
  · rw [LineReader.push, if_pos ⟨hfull, hlf⟩]
    exact ⟨_, _, rfl⟩
  obtain ⟨hbyte, hstray⟩ := hfault.resolve_left hfull
  simp only [isStray, Bool.and_eq_true, decide_eq_true_eq] at hstray
  rw [LineReader.push, if_neg fun h => hfull h.1, if_neg hbyte, if_neg hstray.1, if_pos ⟨rfl, hstray.2⟩]
  exact ⟨_, _, rfl⟩

theorem receiveCommand_nil (h : lf ∉ buf) : receiveCommand (holding buf) [] = (.eof, holding buf, []) := by
  rw [receiveCommand, push_nil h]

theorem receiveCommand_cons (h : lf ∉ buf) (read : List UInt8) (reads : List (List UInt8)) :
    receiveCommand (holding buf) (read :: reads) = proceed ((holding buf).push read) reads := by
  rw [receiveCommand, push_nil h]
  rfl

theorem receiveCommand_line (h : lf ∉ content) (hfits : content.length ≤ maxSamLineBytes) (reads : List (List UInt8)) :
    receiveCommand (holding (content ++ lf :: rest)) reads = (.command (stripCr content), holding rest, reads) := by
  rw [receiveCommand, push_nil_line h hfits]

theorem proceed_quiet (hbuf : lf ∉ buf) (h : Quiet buf bytes) (reads : List (List UInt8)) :
    proceed ((holding buf).push bytes) reads = receiveCommand (holding (buf ++ bytes)) reads := by
  have hpush := push_quiet h []
  rw [append_nil] at hpush
  rw [hpush, push_nil (by simp [hbuf, h.lf_notMem])]
  rfl

theorem receiveCommand_quiet (hbuf : lf ∉ buf)
    (h : Quiet buf reads.flatten) : ∃ reader unread, receiveCommand (holding buf) reads = (.eof, reader, unread) := by
  induction reads generalizing buf with
  | nil => exact ⟨_, _, receiveCommand_nil hbuf⟩
  | cons read reads ih =>
    obtain ⟨hread, hlater⟩ := Quiet.of_append h
    rw [receiveCommand_cons hbuf, proceed_quiet hbuf hread]
    exact ih (by simp [hbuf, hread.lf_notMem]) hlater

/-- The call comes to the byte behind the quiet ones, in whichever read it is. -/
theorem receiveCommand_at (hbuf : lf ∉ buf) (h : Quiet buf bytes) (hdata : reads.flatten = bytes ++ byte :: rest) :
    receiveCommand (holding buf) reads =
      proceed ((holding (buf ++ bytes)).push (byte :: (Reads.after (bytes.length + 1) reads).1))
        (Reads.after (bytes.length + 1) reads).2 := by
  induction reads generalizing buf bytes with
  | nil => simp at hdata
  | cons read reads ih =>
    rw [flatten_cons] at hdata
    rw [receiveCommand_cons hbuf, Reads.after]
    rcases append_eq_append_iff.mp hdata with ⟨later, rfl, hlater⟩ | ⟨late, rfl, hlate⟩
    · obtain ⟨hread, hquiet⟩ := Quiet.of_append h
      rw [proceed_quiet hbuf hread, ih (by simp [hbuf, hread.lf_notMem]) hquiet hlater, if_neg (by rw [length_append]; omega),
        append_assoc, length_append, show read.length + later.length + 1 - read.length = later.length + 1 by omega]
    · cases late with
      | nil =>
        rw [nil_append] at hlate
        rw [append_nil, proceed_quiet hbuf h, if_neg (by omega), Nat.add_sub_cancel_left]
        have hfits := h.fits
        have hquiet : Quiet (buf ++ bytes) [] := ⟨by simp, by simpa using hfits, by simp⟩
        have hnext := ih (by simp [hbuf, h.lf_notMem]) hquiet hlate.symm
        rwa [append_nil] at hnext
      | cons first late =>
        rw [cons_append, cons.injEq] at hlate
        obtain ⟨rfl, -⟩ := hlate
        rw [push_quiet h, if_pos (by simp)]
        simp

/-- The call ends the connection. -/
def Fails (reader : LineReader) (reads : List (List UInt8)) : Prop :=
  ∃ event after, receiveCommand reader reads = (.failed event, after)

theorem fails_of_fault (hbuf : lf ∉ buf) (h : Quiet buf bytes) (hfault : Fault (buf ++ bytes) byte)
    (hdata : reads.flatten = bytes ++ byte :: rest) : Fails (holding buf) reads := by
  rw [Fails, receiveCommand_at hbuf h hdata]
  exact proceed_fault hfault _ _

/-- The call gives the line and leaves what follows it, or fails at a line that ends the connection. -/
def Answers (reader : LineReader) (reads : List (List UInt8)) (content : List UInt8)
    (after : LineReader × List (List UInt8)) : Prop :=
  (receiveCommand reader reads = (.command (stripCr content), after) ∧ content.length < maxSamLineBytes) ∨
    (lineEnds content ∧ Fails reader reads)

theorem Quiet.cons {first : UInt8} (hone : Quiet buf [first]) (h : Quiet (buf ++ [first]) bytes) :
    Quiet buf (first :: bytes) := by
  have hfits := h.fits
  simp only [length_append, length_cons, length_nil] at hfits
  exact ⟨by simpa [h.lf_notMem] using hone.lf_notMem, by rw [length_cons]; omega,
    forall_mem_cons.mpr ⟨hone.not_stray first mem_cons_self, h.not_stray⟩⟩

theorem exists_fault (hbuf : lf ∉ buf) (hfits : buf.length ≤ maxSamLineBytes)
    (hlf : lf ∉ bytes) (h : ¬ Quiet buf bytes) :
    ∃ before byte rest, bytes = before ++ byte :: rest ∧ Quiet buf before ∧ Fault (buf ++ before) byte := by
  induction bytes generalizing buf with
  | nil => exact absurd ⟨by simp, by simpa using hfits, by simp⟩ h
  | cons first bytes ih =>
    have hfirst : first ≠ lf := fun heq => hlf (heq ▸ mem_cons_self)
    by_cases hone : Quiet buf [first]
    · have hrest : ¬ Quiet (buf ++ [first]) bytes := fun hquiet => h (hone.cons hquiet)
      obtain ⟨before, byte, rest, rfl, hquiet, hfault⟩ := ih (by simp [hbuf, hfirst.symm])
        (by have := hone.fits; simpa using this) (fun hmem => hlf (mem_cons_of_mem _ hmem)) hrest
      exact ⟨first :: before, byte, rest, rfl, hone.cons hquiet, by simpa using hfault⟩
    · refine ⟨[], first, bytes, rfl, ⟨by simp, by simpa using hfits, by simp⟩, by simpa using hbuf, ?_⟩
      by_cases hfull : maxSamLineBytes ≤ buf.length
      · exact .inl (by simpa using hfull)
      refine .inr ⟨hfirst, ?_⟩
      by_contra hstray
      exact hone ⟨by simpa using hfirst.symm, by simp; omega, by simpa using hstray⟩

theorem endsConnection_of_mem {line : List UInt8} (h : byte ∈ line) (hcontrol : isControl byte) :
    endsConnection line := by
  have hascii : byte < 0x80 := by
    simp only [isControl, Bool.or_eq_true, decide_eq_true_eq, beq_iff_eq] at hcontrol
    rcases hcontrol with hlow | rfl
    · exact UInt8.lt_trans hlow (by decide)
    · decide
  have hmem := Utf8.mem_lossy hascii h
  unfold endsConnection checkLine
  by_cases hlong : maxSamLineBytes < (Utf8.lossy line).length
  · rw [if_pos hlong]
  rw [if_neg hlong, if_neg (ne_nil_of_mem hmem)]
  cases hfind : (Utf8.lossy line).zipIdx.find? fun indexed => isControl indexed.1 with
  | none =>
    obtain ⟨index, hindex⟩ := mem_iff_getElem?.mp hmem
    have hnone := find?_eq_none.mp hfind (byte, index) (mem_zipIdx_iff_getElem?.mpr hindex)
    exact absurd hcontrol hnone
  | some found =>
    dsimp only
    by_cases hnul : found.1 = 0
    · rw [if_pos hnul]
    · rw [if_neg hnul]

theorem mem_stripCr (h : byte ∈ content) (hcr : byte ≠ cr) : byte ∈ stripCr content := by
  unfold stripCr
  split
  next hlast =>
    have hne : content ≠ [] := ne_nil_of_mem h
    rw [← dropLast_append_getLast hne, mem_append, mem_singleton] at h
    rw [getLast?_eq_some_getLast hne, Option.some.injEq] at hlast
    exact h.resolve_right fun heq => hcr (heq.trans hlast)
  · exact h

theorem lineEnds_of_stray (h : byte ∈ content) (hstray : isStray byte) : lineEnds content := by
  simp only [isStray, Bool.and_eq_true, decide_eq_true_eq] at hstray
  rw [lineEnds, endsConnection_of_mem (mem_stripCr h hstray.1) hstray.2, Bool.or_true]

theorem lineEnds_eq (h : content.length < maxSamLineBytes) : lineEnds content = endsConnection (stripCr content) := by
  rw [lineEnds, decide_eq_false (Nat.not_le.mpr h), Bool.false_or]

def Outcome.after (content : List UInt8) (later : Outcome) : Outcome :=
  if lineEnds content then ⟨[], true⟩ else ⟨stripCr content :: later.lines, later.ended⟩

theorem receiveCommand_read (hbuf : lf ∉ buf)
    (hfits : buf.length ≤ maxSamLineBytes) (hlf : lf ∉ bytes) (hdata : reads.flatten = bytes ++ lf :: rest) :
    Answers (holding buf) reads (buf ++ bytes)
      (holding (Reads.after (bytes.length + 1) reads).1, (Reads.after (bytes.length + 1) reads).2) := by
  by_cases hgood : Quiet buf bytes ∧ (buf ++ bytes).length < maxSamLineBytes
  · refine .inl ⟨?_, hgood.2⟩
    rw [receiveCommand_at hbuf hgood.1 hdata, push_line hgood.2]
    rfl
  · -- the call stops at a byte of the line, or at its line feed
    have hstops : ∃ before byte later, bytes ++ [lf] = before ++ byte :: later ∧ Quiet buf before ∧
        Fault (buf ++ before) byte := by
      by_cases hquiet : Quiet buf bytes
      · exact ⟨bytes, lf, [], rfl, hquiet, by simp [hbuf, hlf], .inl (Nat.not_lt.mp fun hlt => hgood ⟨hquiet, hlt⟩)⟩
      obtain ⟨before, byte, later, rfl, hbefore, hfault⟩ := exists_fault hbuf hfits hlf hquiet
      exact ⟨before, byte, later ++ [lf], by simp, hbefore, hfault⟩
    have hends : lineEnds (buf ++ bytes) := by
      by_cases hlong : maxSamLineBytes ≤ (buf ++ bytes).length
      · rw [lineEnds, decide_eq_true hlong, Bool.true_or]
      rw [not_le] at hlong
      have hstray : ∃ byte ∈ bytes, isStray byte := by
        by_contra hnone
        push Not at hnone
        refine hgood ⟨⟨hlf, ?_, by simpa using hnone⟩, hlong⟩
        rw [length_append] at hlong
        omega
      obtain ⟨byte, hbyte, hstray⟩ := hstray
      exact lineEnds_of_stray (mem_append_right _ hbyte) hstray
    obtain ⟨before, byte, later, hsplit, hbefore, hfault⟩ := hstops
    have hat : reads.flatten = before ++ byte :: (later ++ rest) := by
      rw [hdata, ← singleton_append, ← append_assoc, hsplit]
      simp
    exact .inr ⟨hends, fails_of_fault hbuf hbefore hfault hat⟩

theorem receiveCommand_last (hfits : buf.length ≤ maxSamLineBytes) (h : lf ∉ buf ++ reads.flatten) :
    (Quiet buf reads.flatten ∧ ∃ reader unread, receiveCommand (holding buf) reads = (.eof, reader, unread)) ∨
      (¬ Quiet buf reads.flatten ∧ Fails (holding buf) reads) := by
  simp only [mem_append, not_or] at h
  by_cases hquiet : Quiet buf reads.flatten
  · exact .inl ⟨hquiet, receiveCommand_quiet h.1 hquiet⟩
  obtain ⟨before, byte, rest, hdata, hbefore, hfault⟩ := exists_fault h.1 hfits h.2 hquiet
  exact .inr ⟨hquiet, fails_of_fault h.1 hbefore hfault hdata⟩

theorem session_step {reader' : LineReader} {reads' : List (List UInt8)}
    (h : Answers reader reads content (reader', reads')) :
    session (fuel + 1) reader reads = (session fuel reader' reads').after content := by
  rcases h with ⟨hline, hshort⟩ | ⟨hends, event, _, hfailed⟩
  · rw [session, hline, Outcome.after, lineEnds_eq hshort]
  · rw [session, hfailed, Outcome.after, if_pos hends]

/-- The last line has no line feed: its bytes are checked from `checked` on. -/
def lastOutcome (checked : Nat) (tail : List UInt8) : Outcome :=
  ⟨[], maxSamLineBytes < tail.length || (tail.drop checked).any isStray⟩

theorem session_last (hfits : buf.length ≤ maxSamLineBytes) (h : lf ∉ buf ++ reads.flatten) :
    session (fuel + 1) (holding buf) reads = lastOutcome buf.length (buf ++ reads.flatten) := by
  rw [lastOutcome, drop_left]
  rcases receiveCommand_last hfits h with ⟨hquiet, reader, unread, heof⟩ | ⟨hquiet, event, after, hfailed⟩
  · have hshort : ¬ maxSamLineBytes < (buf ++ reads.flatten).length := by
      rw [length_append]
      exact Nat.not_lt.mpr hquiet.fits
    rw [session, heof, decide_eq_false hshort, any_eq_false.mpr hquiet.not_stray]
    rfl
  · rw [session, hfailed]
    have hended : maxSamLineBytes < (buf ++ reads.flatten).length ∨ ∃ byte ∈ reads.flatten, isStray byte := by
      by_contra hnone
      push Not at hnone
      refine hquiet ⟨fun hmem => h (mem_append_right _ hmem), ?_, by simpa using hnone.2⟩
      rw [← length_append]
      exact hnone.1
    rcases hended with hlong | hstray
    · rw [decide_eq_true hlong, Bool.true_or]
    · rw [any_eq_true.mpr hstray, Bool.or_true]

/-- The outcome of the pieces between the line feeds, the last of them without its own. -/
def piecesOutcome (checked : Nat) : List (List UInt8) → Outcome
  | [] => ⟨[], false⟩
  | [tail] => lastOutcome checked tail
  | content :: pieces => (piecesOutcome checked pieces).after content

theorem piecesOutcome_cons (checked : Nat) (content : List UInt8) {pieces : List (List UInt8)} (h : pieces ≠ []) :
    piecesOutcome checked (content :: pieces) = (piecesOutcome checked pieces).after content := by
  cases pieces with
  | nil => exact absurd rfl h
  | cons piece pieces => rfl

theorem ne_lf_of_notMem (h : lf ∉ content) : ∀ byte ∈ content, (byte == lf) = false :=
  fun _ hbyte => beq_false_of_ne fun heq => h (heq ▸ hbyte)

theorem piecesOutcome_line (checked : Nat) (rest : List UInt8) (h : lf ∉ content) :
    piecesOutcome checked ((content ++ lf :: rest).splitOn lf) =
      (piecesOutcome checked (rest.splitOn lf)).after content := by
  rw [splitOn_eq_splitOnP, splitOnP_append_cons_of_forall_mem (ne_lf_of_notMem h) lf (by simp)]
  exact piecesOutcome_cons checked content (splitOnP_ne_nil _ _)

theorem piecesOutcome_last (checked : Nat) (h : lf ∉ tail) :
    piecesOutcome checked (tail.splitOn lf) = lastOutcome checked tail := by
  rw [splitOn_eq_splitOnP, splitOnP_eq_singleton (ne_lf_of_notMem h)]
  rfl

/-- What a call makes of the bytes before the next line feed, and where it leaves those behind it. -/
theorem receiveCommand_next (hbuf : buf.length < readBufferBytes)
    (hreads : ∀ read ∈ reads, read.length ≤ readBufferBytes) (hlf : lf ∈ buf ++ reads.flatten) :
    ∃ content buf' reads', buf ++ reads.flatten = content ++ lf :: (buf' ++ reads'.flatten) ∧ lf ∉ content ∧
      buf'.length < readBufferBytes ∧ (∀ read ∈ reads', read.length ≤ readBufferBytes) ∧
      Answers (holding buf) reads content (holding buf', reads') := by
  have hfits : buf.length < maxSamLineBytes := hbuf.trans (by decide)
  by_cases hinBuf : lf ∈ buf
  · obtain ⟨content, later, rfl, hnot⟩ := eq_append_cons_of_mem hinBuf
    simp only [length_append, length_cons] at hbuf hfits
    exact ⟨content, later, reads, by simp, hnot, by omega, hreads,
      .inl ⟨receiveCommand_line hnot (by omega) reads, by omega⟩⟩
  · obtain ⟨bytes, rest, hdata, hnot⟩ := eq_append_cons_of_mem ((mem_append.mp hlf).resolve_left hinBuf)
    refine ⟨buf ++ bytes, _, _, ?_, by simp [hinBuf, hnot], Reads.length_after_lt (Nat.succ_pos _) (by decide) hreads,
      fun read hread => hreads read (Reads.after_subset _ _ read hread),
      receiveCommand_read hinBuf hfits.le hnot hdata⟩
    rw [Reads.flatten_after, hdata, drop_append]
    simp

/-- Any cut gives the outcome of the lines; what the cut decides is how much of the last line is checked. -/
theorem session_eq (hbuf : buf.length < readBufferBytes)
    (hreads : ∀ read ∈ reads, read.length ≤ readBufferBytes) (hfuel : (buf ++ reads.flatten).length < fuel) :
    ∃ checked < readBufferBytes, (lf ∉ buf ++ reads.flatten → checked = buf.length) ∧
      session fuel (holding buf) reads = piecesOutcome checked ((buf ++ reads.flatten).splitOn lf) := by
  induction fuel generalizing buf reads with
  | zero => exact absurd hfuel (Nat.not_lt_zero _)
  | succ fuel ih =>
    by_cases hlf : lf ∈ buf ++ reads.flatten
    · obtain ⟨content, buf', reads', hdata, hnot, hbuf', hreads', hcall⟩ := receiveCommand_next hbuf hreads hlf
      rw [hdata, length_append, length_cons] at hfuel
      obtain ⟨checked, hchecked, -, hlater⟩ := ih hbuf' hreads' (by omega)
      refine ⟨checked, hchecked, fun hnone => absurd hlf hnone, ?_⟩
      rw [session_step hcall, hlater, hdata, piecesOutcome_line checked _ hnot]
    · refine ⟨buf.length, hbuf, fun _ => rfl, ?_⟩
      rw [session_last (hbuf.trans (by decide)).le hlf, piecesOutcome_last _ hlf]

theorem outcome_eq {stream : List UInt8} (h : IsCut stream reads) :
    ∃ checked < readBufferBytes, (lf ∉ stream → checked = 0) ∧ outcome reads = piecesOutcome checked (stream.splitOn lf) := by
  obtain ⟨checked, hchecked, hnone, hsession⟩ := @session_eq [] (reads.flatten.length + 1) reads (by decide)
    (fun read hread => (h.reads_fit read hread).2) (Nat.lt_succ_self _)
  rw [nil_append, h.flatten_eq] at hnone hsession
  exact ⟨checked, hchecked, hnone, by rw [outcome, h.flatten_eq, ← hsession]; rfl⟩

/-- The bytes from the line feed before the last line to `checked` bytes of that line in one read, all others alone. -/
def cutAround (checked : Nat) (before tail : List UInt8) : List (List UInt8) :=
  Reads.singles before ++ (lf :: tail.take checked) :: Reads.singles (tail.drop checked)

theorem flatten_cutAround (checked : Nat) (before tail : List UInt8) :
    (cutAround checked before tail).flatten = before ++ lf :: tail := by
  simp [cutAround]

theorem isCut_cutAround (h : checked < readBufferBytes) (before tail : List UInt8) :
    IsCut (before ++ lf :: tail) (cutAround checked before tail) := by
  refine ⟨flatten_cutAround checked before tail, ?_⟩
  have hsingles (bytes : List UInt8) : ∀ read ∈ Reads.singles bytes, read ≠ [] ∧ read.length ≤ readBufferBytes :=
    forall_mem_map.mpr fun byte _ => ⟨cons_ne_nil _ _, show 1 ≤ readBufferBytes by decide⟩
  refine forall_mem_append.mpr ⟨hsingles before, forall_mem_cons.mpr ⟨⟨by simp, ?_⟩, hsingles _⟩⟩
  rw [length_cons, length_take]
  omega

theorem lastOutcome_length_take (checked : Nat) (tail : List UInt8) :
    lastOutcome (tail.take checked).length tail = lastOutcome checked tail := by
  rw [lastOutcome, lastOutcome, length_take]
  rcases le_total checked tail.length with h | h
  · rw [Nat.min_eq_left h]
  · rw [Nat.min_eq_right h, drop_length, drop_eq_nil_of_le h]

theorem session_cutAround (hchecked : checked < readBufferBytes) (hlf : lf ∉ tail) (hfuel : before.length + 1 < fuel) :
    session fuel (holding []) (cutAround checked before tail) =
      piecesOutcome checked ((before ++ lf :: tail).splitOn lf) := by
  induction fuel generalizing before with
  | zero => exact absurd hfuel (Nat.not_lt_zero _)
  | succ fuel ih =>
    by_cases hmem : lf ∈ before
    · obtain ⟨content, later, rfl, hnot⟩ := eq_append_cons_of_mem hmem
      simp only [length_append, length_cons] at hfuel
      have hflat := flatten_cutAround checked (content ++ lf :: later) tail
      rw [append_assoc, cons_append] at hflat ⊢
      rw [session_step (receiveCommand_read not_mem_nil (Nat.zero_le _) hnot hflat), cutAround, Reads.after_singles]
      show Outcome.after _ (session fuel (holding []) (cutAround checked later tail)) = _
      rw [ih (by omega), nil_append, piecesOutcome_line checked _ hnot]
    · obtain ⟨fuel, rfl⟩ : ∃ n, fuel = n + 1 := ⟨fuel - 1, by omega⟩
      have htail : tail.take checked ++ (Reads.singles (tail.drop checked)).flatten = tail := by simp
      rw [session_step (receiveCommand_read not_mem_nil (Nat.zero_le _) hmem (flatten_cutAround checked before tail)),
        cutAround, Reads.after_singles_append]
      dsimp only
      rw [session_last, htail, lastOutcome_length_take, nil_append, piecesOutcome_line checked _ hmem,
        piecesOutcome_last checked hlf]
      · rw [length_take]
        exact (Nat.min_le_left _ _).trans (hchecked.le.trans (by decide))
      · rwa [htail]

theorem outcome_cutAround (hchecked : checked < readBufferBytes) (hlf : lf ∉ tail) :
    outcome (cutAround checked before tail) = piecesOutcome checked ((before ++ lf :: tail).splitOn lf) := by
  refine session_cutAround hchecked hlf ?_
  rw [flatten_cutAround, length_append, length_cons]
  omega

theorem splitOn_last (hlf : lf ∉ tail) : (before ++ lf :: tail).splitOn lf = before.splitOn lf ++ [tail] := by
  rw [splitOn_eq_splitOnP, splitOnP_append_cons _ _ (by simp), splitOnP_eq_singleton (ne_lf_of_notMem hlf),
    splitOn_eq_splitOnP]

theorem piecesOutcome_congr {checked' : Nat} {contents : List (List UInt8)}
    (h : (∃ content ∈ contents, lineEnds content) ∨ lastOutcome checked tail = lastOutcome checked' tail) :
    piecesOutcome checked (contents ++ [tail]) = piecesOutcome checked' (contents ++ [tail]) := by
  induction contents with
  | nil =>
    rcases h with ⟨content, hmem, -⟩ | h
    · cases hmem
    · exact h
  | cons content contents ih =>
    rw [cons_append, piecesOutcome_cons _ _ (by simp), piecesOutcome_cons _ _ (by simp)]
    by_cases hends : lineEnds content
    · rw [Outcome.after, Outcome.after, if_pos hends, if_pos hends]
    rw [ih]
    rcases h with ⟨found, hmem, hfound⟩ | h
    · rcases mem_cons.mp hmem with rfl | hmem
      · exact absurd hfound hends
      · exact .inl ⟨found, hmem, hfound⟩
    · exact .inr h

theorem piecesOutcome_ended (checked : Nat) {contents : List (List UInt8)}
    (h : ∀ content ∈ contents, ¬ lineEnds content) :
    (piecesOutcome checked (contents ++ [tail])).ended = (lastOutcome checked tail).ended := by
  induction contents with
  | nil => rfl
  | cons content contents ih =>
    rw [cons_append, piecesOutcome_cons _ _ (by simp), Outcome.after, if_neg (h content mem_cons_self)]
    exact ih fun found hfound => h found (mem_cons_of_mem _ hfound)

theorem lastOutcome_congr {checked' : Nat} (hchecked : checked < readBufferBytes)
    (hchecked' : checked' < readBufferBytes) (h : maxSamLineBytes < tail.length ∨ (∀ byte ∈ tail, ¬ isStray byte) ∨
      ∃ byte ∈ tail.drop (readBufferBytes - 1), isStray byte) :
    lastOutcome checked tail = lastOutcome checked' tail := by
  have hany : ∀ n < readBufferBytes, (maxSamLineBytes < tail.length || (tail.drop n).any isStray) =
      decide (maxSamLineBytes < tail.length ∨ ∃ byte ∈ tail, isStray byte) := by
    intro n hn
    rcases h with hlong | hnone | ⟨byte, hbyte, hstray⟩
    · rw [decide_eq_true hlong, Bool.true_or, decide_eq_true (.inl hlong)]
    · rw [any_eq_false.mpr fun byte hbyte => hnone byte (mem_of_mem_drop hbyte), Bool.or_false]
      exact decide_eq_decide.mpr ⟨.inl, fun hor => hor.resolve_right fun ⟨byte, hbyte, hstray⟩ => hnone byte hbyte hstray⟩
    · have hdrop : byte ∈ tail.drop n := by
        rw [show readBufferBytes - 1 = n + (readBufferBytes - 1 - n) by omega, ← drop_drop] at hbyte
        exact mem_of_mem_drop hbyte
      rw [any_eq_true.mpr ⟨byte, hdrop, hstray⟩, Bool.or_true,
        decide_eq_true (.inr ⟨byte, mem_of_mem_drop hdrop, hstray⟩)]
  rw [lastOutcome, lastOutcome, hany checked hchecked, hany checked' hchecked']

/-- A call that gives a line leaves exactly what follows its line feed. -/
theorem receiveCommand_command {line : List UInt8} {reads' : List (List UInt8)}
    (hbuf : buf.length < readBufferBytes) (hreads : ∀ read ∈ reads, read.length ≤ readBufferBytes)
    (h : receiveCommand (holding buf) reads = (.command line, reader, reads')) :
    ∃ buf' content, reader = holding buf' ∧ buf'.length < readBufferBytes ∧
      (∀ read ∈ reads', read.length ≤ readBufferBytes) ∧
      Lines.splitOnce lf (buf ++ reads.flatten) = some (content, buf' ++ reads'.flatten) := by
  by_cases hlf : lf ∈ buf ++ reads.flatten
  · obtain ⟨content, buf', _, hdata, hnot, hbuf', hreads', ⟨hline, -⟩ | ⟨-, _, _, hfailed⟩⟩ :=
      receiveCommand_next hbuf hreads hlf
    · cases hline.symm.trans h
      exact ⟨buf', content, rfl, hbuf', hreads', Lines.splitOnce_eq_some.mpr ⟨hdata, hnot⟩⟩
    · cases hfailed.symm.trans h
  · rcases receiveCommand_last (hbuf.trans (by decide)).le hlf with ⟨-, _, _, heof⟩ | ⟨-, _, _, hfailed⟩
    · cases heof.symm.trans h
    · cases hfailed.symm.trans h

/-- Whenever the driver stops after a line, no byte after it is lost, repeated or changed. -/
theorem receiveLines_handover {count : Nat} {unread : List (List UInt8)}
    (hbuf : buf.length < readBufferBytes) (hreads : ∀ read ∈ reads, read.length ≤ readBufferBytes)
    (h : receiveLines count (holding buf) reads = some (reader, unread)) :
    reader.takeBuffered.1 ++ unread.flatten = afterLines count (buf ++ reads.flatten) := by
  induction count generalizing buf reads with
  | zero =>
    cases h
    rfl
  | succ count ih =>
    rw [receiveLines] at h
    split at h
    next line reader' reads' hreceive =>
      obtain ⟨buf', content, rfl, hbuf', hreads', hsplit⟩ := receiveCommand_command hbuf hreads hreceive
      rw [afterLines, hsplit]
      exact ih hbuf' hreads' h
    · cases h

theorem segmentationFree_of_settled {stream : List UInt8} (h : Settled stream) : SegmentationFree stream := by
  constructor
  · intro reads reads' hreads hreads'
    obtain ⟨checked, hchecked, hnone, houtcome⟩ := outcome_eq hreads
    obtain ⟨checked', hchecked', hnone', houtcome'⟩ := outcome_eq hreads'
    rw [houtcome, houtcome']
    by_cases hlf : lf ∈ stream
    · obtain ⟨tail, before, hsplit, hnot⟩ := eq_append_cons_of_mem (mem_reverse.mpr hlf)
      have hstream : stream = before.reverse ++ lf :: tail.reverse := by
        rw [← reverse_reverse stream, hsplit]
        simp
      have htail : lf ∉ tail.reverse := by simpa using hnot
      rw [hstream, splitOn_last htail]
      rcases h _ _ hstream htail with hends | hlast
      · exact piecesOutcome_congr (.inl hends)
      · exact piecesOutcome_congr (.inr (lastOutcome_congr hchecked hchecked' hlast))
    · rw [hnone hlf, hnone' hlf]
  · intro reads hreads count reader unread hlines
    rw [← hreads.flatten_eq]
    exact @receiveLines_handover [] reads reader count unread (by decide) (fun read hread => (hreads.reads_fit read hread).2) hlines

/-- Two cuts that differ in how much of the last line comes with the line feed before it. -/
theorem outcome_ne_of_late (hlf : lf ∉ tail)
    (hcontents : ∀ content ∈ before.splitOn lf, ¬ lineEnds content) (hshort : tail.length ≤ maxSamLineBytes)
    (hstray : ∃ byte ∈ tail, isStray byte) (hearly : ∀ byte ∈ tail.drop (readBufferBytes - 1), ¬ isStray byte) :
    outcome (cutAround 0 before tail) ≠ outcome (cutAround (readBufferBytes - 1) before tail) := by
  intro heq
  rw [outcome_cutAround (by decide) hlf, outcome_cutAround (by decide) hlf, splitOn_last hlf] at heq
  have hended := congrArg Outcome.ended heq
  rw [piecesOutcome_ended _ hcontents, piecesOutcome_ended _ hcontents, lastOutcome, lastOutcome,
    decide_eq_false (Nat.not_lt.mpr hshort), drop_zero, any_eq_true.mpr hstray,
    any_eq_false.mpr hearly] at hended
  cases hended

/-- Framing is free of segmentation exactly for the streams whose last line is settled. -/
theorem segmentationFree_iff_settled (stream : List UInt8) : SegmentationFree stream ↔ Settled stream := by
  constructor
  · rintro ⟨hsame, -⟩ before tail rfl hlf
    by_contra hnot
    push Not at hnot
    obtain ⟨hcontents, hshort, hstray, hearly⟩ := hnot
    exact outcome_ne_of_late hlf (by simpa using hcontents) hshort hstray (by simpa using hearly)
      (hsame _ _ (isCut_cutAround (by decide) before tail) (isCut_cutAround (by decide) before tail))
  · exact segmentationFree_of_settled

/-- A control byte behind a line: read with the line feed it is kept, read alone it ends the connection. -/
theorem not_segmentationFree_late_control : ¬ SegmentationFree [0x61, 0x0a, 0x01] := by
  rintro ⟨hsame, -⟩
  exact absurd (hsame [[0x61, 0x0a, 0x01]] [[0x61, 0x0a], [0x01]] ⟨rfl, by decide⟩ ⟨rfl, by decide⟩) (by decide)

end I2pr.Sam

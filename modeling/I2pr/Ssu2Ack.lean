import I2pr.Ssu2Window

namespace I2pr.Ssu2

open RunLength Counter UInt8 List

/-- The failures of the data phase that its own functions report. -/
inductive SessionError where
  | ackUnderflow
  | ackInvalid
  | outboundQueueFull
  | messageTooLarge
  | terminated
  | localPolicyDenied
deriving DecidableEq, Repr

namespace ReplayWindow

/-- The range loop of `build_ack_block` from bit offset `cursor`: a gap of clear bits, then a run of set
bits. Offsets stay below the window width, so the `u8` counters never saturate. -/
def ackRanges (bits : Nat → Bool) : Nat → Nat → List (UInt8 × UInt8)
  | 0, _ => []
  | slots + 1, cursor =>
    let nack := RunLength.run bits false (dataReplayWindowPackets - cursor) cursor
    let start := cursor + nack
    if dataReplayWindowPackets ≤ start then []
    else
      let ack := RunLength.run bits true (dataReplayWindowPackets - start) start
      if ack = 0 then []
      else (UInt8.ofNat nack, UInt8.ofNat ack) ::
        if dataReplayWindowPackets ≤ start + ack then [] else ackRanges bits slots (start + ack)

/-- `acnt`: the set bits directly below the highest packet. -/
def ackCount (bits : Nat → Bool) : Nat :=
  RunLength.run bits true (dataReplayWindowPackets - 1) 1

def buildAckBlock (w : ReplayWindow) : Option AckBlock :=
  match w.highestReceived with
  | none => none
  | some highest =>
    if w.receivedBitmap = 0#128 then none
    else
      let bits := w.receivedBitmap.getLsbD
      (AckBlock.new highest (UInt8.ofNat (ackCount bits)) (ackRanges bits maxAckRanges (ackCount bits + 1))).toOption

end ReplayWindow

namespace AckBlock

/-- Pushing an ACK run downwards from `current`: the numbers and the next value of `current`. -/
def pushRun : Nat → UInt32 → List UInt32 × UInt32
  | 0, current => ([], current)
  | count + 1, current =>
    if current = 0 then ([0], 0)
    else
      let (numbers, next) := pushRun count (current - 1)
      (current :: numbers, next)

/-- One `(nack, ack)` range of `apply_ack` from `cursor`: the numbers it acknowledges and where the next
range starts. `more` says whether further ranges follow. -/
def walkRange (cursor : Option UInt32) (more : Bool) (range : UInt8 × UInt8) :
    Except SessionError (List UInt32 × Option UInt32) :=
  let (nack, ackCount) := range
  if nack = 0 ∧ ackCount = 0 then .error .ackInvalid
  else match cursor with
    | none => .error .ackUnderflow
    | some position =>
      if position < nack.toUInt32 then .error .ackUnderflow
      else
        let top := position - nack.toUInt32
        if 0 < ackCount ∧ top.toNat + 1 < ackCount.toNat then .error .ackUnderflow
        else
          let (numbers, current) := pushRun ackCount.toNat top
          if ackCount = 0 then .ok (numbers, some current)
          else if current = 0 then
            if more then .error .ackUnderflow else .ok (numbers, none)
          else if current - 1 = 0xFFFFFFFF then .error .ackUnderflow
          else .ok (numbers, some (current - 1))

def walkRanges : Option UInt32 → List (UInt8 × UInt8) → Except SessionError (List UInt32)
  | _, [] => .ok []
  | cursor, range :: ranges => do
    let (numbers, cursor) ← walkRange cursor (!ranges.isEmpty) range
    let rest ← walkRanges cursor ranges
    .ok (numbers ++ rest)

def initialRun (ack : AckBlock) : List UInt32 :=
  (List.range (ack.ackCount.toNat + 1)).map fun offset => ack.ackThrough - UInt32.ofNat offset

/-- The packet numbers `apply_ack` treats as acknowledged. -/
def ackedNumbers (ack : AckBlock) : Except SessionError (List UInt32) :=
  if ack.ackThrough.toNat < ack.ackCount.toNat then .error .ackUnderflow
  else if ack.ackThrough.toNat ≤ ack.ackCount.toNat then
    if ack.ranges.isEmpty then .ok ack.initialRun else .error .ackUnderflow
  else do
    let rest ← walkRanges (some (ack.ackThrough - ack.ackCount.toUInt32 - 1)) ack.ranges
    .ok (ack.initialRun ++ rest)

theorem mem_pushRun (count : Nat) (top n : UInt32) :
    n ∈ (pushRun count top).1 ↔ n.toNat ≤ top.toNat ∧ top.toNat < n.toNat + count := by
  induction count generalizing top with
  | zero => simp [pushRun]
  | succ count ih =>
    unfold pushRun
    split
    next h0 => simp [h0, ← UInt32.toNat_inj]
    next h0 =>
      obtain ⟨hpos, hpred⟩ := toNat_pred h0
      simp only [mem_cons, ih, hpred, ← UInt32.toNat_inj]
      omega

theorem toNat_pushRun (count : Nat) (top : UInt32) : (pushRun count top).2.toNat = top.toNat - count := by
  induction count generalizing top with
  | zero => simp [pushRun]
  | succ count ih =>
    unfold pushRun
    split
    next h0 => simp [h0]
    next h0 =>
      obtain ⟨hpos, hpred⟩ := toNat_pred h0
      simp only [ih, hpred]
      omega

theorem toNat_sub_byte {n : UInt32} {b : UInt8} (h : b.toNat ≤ n.toNat) :
    (n - b.toUInt32).toNat = n.toNat - b.toNat := by
  rw [UInt32.toNat_sub_of_le _ _ (UInt32.le_iff_toNat_le.mpr (by simpa using h)), toNat_toUInt32]

variable {cursor : Option UInt32} {nack count : UInt8} {ranges : List (UInt8 × UInt8)}
  {numbers : List UInt32}

/-- What a range that is accepted acknowledges; the next range starts one packet too low after a run. -/
theorem walkRange_eq_ok {position : UInt32} {more : Bool} {ackCount : UInt8}
    (h : walkRange (some position) more (nack, ackCount) = .ok (numbers, cursor)) :
    (∀ n, n ∈ numbers ↔ n.toNat + nack.toNat ≤ position.toNat ∧
        position.toNat < n.toNat + nack.toNat + ackCount.toNat) ∧
      ∀ next, cursor = some next →
        next.toNat + nack.toNat + ackCount.toNat + (if ackCount = 0 then 0 else 1) ≤ position.toNat := by
  unfold walkRange at h
  simp only at h
  split at h
  · cases h
  obtain ⟨hnack, h⟩ := Fallible.ite_error_eq_ok.mp h
  have hle : nack.toNat ≤ position.toNat := by
    rw [UInt32.lt_iff_toNat_lt, toNat_toUInt32] at hnack
    omega
  have htop := toNat_sub_byte hle
  have hmem (n : UInt32) : n ∈ (pushRun ackCount.toNat (position - nack.toUInt32)).1 ↔
      n.toNat + nack.toNat ≤ position.toNat ∧ position.toNat < n.toNat + nack.toNat + ackCount.toNat := by
    rw [mem_pushRun, htop]
    omega
  have hnext := toNat_pushRun ackCount.toNat (position - nack.toUInt32)
  rw [htop] at hnext
  obtain ⟨hroom, h⟩ := Fallible.ite_error_eq_ok.mp h
  split at h
  next hzero =>
    cases Except.ok.inj h
    refine ⟨hmem, ?_⟩
    rintro _ ⟨⟩
    simp [hzero] at hnext ⊢
    omega
  next hrun =>
    split at h
    · split at h
      · cases h
      · cases Except.ok.inj h; exact ⟨hmem, by simp⟩
    next hcur =>
      split at h
      · cases h
      cases Except.ok.inj h
      obtain ⟨hpos, hpred⟩ := toNat_pred hcur
      refine ⟨hmem, ?_⟩
      rintro _ ⟨⟩
      rw [if_neg hrun, hpred]
      omega

theorem walkRange_last (position : UInt32) (nack : UInt8) {ackCount : UInt8} (hpos : 0 < ackCount.toNat)
    (hroom : nack.toNat + ackCount.toNat ≤ position.toNat + 1) :
    ∃ numbers cursor, walkRange (some position) false (nack, ackCount) = .ok (numbers, cursor) := by
  have hne : ackCount ≠ 0 := by
    rintro rfl
    simp at hpos
  have htop := toNat_sub_byte (n := position) (b := nack) (by omega)
  unfold walkRange
  simp only
  rw [if_neg (fun h => hne h.2), if_neg (by rw [UInt32.lt_iff_toNat_lt, toNat_toUInt32]; omega),
    if_neg (by rw [htop]; omega), if_neg hne]
  split
  · exact ⟨_, _, rfl⟩
  next hcur =>
    obtain ⟨hone, hpred⟩ := toNat_pred hcur
    have hlt := (pushRun ackCount.toNat (position - nack.toUInt32)).2.toNat_lt
    refine ⟨_, _, if_neg fun hmax => ?_⟩
    have := congrArg UInt32.toNat hmax
    rw [hpred] at this
    change _ = 4294967295 at this
    omega

theorem walkRanges_cons_eq_ok {range : UInt8 × UInt8} (h : walkRanges cursor (range :: ranges) = .ok numbers) :
    ∃ position first next rest, cursor = some position ∧
      walkRange (some position) (!ranges.isEmpty) range = .ok (first, next) ∧
      walkRanges next ranges = .ok rest ∧ numbers = first ++ rest := by
  rw [walkRanges] at h
  obtain ⟨⟨first, next⟩, hstep, h⟩ := Fallible.bind_eq_ok.mp h
  obtain ⟨rest, hrest, hnumbers⟩ := Fallible.bind_eq_ok.mp h
  cases cursor with
  | none =>
    unfold walkRange at hstep
    simp only at hstep
    split at hstep <;> cases hstep
  | some position => exact ⟨position, first, next, rest, rfl, hstep, hrest, (Except.ok.inj hnumbers).symm⟩

theorem walkRanges_le (h : walkRanges cursor ranges = .ok numbers) {n : UInt32} (hn : n ∈ numbers) :
    ∃ position, cursor = some position ∧ n.toNat ≤ position.toNat := by
  induction ranges generalizing cursor numbers with
  | nil => cases Except.ok.inj h; simp at hn
  | cons range ranges ih =>
    obtain ⟨position, first, next, rest, rfl, hstep, hrest, rfl⟩ := walkRanges_cons_eq_ok h
    obtain ⟨hmem, hnext⟩ := walkRange_eq_ok hstep
    refine ⟨position, rfl, ?_⟩
    rcases mem_append.mp hn with hn | hn
    · have := ((hmem n).mp hn).1
      omega
    · obtain ⟨low, hlow, hle⟩ := ih hrest hn
      have := hnext low hlow
      omega

variable {ack : AckBlock}

theorem mem_initialRun (h : ack.ackCount.toNat ≤ ack.ackThrough.toNat) (n : UInt32) : n ∈ ack.initialRun ↔
      n.toNat ≤ ack.ackThrough.toNat ∧ ack.ackThrough.toNat ≤ n.toNat + ack.ackCount.toNat := by
  simp only [initialRun, mem_map, mem_range]
  constructor
  · rintro ⟨offset, ho, rfl⟩
    rw [toNat_sub_ofNat (by omega)]
    omega
  · rintro ⟨hle, hge⟩
    refine ⟨ack.ackThrough.toNat - n.toNat, by omega, ?_⟩
    rw [← UInt32.toNat_inj, toNat_sub_ofNat (by omega)]
    omega

theorem toNat_rangeStart (ack : AckBlock) (h : ack.ackCount.toNat < ack.ackThrough.toNat) :
    (ack.ackThrough - ack.ackCount.toUInt32 - 1).toNat + ack.ackCount.toNat + 1 = ack.ackThrough.toNat := by
  have hfirst := toNat_sub_byte h.le
  have hne : ack.ackThrough - ack.ackCount.toUInt32 ≠ 0 := by
    intro h0
    rw [h0] at hfirst
    simp at hfirst
    omega
  obtain ⟨-, hpred⟩ := toNat_pred hne
  omega

theorem ackedNumbers_eq_ok {acked : List UInt32} (h : ack.ackedNumbers = .ok acked) :
    ack.ackCount.toNat ≤ ack.ackThrough.toNat ∧ (ack.ranges ≠ [] → ack.ackCount.toNat < ack.ackThrough.toNat) ∧
      ∃ rest, acked = ack.initialRun ++ rest ∧
        walkRanges (some (ack.ackThrough - ack.ackCount.toUInt32 - 1)) ack.ranges = .ok rest := by
  unfold ackedNumbers at h
  obtain ⟨hle, h⟩ := Fallible.ite_error_eq_ok.mp h
  split at h
  next hreach =>
    split at h
    next hempty =>
      have hnil := isEmpty_iff.mp hempty
      exact ⟨by omega, fun hne => absurd hnil hne, [], by simpa using (Except.ok.inj h).symm, by rw [hnil]; rfl⟩
    · cases h
  next hlt =>
    obtain ⟨rest, hwalk, h⟩ := Fallible.bind_eq_ok.mp h
    exact ⟨by omega, fun _ => by omega, rest, (Except.ok.inj h).symm, hwalk⟩

section Read

variable {ack : AckBlock} {acked : List UInt32} (hok : ack.ackedNumbers = .ok acked)
include hok

theorem mem_ackedNumbers_nil (hranges : ack.ranges = []) (n : UInt32) : n ∈ acked ↔
      n.toNat ≤ ack.ackThrough.toNat ∧ ack.ackThrough.toNat ≤ n.toNat + ack.ackCount.toNat := by
  obtain ⟨hle, -, rest, rfl, hwalk⟩ := ackedNumbers_eq_ok hok
  rw [hranges] at hwalk
  cases Except.ok.inj hwalk
  rw [append_nil, mem_initialRun hle]

theorem mem_ackedNumbers_singleton (hranges : ack.ranges = [(nack, count)]) (n : UInt32) : n ∈ acked ↔
      (n.toNat ≤ ack.ackThrough.toNat ∧ ack.ackThrough.toNat ≤ n.toNat + ack.ackCount.toNat) ∨
      (n.toNat + ack.ackCount.toNat + 1 + nack.toNat ≤ ack.ackThrough.toNat ∧
        ack.ackThrough.toNat < n.toNat + ack.ackCount.toNat + 1 + nack.toNat + count.toNat) := by
  obtain ⟨hle, hlt, rest, rfl, hwalk⟩ := ackedNumbers_eq_ok hok
  have hstart := toNat_rangeStart ack (hlt (by simp [hranges]))
  rw [hranges] at hwalk
  obtain ⟨position, first, next, tail, hpos, hstep, htail, rfl⟩ := walkRanges_cons_eq_ok hwalk
  cases Option.some.inj hpos
  cases Except.ok.inj htail
  rw [append_nil, mem_append, mem_initialRun hle, (walkRange_eq_ok hstep).1]
  omega

/-- After a nonempty range the next one is read one packet too low, so the packet its run starts with is
not among the acknowledged ones. -/
theorem notMem_ackedNumbers {nack' count' : UInt8}
    (hranges : ack.ranges = (nack, count) :: (nack', count') :: ranges) (hpos : 0 < count.toNat) {n : UInt32}
    (hn : n.toNat + ack.ackCount.toNat + 1 + nack.toNat + count.toNat + nack'.toNat = ack.ackThrough.toNat) :
    n ∉ acked := by
  obtain ⟨hle, hlt, rest, rfl, hwalk⟩ := ackedNumbers_eq_ok hok
  have hstart := toNat_rangeStart ack (hlt (by simp [hranges]))
  rw [hranges] at hwalk
  obtain ⟨position, first, next, tail, hsome, hstep, htail, rfl⟩ := walkRanges_cons_eq_ok hwalk
  cases Option.some.inj hsome
  obtain ⟨second, first', next', tail', rfl, hstep', htail', rfl⟩ := walkRanges_cons_eq_ok htail
  obtain ⟨hfirst, hnext⟩ := walkRange_eq_ok hstep
  obtain ⟨hfirst', hnext'⟩ := walkRange_eq_ok hstep'
  have hlow := hnext second rfl
  rw [if_neg (by rintro rfl; simp at hpos)] at hlow
  simp only [mem_append, not_or, mem_initialRun hle, hfirst, hfirst']
  refine ⟨by omega, by omega, by omega, fun hn' => ?_⟩
  obtain ⟨third, hthird, hle'⟩ := walkRanges_le htail' hn'
  have := hnext' third hthird
  omega

end Read

theorem ackedNumbers_nil_isOk (hranges : ack.ranges = [])
    (hrun : ack.ackCount.toNat ≤ ack.ackThrough.toNat) : ∃ acked, ack.ackedNumbers = .ok acked := by
  refine ⟨ack.initialRun, ?_⟩
  rw [ackedNumbers, if_neg (by omega)]
  simp [hranges, walkRanges, bind, Except.bind]

theorem ackedNumbers_singleton_isOk (hranges : ack.ranges = [(nack, count)])
    (hpos : 0 < count.toNat) (hrun : ack.ackCount.toNat + nack.toNat + count.toNat ≤ ack.ackThrough.toNat) :
    ∃ acked, ack.ackedNumbers = .ok acked := by
  have hstart := toNat_rangeStart ack (by omega)
  obtain ⟨numbers, next, hwalk⟩ := walkRange_last (ack.ackThrough - ack.ackCount.toUInt32 - 1) nack hpos
    (by omega)
  refine ⟨ack.initialRun ++ numbers, ?_⟩
  rw [ackedNumbers, if_neg (by omega), if_neg (by omega), hranges]
  simp [walkRanges, hwalk, bind, Except.bind]

end AckBlock

namespace ReplayWindow

variable {bits : Nat → Bool}

/-- One turn of the range loop: nothing is set any more, or a gap and a maximal run are written down. -/
theorem ackRanges_succ (bits : Nat → Bool) (slots : Nat) {cursor : Nat} (hcursor : cursor ≤ 128) :
    (ackRanges bits (slots + 1) cursor = [] ∧ ∀ i, cursor ≤ i → i < 128 → bits i = false) ∨
    ∃ nack ack, 0 < ack ∧ cursor + nack + ack ≤ 128 ∧
      (∀ i, cursor ≤ i → i < cursor + nack → bits i = false) ∧
      (∀ i, cursor + nack ≤ i → i < cursor + nack + ack → bits i = true) ∧
      (cursor + nack + ack < 128 → bits (cursor + nack + ack) = false) ∧
      ackRanges bits (slots + 1) cursor = (ofNat nack, ofNat ack) ::
        if 128 ≤ cursor + nack + ack then [] else ackRanges bits slots (cursor + nack + ack) := by
  have hwidth : dataReplayWindowPackets = 128 := rfl
  have hgap := run_le (p := bits) (v := false) (128 - cursor) cursor
  have hclear (i : Nat) (hi : cursor ≤ i) (hlt : i < cursor + run bits false (128 - cursor) cursor) :
      bits i = false := by
    obtain ⟨k, rfl⟩ := Nat.exists_eq_add_of_le hi
    exact run_spec (n := 128 - cursor) (by omega)
  rw [ackRanges, hwidth]
  by_cases hend : 128 ≤ cursor + run bits false (128 - cursor) cursor
  · rw [if_pos hend]
    exact Or.inl ⟨rfl, fun i hi hlt => hclear i hi (by omega)⟩
  set start := cursor + run bits false (128 - cursor) cursor with hstart
  have hset : bits start = true := by
    simpa using run_stop (p := bits) (v := false) (n := 128 - cursor) (s := cursor) (by omega)
  have hrun := run_le (p := bits) (v := true) (128 - start) start
  have hpos := run_pos (n := 128 - start) (by omega) hset
  rw [if_neg hend, if_neg hpos.ne']
  refine Or.inr ⟨run bits false (128 - cursor) cursor, run bits true (128 - start) start,
    hpos, by omega, hclear, ?_, ?_, rfl⟩
  · intro i hi hlt
    obtain ⟨k, rfl⟩ := Nat.exists_eq_add_of_le hi
    exact run_spec (n := 128 - start) (s := start) (by omega)
  · intro hlt
    simpa using run_stop (p := bits) (v := true) (n := 128 - start) (s := start) (by omega)

theorem ackRanges_length_le (slots cursor : Nat) : (ackRanges bits slots cursor).length ≤ slots := by
  induction slots generalizing cursor with
  | zero => simp [ackRanges]
  | succ slots ih =>
    unfold ackRanges
    simp only
    split
    · simp
    split
    · simp
    split
    · simp
    · simpa using ih _

theorem ackRanges_nonzero {slots cursor : Nat} (hcursor : cursor ≤ 128) :
    ∀ range ∈ ackRanges bits slots cursor, range ≠ (0, 0) := by
  induction slots generalizing cursor with
  | zero => simp [ackRanges]
  | succ slots ih =>
    rcases ackRanges_succ bits slots hcursor with ⟨hnil, -⟩ | ⟨nack, ack, hpos, hle, -, -, -, heq⟩
    · simp [hnil]
    · have hack : ofNat ack ≠ 0 := by
        intro h0
        have := congrArg toNat h0
        rw [toNat_ofNat'] at this
        change _ = 0 at this
        omega
      rw [heq]
      intro range hrange
      rcases mem_cons.mp hrange with rfl | hrange
      · exact fun h => hack (congrArg Prod.snd h)
      · split at hrange
        · simp at hrange
        · exact ih hle range hrange

theorem ackCount_le (bits : Nat → Bool) : ackCount bits ≤ 127 :=
  run_le _ _

theorem buildAckBlock_eq_some {w : ReplayWindow} {highest : UInt32} (h : w.highestReceived = some highest) :
    ∃ ack, w.buildAckBlock = some ack ∧ ack.ackThrough = highest ∧
      ack.ackCount.toNat = ackCount w.receivedBitmap.getLsbD ∧
      ack.ranges = ackRanges w.receivedBitmap.getLsbD maxAckRanges (ackCount w.receivedBitmap.getLsbD + 1) := by
  have hbits : w.receivedBitmap ≠ 0#128 := by
    intro h0
    have := w.anchored (by simp [h])
    simp [h0] at this
  have hcount := ackCount_le w.receivedBitmap.getLsbD
  rw [buildAckBlock, h]
  simp only [if_neg hbits, AckBlock.new]
  rw [dif_pos ⟨ackRanges_length_le _ _, ackRanges_nonzero (by omega)⟩]
  exact ⟨_, rfl, rfl, by rw [toNat_ofNat']; omega, rfl⟩

/-- Two separate gaps below received packets: offsets, from the top, that are clear, set, clear and set. -/
def TwoGaps (bits : Nat → Bool) : Prop :=
  ∃ a b c d, a < b ∧ b < c ∧ c < d ∧ d < 128 ∧ bits a = false ∧ bits b = true ∧ bits c = false ∧ bits d = true

/-- The three shapes an ACK block can have: no range, one range, or at least two. -/
inductive AckShape (bits : Nat → Bool) (ranges : List (UInt8 × UInt8)) : Prop
  | none (hranges : ranges = []) (hclear : ∀ i, ackCount bits < i → i < 128 → bits i = false)
  | one {nack ack : Nat} (hranges : ranges = [(UInt8.ofNat nack, UInt8.ofNat ack)]) (hpos : 0 < ack)
      (hle : ackCount bits + 1 + nack + ack ≤ 128)
      (hgap : ∀ i, ackCount bits < i → i < ackCount bits + 1 + nack → bits i = false)
      (hrun : ∀ i, ackCount bits + 1 + nack ≤ i → i < ackCount bits + 1 + nack + ack → bits i = true)
      (hclear : ∀ i, ackCount bits + 1 + nack + ack ≤ i → i < 128 → bits i = false)
  | more {nack ack nack' ack' : Nat} {rest : List (UInt8 × UInt8)}
      (hranges : ranges = (UInt8.ofNat nack, UInt8.ofNat ack) :: (UInt8.ofNat nack', UInt8.ofNat ack') :: rest)
      (hpos : 0 < ack) (hlt : ackCount bits + 1 + nack + ack + nack' < 128) (hfirst : bits (ackCount bits + 1) = false)
      (hrun : bits (ackCount bits + 1 + nack) = true) (hgap : bits (ackCount bits + 1 + nack + ack) = false)
      (hrun' : bits (ackCount bits + 1 + nack + ack + nack') = true)

theorem bits_succ_ackCount (h : ackCount bits < 127) : bits (ackCount bits + 1) = false := by
  have hstop := run_stop (p := bits) (v := true) (n := 127) (s := 1) h
  rw [Nat.add_comm]
  exact Bool.eq_false_iff.mpr hstop

theorem ackShape (bits : Nat → Bool) : AckShape bits (ackRanges bits maxAckRanges (ackCount bits + 1)) := by
  have hcount := ackCount_le bits
  rcases ackRanges_succ bits 127 (show ackCount bits + 1 ≤ 128 by omega) with
    ⟨hnil, hclear⟩ | ⟨nack, ack, hpos, hle, hgap, hrun, hstop, heq⟩
  · exact .none hnil fun i hi hlt => hclear i hi hlt
  · by_cases hend : 128 ≤ ackCount bits + 1 + nack + ack
    · rw [if_pos hend] at heq
      exact .one heq hpos hle (fun i hi hlt => hgap i hi hlt) hrun (fun i hi hlt => by omega)
    · rw [if_neg hend] at heq
      rcases ackRanges_succ bits 126 hle with
        ⟨hnil, hclear⟩ | ⟨nack', ack', hpos', hle', -, hrun', -, heq'⟩
      · rw [hnil] at heq
        exact .one heq hpos hle (fun i hi hlt => hgap i hi hlt) hrun hclear
      · rw [heq'] at heq
        exact .more heq hpos (by omega) (bits_succ_ackCount (by omega)) (hrun _ le_rfl (by omega)) (hstop (by omega))
          (hrun' _ le_rfl (by omega))

theorem bits_of_le_ackCount (hanchor : bits 0 = true) {i : Nat} (h : i ≤ ackCount bits) : bits i = true := by
  rcases Nat.eq_zero_or_pos i with rfl | hpos
  · exact hanchor
  · obtain ⟨k, rfl⟩ := Nat.exists_eq_add_of_le hpos
    exact run_spec (n := 127) (s := 1) (by change _ ≤ run bits true 127 1 at h; omega)

theorem AckShape.twoGaps_iff {ranges : List (UInt8 × UInt8)} (h : AckShape bits ranges) (hanchor : bits 0 = true) :
    TwoGaps bits ↔ 2 ≤ ranges.length := by
  have hinitial {i : Nat} (hi : bits i = false) : ackCount bits < i := by
    by_contra hle
    rw [bits_of_le_ackCount hanchor (not_lt.mp hle)] at hi
    cases hi
  cases h with
  | none hranges hclear =>
    subst hranges
    refine ⟨?_, by simp⟩
    rintro ⟨a, b, c, d, hab, hbc, hcd, hd, ha, hb, -, -⟩
    rw [hclear b (by have := hinitial ha; omega) (by omega)] at hb
    cases hb
  | @one nack ack hranges hpos hle hgap hrun hclear =>
    subst hranges
    refine ⟨?_, by simp⟩
    rintro ⟨a, b, c, d, hab, hbc, hcd, hd, ha, hb, hc, hset⟩
    have hstart : ackCount bits + 1 + nack ≤ b := by
      by_contra hlt
      rw [hgap b (by have := hinitial ha; omega) (by omega)] at hb
      cases hb
    have hend : ackCount bits + 1 + nack + ack ≤ c := by
      by_contra hlt
      rw [hrun c (by omega) (by omega)] at hc
      cases hc
    rw [hclear d (by omega) hd] at hset
    cases hset
  | @more nack ack nack' ack' rest hranges hpos hlt hfirst hrun hgap hrun' =>
    subst hranges
    refine ⟨fun _ => by simp, fun _ => ?_⟩
    have hne : nack ≠ 0 := by
      rintro rfl
      rw [Nat.add_zero, hfirst] at hrun
      cases hrun
    have hne' : nack' ≠ 0 := by
      rintro rfl
      rw [Nat.add_zero, hgap] at hrun'
      cases hrun'
    exact ⟨_, _, _, _, by omega, by omega, by omega, hlt, hfirst, hrun, hgap, hrun'⟩

section Meaning

variable {w : ReplayWindow} {highest : UInt32} {ack : AckBlock} {acked : List UInt32}

section

variable (hhigh : w.highestReceived = some highest) (hbuild : w.buildAckBlock = some ack)
include hhigh hbuild

theorem buildAckBlock_shape : ack.ackThrough = highest ∧ ack.ackCount.toNat = ackCount w.receivedBitmap.getLsbD ∧
    w.receivedBitmap.getLsbD 0 = true ∧ AckShape w.receivedBitmap.getLsbD ack.ranges := by
  obtain ⟨built, hsome, hthrough, hcount, hranges⟩ := buildAckBlock_eq_some hhigh
  cases hbuild.symm.trans hsome
  exact ⟨hthrough, hcount, w.anchored (by simp [hhigh]), hranges ▸ ackShape _⟩

/-- A block of at most one range that is accepted acknowledges only numbers the bitmap holds, and every one
of those that does not lie below packet 0. -/
theorem mem_ackedNumbers_iff (hok : ack.ackedNumbers = .ok acked) (hgaps : ¬ TwoGaps w.receivedBitmap.getLsbD)
    (n : UInt32) :
    n ∈ acked ↔ ∃ i, w.receivedBitmap.getLsbD i = true ∧ n.toNat + i = highest.toNat := by
  obtain ⟨hthrough, hcount, hanchor, hshape⟩ := buildAckBlock_shape hhigh hbuild
  have hlow {i : Nat} (hi : i ≤ ackCount w.receivedBitmap.getLsbD) := bits_of_le_ackCount hanchor hi
  have hwidth {i : Nat} (hi : w.receivedBitmap.getLsbD i = true) : i < 128 := BitVec.lt_of_getLsbD hi
  rw [hshape.twoGaps_iff hanchor] at hgaps
  cases hshape with
  | none hnil hclear =>
    rw [AckBlock.mem_ackedNumbers_nil hok hnil, hthrough, hcount]
    constructor
    · rintro ⟨hle, hge⟩
      exact ⟨highest.toNat - n.toNat, hlow (by omega), by omega⟩
    · rintro ⟨i, hi, hsum⟩
      have : ¬ ackCount w.receivedBitmap.getLsbD < i := fun hlt => by
        rw [hclear i hlt (hwidth hi)] at hi
        cases hi
      omega
  | @one nack count hone hpos hle hgap hrun hclear =>
    rw [AckBlock.mem_ackedNumbers_singleton hok hone, hthrough, hcount, toNat_ofNat', toNat_ofNat']
    constructor
    · rintro (⟨hle', hge⟩ | ⟨hle', hlt⟩)
      · exact ⟨highest.toNat - n.toNat, hlow (by omega), by omega⟩
      · exact ⟨highest.toNat - n.toNat, hrun _ (by omega) (by omega), by omega⟩
    · rintro ⟨i, hi, hsum⟩
      have hgap' : ¬ (ackCount w.receivedBitmap.getLsbD < i ∧ i < ackCount w.receivedBitmap.getLsbD + 1 + nack) :=
        fun h => by
          rw [hgap i h.1 h.2] at hi
          cases hi
      have hclear' : ¬ ackCount w.receivedBitmap.getLsbD + 1 + nack + count ≤ i := fun h => by
        rw [hclear i h (hwidth hi)] at hi
        cases hi
      omega
  | more hmore => simp [hmore] at hgaps

theorem buildAckBlock_isOk (habove : ∀ i, w.receivedBitmap.getLsbD i = true → i ≤ highest.toNat)
    (hgaps : ¬ TwoGaps w.receivedBitmap.getLsbD) : ∃ acked, ack.ackedNumbers = .ok acked := by
  obtain ⟨hthrough, hcount, hanchor, hshape⟩ := buildAckBlock_shape hhigh hbuild
  rw [hshape.twoGaps_iff hanchor] at hgaps
  cases hshape with
  | none hnil hclear =>
    refine AckBlock.ackedNumbers_nil_isOk hnil ?_
    rw [hthrough, hcount]
    exact habove _ (bits_of_le_ackCount hanchor le_rfl)
  | @one nack count hone hpos hle hgap hrun hclear =>
    refine AckBlock.ackedNumbers_singleton_isOk hone (by rw [toNat_ofNat']; omega) ?_
    rw [hthrough, hcount, toNat_ofNat', toNat_ofNat']
    have := habove _ (hrun (ackCount w.receivedBitmap.getLsbD + nack + count) (by omega) (by omega))
    omega
  | more hmore => simp [hmore] at hgaps

theorem exists_notMem_ackedNumbers (hok : ack.ackedNumbers = .ok acked)
    (habove : ∀ i, w.receivedBitmap.getLsbD i = true → i ≤ highest.toNat)
    (hgaps : TwoGaps w.receivedBitmap.getLsbD) :
    ∃ n i, w.receivedBitmap.getLsbD i = true ∧ n.toNat + i = highest.toNat ∧ n ∉ acked := by
  obtain ⟨hthrough, hcount, hanchor, hshape⟩ := buildAckBlock_shape hhigh hbuild
  rw [hshape.twoGaps_iff hanchor] at hgaps
  cases hshape with
  | none hnil => simp [hnil] at hgaps
  | one hone => simp [hone] at hgaps
  | @more nack count nack' count' rest hmore hpos hlt hfirst hrun hgap hrun' =>
    have habove' := habove _ hrun'
    refine ⟨highest - UInt32.ofNat (ackCount w.receivedBitmap.getLsbD + 1 + nack + count + nack'), _, hrun', ?_, ?_⟩
    · rw [toNat_sub_ofNat habove']
      omega
    · refine AckBlock.notMem_ackedNumbers hok hmore (by rw [toNat_ofNat']; omega) ?_
      simp only [toNat_sub_ofNat habove', hthrough, hcount, toNat_ofNat']
      omega

end

end Meaning

end ReplayWindow

end I2pr.Ssu2

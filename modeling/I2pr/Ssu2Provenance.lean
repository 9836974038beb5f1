import I2pr.Ssu2Run

namespace I2pr.Ssu2

/-- How one call moves the packet number allocator, and the number it seals and records under. -/
inductive Numbered (n : SendNumbers) : SendNumbers → PollResult → Prop
  | still : Numbered n n ⟨none, none⟩
  -- a number is burned when nothing could be sealed under it
  | burned (hopen : n.sendExhausted = false) : Numbered n n.allocate.1 ⟨none, none⟩
  | used (hopen : n.sendExhausted = false) {packet : SealedPacket} (hnumber : packet.packetNumber = n.nextSend)
      {recorded : Option SentPacket}
      (hrecorded : ∀ sent, recorded = some sent → sent.packetNumber = n.allocate.1.nextSend - 1) :
      Numbered n n.allocate.1 ⟨some packet, recorded⟩

namespace Ssu2Session

variable (s : Ssu2Session)

@[simp]
theorem noteSent_numbers (nowMs : Nat) (datagram : Option (List UInt8)) :
    (s.noteSent nowMs datagram).numbers = s.numbers := by
  unfold noteSent
  split <;> rfl

@[simp]
theorem evictOldest_numbers : s.evictOldest.numbers = s.numbers := by
  obtain ⟨_, _, h⟩ := s.evictOldest_sendOnly
  rw [h]

theorem recordSent_numbers (nowMs ackElicitingBytes : Nat) (ackOnly : Bool) (fragments : List RetransmittableFragment) :
    (s.recordSent nowMs ackElicitingBytes ackOnly fragments).1.numbers = s.numbers ∧
      (s.recordSent nowMs ackElicitingBytes ackOnly fragments).2.packetNumber = s.numbers.nextSend - 1 := by
  unfold recordSent clearAckState
  simp only [evictOldest_numbers, and_true]
  split <;> simp

theorem recordSealed_numbered {n : SendNumbers} (hopen : n.sendExhausted = false) {s : Ssu2Session}
    (hs : s.numbers = n.allocate.1) (p : Plan) (nowMs : Nat) {packet : SealedPacket}
    (hnumber : packet.packetNumber = n.nextSend) :
    Numbered n (s.recordSealed p nowMs packet).1.numbers (s.recordSealed p nowMs packet).2 := by
  have hclear : s.clearAckState.numbers = s.numbers := rfl
  unfold recordSealed
  simp only
  split
  · rw [hs]
    exact .used hopen hnumber (by simp)
  · split
    · have hrecord := recordSent_numbers
        (if p.blocks.any fun block => block.kind = 12 then s.clearAckState else s)
      have hif : (if p.blocks.any fun block => block.kind = 12 then s.clearAckState else s).numbers = n.allocate.1 := by
        split <;> simp [hs, hclear]
      rw [(hrecord ..).1, hif]
      refine .used hopen hnumber fun sent hsent => ?_
      rw [← Option.some.inj hsent, (hrecord ..).2, hif]
    · have hif : (if p.blocks.any fun block => block.kind = 12 then s.clearAckState else s).numbers = n.allocate.1 := by
        split <;> simp [hs, hclear]
      rw [hif]
      exact .used hopen hnumber (by simp)

theorem transmitPlan_numbered (p : Plan) (c : DataCrypto) (nowMs : Nat)
    (hopen : p.session.numbers.sendExhausted = false) :
    Numbered p.session.numbers (transmitPlan p c nowMs).1.numbers (transmitPlan p c nowMs).2 := by
  unfold transmitPlan
  split
  · exact .still
  next hne =>
    rw [sealPacket_blocks c nowMs hopen hne]
    rcases sealBlocks_cases { p.session with numbers := p.session.numbers.allocate.1 } c nowMs
      p.session.numbers.nextSend p.blocks with ⟨heq, -⟩ | ⟨encoded, -, -, heq⟩
    · simp only [heq]
      exact .burned hopen
    · simp only [heq]
      exact recordSealed_numbered hopen (by simp) p nowMs rfl

theorem transmitAckOnly_numbered {s : Ssu2Session} (c : DataCrypto) (nowMs : Nat)
    (hopen : s.numbers.sendExhausted = false) :
    Numbered s.numbers (s.transmitAckOnly c nowMs).1.numbers (s.transmitAckOnly c nowMs).2 := by
  have hclear (t : Ssu2Session) (b : Bool) : (if b then t.clearAckState else t).numbers = t.numbers := by
    split <;> rfl
  unfold transmitAckOnly
  simp only [hclear]
  rcases sealPacket_ack c nowMs hopen with ⟨-, heq⟩ | ⟨ack, -, heq⟩
  · simp only [heq]
    exact .burned hopen
  · rw [heq]
    rcases sealBlocks_cases ({ s with numbers := s.numbers.allocate.1 } : Ssu2Session).countAckSent c nowMs
      s.numbers.nextSend [.ack ack] with ⟨hseal, -⟩ | ⟨encoded, -, -, hseal⟩
    · simp only [hseal]
      exact .burned hopen
    · simp only [hseal, noteSent_numbers]
      exact .used hopen rfl (by simp)

theorem pollTransmit_numbered (c : DataCrypto) (nowMs : Nat) :
    Numbered s.numbers (s.pollTransmit c nowMs).1.numbers (s.pollTransmit c nowMs).2 := by
  unfold pollTransmit
  split
  · exact .still
  next hopen =>
    have hopen : s.numbers.sendExhausted = false := by simpa using hopen
    split
    · exact .still
    split
    · split
      · exact transmitAckOnly_numbered c nowMs hopen
      · exact .still
    · have h := transmitPlan_numbered s.plan c nowMs (by rw [plan_numbers]; exact hopen)
      rwa [plan_numbers] at h

theorem poll_numbered (c : DataCrypto) (nowMs : Nat) :
    Numbered s.numbers (s.poll c nowMs).1.numbers (s.poll c nowMs).2.2 := by
  obtain ⟨_, _, hexpire⟩ := s.expire_inboundOnly nowMs
  obtain ⟨_, _, _, hrto⟩ := (s.expire nowMs).fireRto_eq nowMs
  have hnumbers : ((s.expire nowMs).fireRto nowMs).numbers = s.numbers := by rw [hrto, hexpire]
  unfold poll
  split
  · exact .still
  simp only
  split
  · rw [hexpire]
    exact .still
  · split
    · rw [hnumbers]
      exact .still
    · unfold fireAck
      split
      · rw [← hnumbers]
        exact pollTransmit_numbered ..
      · rw [hnumbers]
        exact .still

end Ssu2Session

open Ssu2Session

variable (c : DataCrypto)

theorem apply_numbered (s : Ssu2Session) (op : SessionOp) :
    Numbered s.numbers (op.apply c s).session.numbers (op.apply c s).result := by
  cases op.cases c s with
  | receive nowMs datagram =>
    obtain ⟨_, _, _, _, _, _, _, h⟩ := s.receiveDatagram_receiveOnly c nowMs datagram
    simp only [SessionOp.apply]
    rw [h]
    exact .still
  | transmit nowMs => exact s.pollTransmit_numbered c nowMs
  | poll nowMs => exact s.poll_numbered c nowMs
  | ownQueues heffect heq =>
    rw [heq]
    simp only [heffect.frame.1]
    exact .still

namespace Numbered

variable {n n' : SendNumbers} {r : PollResult}

/-- The number handed to the cipher is the next one, and the allocator moves past it or stops. -/
theorem of_sealed (h : Numbered n n' r) {packet : SealedPacket} (hsealed : r.sealedPacket = some packet) :
    n.sendExhausted = false ∧ packet.packetNumber = n.nextSend ∧
      (n'.sendExhausted = true ∨ n.nextSend < n'.nextSend) := by
  cases h with
  | still | burned => cases hsealed
  | used hopen hnumber =>
    cases hsealed
    refine ⟨hopen, hnumber, ?_⟩
    rcases SendNumbers.allocate_advances hopen with ⟨-, -, hstop⟩ | ⟨hlast, hnext⟩
    · exact Or.inl hstop
    · refine Or.inr (UInt32.lt_iff_toNat_lt.mpr ?_)
      rw [hnext, SendNumbers.toNat_succ hlast]
      exact Nat.lt_succ_self _

theorem mono (h : Numbered n n' r) : n.nextSend ≤ n'.nextSend ∧ (n.sendExhausted = true → n'.sendExhausted = true) := by
  have hadvance (hopen : n.sendExhausted = false) : n.nextSend ≤ n.allocate.1.nextSend := by
    rcases SendNumbers.allocate_advances hopen with ⟨-, hsame, -⟩ | ⟨hlast, hnext⟩
    · rw [hsame]
      exact UInt32.le_refl _
    · rw [hnext, UInt32.le_iff_toNat_le, SendNumbers.toNat_succ hlast]
      exact Nat.le_succ _
  cases h with
  | still => exact ⟨UInt32.le_refl _, id⟩
  | burned hopen | used hopen => exact ⟨hadvance hopen, by simp [hopen]⟩

/-- `record_sent` reads the number back from the counter, which is one too low at the last number. -/
theorem recorded_iff (h : Numbered n n' r) {sent : SentPacket} (hrecorded : r.recorded = some sent) :
    (r.sealedPacket.map (·.packetNumber) = some sent.packetNumber) ↔ n.nextSend ≠ 0xFFFFFFFF := by
  cases h with
  | still | burned => cases hrecorded
  | used hopen hnumber hrec =>
    rw [hrec sent hrecorded, Option.map_some, hnumber, Option.some.injEq]
    rcases SendNumbers.allocate_advances hopen with ⟨hlast, hsame, -⟩ | ⟨hlast, hnext⟩
    · rw [hsame, hlast]
      decide
    · rw [hnext, UInt32.add_sub_cancel]
      simpa using hlast

end Numbered

def sealedNumbers (s : Ssu2Session) (ops : List SessionOp) : List UInt32 :=
  (trace c s ops).filterMap fun step => step.observed.result.sealedPacket.map (·.packetNumber)

theorem sealedNumbers_cons (s : Ssu2Session) (op : SessionOp) (ops : List SessionOp) :
    sealedNumbers c s (op :: ops) = ((op.apply c s).result.sealedPacket.map (·.packetNumber)).toList ++
      sealedNumbers c (op.apply c s).session ops := by
  unfold sealedNumbers
  rw [trace, List.filterMap_cons]
  cases (op.apply c s).result.sealedPacket <;> rfl

theorem sealedNumbers_ge (s : Ssu2Session) (ops : List SessionOp) :
    ∀ n ∈ sealedNumbers c s ops, s.numbers.sendExhausted = false ∧ s.numbers.nextSend ≤ n := by
  induction ops generalizing s with
  | nil => simp [sealedNumbers, trace]
  | cons op ops ih =>
    have hstep := apply_numbered c s op
    intro n hn
    rw [sealedNumbers_cons] at hn
    rcases List.mem_append.mp hn with hn | hn
    · simp only [Option.mem_toList, Option.map_eq_some_iff] at hn
      obtain ⟨packet, hsealed, rfl⟩ := hn
      obtain ⟨hopen, hnumber, -⟩ := hstep.of_sealed hsealed
      exact ⟨hopen, hnumber ▸ UInt32.le_refl _⟩
    · obtain ⟨hle, hstop⟩ := hstep.mono
      obtain ⟨hopen, hge⟩ := ih _ n hn
      refine ⟨?_, UInt32.le_trans hle hge⟩
      by_contra hex
      rw [hstop (by simpa using hex)] at hopen
      cases hopen

theorem sealedNumbers_pairwise (s : Ssu2Session) (ops : List SessionOp) : (sealedNumbers c s ops).Pairwise (· < ·) := by
  induction ops generalizing s with
  | nil => simp [sealedNumbers, trace]
  | cons op ops ih =>
    rw [sealedNumbers_cons]
    cases hsealed : (op.apply c s).result.sealedPacket with
    | none => simpa using ih _
    | some packet =>
      obtain ⟨-, hnumber, hnext⟩ := (apply_numbered c s op).of_sealed hsealed
      refine List.pairwise_cons.mpr ⟨fun n hn => ?_, ih _⟩
      obtain ⟨hopen, hge⟩ := sealedNumbers_ge c _ ops n hn
      rcases hnext with hstop | hlt
      · rw [hopen] at hstop
        cases hstop
      · change packet.packetNumber < n
        rw [hnumber]
        exact UInt32.lt_of_lt_of_le hlt hge

/-- No number is sealed twice, and a recorded packet carries the number of its datagram exactly if the
allocator had not arrived at the last number. -/
theorem provenance_iff (c : DataCrypto) (s : Ssu2Session) (ops : List SessionOp) :
    (sealedNumbers c s ops).Pairwise (· < ·) ∧
      ∀ step ∈ trace c s ops, ∀ sent, step.observed.result.recorded = some sent →
        (step.observed.result.sealedPacket.map (·.packetNumber) = some sent.packetNumber ↔
          step.before.numbers.nextSend ≠ 0xFFFFFFFF) := by
  refine ⟨sealedNumbers_pairwise c s ops, ?_⟩
  induction ops generalizing s with
  | nil => simp [trace]
  | cons op ops ih =>
    intro step hmem sent hrecorded
    rcases List.mem_cons.mp hmem with rfl | hmem
    · exact (apply_numbered c s op).recorded_iff hrecorded
    · exact ih _ step hmem sent hrecorded

def lastNumberRun : List SessionOp := [.queueNewToken 1 1, .pollTransmit 0]

/-- Its datagram is sealed under the last number and recorded under the one before. -/
theorem lastNumberRun_misnumbered : ∃ s, Ssu2Session.new (.sample 0xFFFFFFFF) .sample = .ok s ∧
    ∃ step ∈ trace .plain s lastNumberRun,
      step.observed.result.sealedPacket.map (·.packetNumber) = some 0xFFFFFFFF ∧
        step.observed.result.recorded.map (·.packetNumber) = some 0xFFFFFFFE := by
  refine ⟨_, rfl, _, List.mem_cons_of_mem _ (List.mem_cons_self ..), ?_⟩
  decide +kernel

/-- One number earlier the two agree. -/
theorem provenance_iff_before_last : ∃ s, Ssu2Session.new (.sample 0xFFFFFFFE) .sample = .ok s ∧
    ∀ step ∈ trace .plain s lastNumberRun, ∀ sent, step.observed.result.recorded = some sent →
      step.observed.result.sealedPacket.map (·.packetNumber) = some sent.packetNumber := by
  refine ⟨_, rfl, fun step hmem sent hrecorded => ?_⟩
  refine ((provenance_iff .plain _ lastNumberRun).2 step hmem sent hrecorded).mpr ?_
  simp only [lastNumberRun, trace, List.mem_cons, List.not_mem_nil, or_false] at hmem
  rcases hmem with rfl | rfl <;> decide +kernel

end I2pr.Ssu2

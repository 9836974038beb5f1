import I2pr.Ssu2Session

namespace I2pr.Ssu2

namespace SendState

@[simp]
theorem settleFragment_sent (st : SendState) (fragment : RetransmittableFragment) :
    (st.settleFragment fragment).sent = st.sent := by
  unfold settleFragment markFragmentAcked
  split <;> rfl

theorem foldl_settleFragment_sent (fragments : List RetransmittableFragment) (st : SendState) :
    (fragments.foldl settleFragment st).sent = st.sent := by
  induction fragments generalizing st with
  | nil => rfl
  | cons fragment fragments ih => rw [List.foldl_cons, ih, settleFragment_sent]

end SendState

namespace Retirement

@[simp]
theorem retire_sent (r : Retirement) (remaining : List SentPacket) (packet : SentPacket) (nowMs : Nat) :
    (r.retire remaining packet nowMs).send.sent = remaining := by
  unfold retire
  simp only [SendState.foldl_settleFragment_sent]
  split <;> rfl

theorem retireFrom_sent (acked : List UInt32) (nowMs : Nat) (kept rest : List SentPacket) (r : Retirement)
    (h : r.send.sent = kept ++ rest) :
    (retireFrom acked nowMs kept rest r).send.sent = kept ++ rest.filter (·.packetNumber ∉ acked) := by
  induction rest generalizing kept r with
  | nil => simpa [retireFrom] using h
  | cons packet rest ih =>
    unfold retireFrom
    split
    next hacked => rw [ih kept _ (retire_sent ..), List.filter_cons_of_neg (by simpa using hacked)]
    next hkept =>
      rw [ih (kept ++ [packet]) r (by simpa using h), List.filter_cons_of_pos (by simpa using hkept)]
      simp

end Retirement

namespace Ssu2Session

theorem applyAck_eq_ok {s after : Ssu2Session} {ack : AckBlock} {nowMs : Nat} : s.applyAck ack nowMs = .ok after ↔
      ∃ acked, ack.ackedNumbers = .ok acked ∧ after = s.applyAcked acked ack.ackThrough nowMs := by
  unfold applyAck
  cases ack.ackedNumbers with
  | error e => simp [bind, Except.bind]
  | ok acked => simp [bind, Except.bind, eq_comm]

/-- The history of a session after the retirement loop of `apply_ack`. -/
def unretired (s : Ssu2Session) (acked : List UInt32) (nowMs : Nat) : List SentPacket :=
  (Retirement.retireFrom acked nowMs [] s.send.sent { send := s.send }).send.sent

theorem unretired_eq (s : Ssu2Session) (acked : List UInt32) (nowMs : Nat) :
    s.unretired acked nowMs = s.send.sent.filter (·.packetNumber ∉ acked) :=
  Retirement.retireFrom_sent acked nowMs [] s.send.sent _ rfl

end Ssu2Session

namespace ReplayWindow

/-- An ACK block says to a peer what the window recorded: it is accepted, the numbers the peer takes as
acknowledged are those of the bitmap, a sent packet is retired only if its number is one of them, and
none of them counts as a gap. -/
structure MeansReceived (w : ReplayWindow) (ack : AckBlock) (peer : Ssu2Session) (nowMs : Nat) : Prop where
  accepted : ∃ after, peer.applyAck ack nowMs = .ok after
  acked_iff : ∀ acked, ack.ackedNumbers = .ok acked → ∀ n, n ∈ acked ↔ w.Received n
  retired : ∀ acked, ack.ackedNumbers = .ok acked → ∀ packet ∈ peer.send.sent,
    packet ∉ peer.unretired acked nowMs ↔ w.Received packet.packetNumber
  notGap : ∀ acked, ack.ackedNumbers = .ok acked → ∀ packet, w.Received packet.packetNumber →
    nackedBy acked ack.ackThrough packet = false

theorem MeansReceived.of_acked_iff {w : ReplayWindow} {ack : AckBlock} {acked : List UInt32}
    (hok : ack.ackedNumbers = .ok acked) (hiff : ∀ n, n ∈ acked ↔ w.Received n) (peer : Ssu2Session) (nowMs : Nat) :
    w.MeansReceived ack peer nowMs := by
  refine ⟨⟨_, Ssu2Session.applyAck_eq_ok.mpr ⟨acked, hok, rfl⟩⟩, ?_, ?_, ?_⟩
  · intro other hother
    cases hok.symm.trans hother
    exact hiff
  · intro other hother packet hmem
    cases hok.symm.trans hother
    simp [Ssu2Session.unretired_eq, hmem, hiff]
  · intro other hother packet hreceived
    cases hok.symm.trans hother
    simp [nackedBy, (hiff _).mpr hreceived]

section Reached

variable {numbers : List UInt32} {w : ReplayWindow} {highest : UInt32}

/-- Without crossing `2 ^ 32`, the wrapping distances of the window are plain differences. -/
theorem Reached.received_iff (h : Reached numbers w) (hhigh : w.highestReceived = some highest) (n : UInt32) :
    w.Received n ↔ ∃ i, w.receivedBitmap.getLsbD i = true ∧ n.toNat + i = highest.toNat := by
  constructor
  · intro hn
    obtain ⟨hmem, -⟩ := (h.covers.received_iff n).mp hn
    obtain ⟨top, htop, hle⟩ := h.covers.le_highest n hmem
    cases hhigh.symm.trans htop
    obtain ⟨top, htop, hbit⟩ := hn
    cases hhigh.symm.trans htop
    rw [UInt32.toNat_sub_of_le _ _ hle] at hbit
    rw [UInt32.le_iff_toNat_le] at hle
    exact ⟨_, hbit, by omega⟩
  · rintro ⟨i, hbit, hsum⟩
    have hle : n ≤ highest := UInt32.le_iff_toNat_le.mpr (by omega)
    refine ⟨highest, hhigh, ?_⟩
    rwa [UInt32.toNat_sub_of_le _ _ hle, ← hsum, Nat.add_sub_cancel_left]

theorem Reached.bit_le (h : Reached numbers w) (hhigh : w.highestReceived = some highest) {i : Nat}
    (hbit : w.receivedBitmap.getLsbD i = true) : i ≤ highest.toNat := by
  have hi : i < 128 := BitVec.lt_of_getLsbD hbit
  have hn : w.Received (highest - UInt32.ofNat i) := by
    refine ⟨highest, hhigh, ?_⟩
    have : (highest - (highest - UInt32.ofNat i)).toNat = i := by
      have := highest.toNat_lt
      simp only [UInt32.toNat_sub, UInt32.toNat_ofNat']
      omega
    rwa [this]
  obtain ⟨j, -, hsum⟩ := (h.received_iff hhigh _).mp hn
  have := highest.toNat_lt
  simp only [UInt32.toNat_sub, UInt32.toNat_ofNat'] at hsum
  omega

theorem highestReceived_of_buildAckBlock {ack : AckBlock} (hbuild : w.buildAckBlock = some ack) :
    ∃ highest, w.highestReceived = some highest := by
  rw [← Option.isSome_iff_exists, Option.isSome_iff_ne_none]
  intro hnone
  simp [buildAckBlock, hnone] at hbuild

/-- `apply_ack` reads an ACK block as `build_ack_block` meant it exactly when the window has no second gap:
after each range it starts the next one a packet too low. -/
theorem meansReceived_iff (h : Reached numbers w) {ack : AckBlock} (hbuild : w.buildAckBlock = some ack)
    (peer : Ssu2Session) (nowMs : Nat) :
    w.MeansReceived ack peer nowMs ↔ ¬ TwoGaps w.receivedBitmap.getLsbD := by
  obtain ⟨highest, hhigh⟩ := highestReceived_of_buildAckBlock hbuild
  constructor
  · intro hmeans hgaps
    obtain ⟨after, hafter⟩ := hmeans.accepted
    obtain ⟨acked, hok, -⟩ := Ssu2Session.applyAck_eq_ok.mp hafter
    obtain ⟨n, i, hbit, hsum, hmissing⟩ :=
      exists_notMem_ackedNumbers hhigh hbuild hok (fun _ hbit => h.bit_le hhigh hbit) hgaps
    exact hmissing ((hmeans.acked_iff acked hok n).mpr ((h.received_iff hhigh n).mpr ⟨i, hbit, hsum⟩))
  · intro hgaps
    obtain ⟨acked, hok⟩ := buildAckBlock_isOk hhigh hbuild (fun _ hbit => h.bit_le hhigh hbit) hgaps
    refine .of_acked_iff hok (fun n => ?_) peer nowMs
    rw [mem_ackedNumbers_iff hhigh hbuild hok hgaps, h.received_iff hhigh]

end Reached

def gappedWindow : ReplayWindow := ((empty.mark 10 true).mark 8 true).mark 6 true

theorem gappedWindow_reached : Reached [6, 8, 10] gappedWindow := by
  have h10 := Reached.mark .empty (n := 10) true (by decide) (by rintro _ ⟨⟩)
  have h8 := Reached.mark h10 (n := 8) true (by decide) (by rintro _ ⟨⟩; decide)
  exact Reached.mark h8 (n := 6) true (by decide) (by rintro _ ⟨⟩; decide)

/-- The block that a peer receives for packets 10, 8 and 6 is read as 10, 8 and 5: it retires a packet that
never arrived and takes one that did for a gap. -/
theorem gappedWindow_not_meansReceived :
    Reached [6, 8, 10] gappedWindow ∧ ∃ ack, gappedWindow.buildAckBlock = some ack ∧
      ack.ackedNumbers = .ok [10, 8, 5] ∧ ¬ gappedWindow.Received 5 ∧ gappedWindow.Received 6 ∧
      ∀ peer nowMs, ¬ gappedWindow.MeansReceived ack peer nowMs := by
  have hhigh : gappedWindow.highestReceived = some 10 := by decide
  have hmissed : gappedWindow.Received 6 := ⟨10, hhigh, by decide⟩
  obtain ⟨ack, hbuild, hthrough, hcount, hranges⟩ := buildAckBlock_eq_some hhigh
  have hok : ack.ackedNumbers = .ok [10, 8, 5] := by
    have hgaps : ack.ranges = [(1, 1), (1, 1)] := hranges.trans (by decide +kernel)
    have hrun : ack.ackCount = 0 := UInt8.toNat_inj.mp (hcount.trans (by decide +kernel))
    rw [AckBlock.ackedNumbers, AckBlock.initialRun, hthrough, hrun, hgaps]
    decide
  refine ⟨gappedWindow_reached, ack, hbuild, hok, ?_, hmissed, ?_⟩
  · rintro ⟨highest, hsome, hbit⟩
    cases hhigh.symm.trans hsome
    revert hbit
    decide
  · intro peer nowMs hmeans
    have := (hmeans.acked_iff _ hok 6).mpr hmissed
    revert this
    decide

def oneGapWindow : ReplayWindow := ((empty.mark 10 true).mark 9 true).mark 6 true

theorem oneGapWindow_meansReceived : ∃ ack, oneGapWindow.buildAckBlock = some ack ∧
    ∀ peer nowMs, oneGapWindow.MeansReceived ack peer nowMs := by
  have hhigh : oneGapWindow.highestReceived = some 10 := by decide
  obtain ⟨ack, hbuild, -⟩ := buildAckBlock_eq_some hhigh
  have h10 := Reached.mark .empty (n := 10) true (by decide) (by rintro _ ⟨⟩)
  have h9 := Reached.mark h10 (n := 9) true (by decide) (by rintro _ ⟨⟩; decide)
  have h6 : Reached [6, 9, 10] oneGapWindow :=
    Reached.mark h9 (n := 6) true (by decide) (by rintro _ ⟨⟩; decide)
  refine ⟨ack, hbuild, fun peer nowMs => (meansReceived_iff h6 hbuild peer nowMs).mpr ?_⟩
  rw [(ackShape _).twoGaps_iff (by decide)]
  decide +kernel

end ReplayWindow

end I2pr.Ssu2

import I2pr.Ssu2Exchange

namespace I2pr.Ssu2

open Ssu2Session SessionOp Observed List

namespace ReplayWindow

/-- The two numbers lie at opposite ends of the number space, where the wrapping comparison of
`check_replay` takes the lower one for the later. -/
def Crosses (highest n : UInt32) : Prop :=
  n.toNat + (2 ^ 32 - 1024) ≤ highest.toNat ∨ highest.toNat + (2 ^ 32 - 127) ≤ n.toNat

instance (highest n : UInt32) : Decidable (Crosses highest n) :=
  inferInstanceAs (Decidable (_ ∨ _))

theorem inOrder_of_not_crosses {w : ReplayWindow} {highest n : UInt32} (hadmitted : w.checkReplay n = .admissible)
    (hhigh : w.highestReceived = some highest) (hcross : ¬ Crosses highest n) : InOrder highest n := by
  unfold Crosses at hcross
  unfold InOrder
  rw [UInt32.lt_iff_toNat_lt, UInt32.le_iff_toNat_le, UInt32.toNat_sub, show (2 ^ 31 : UInt32).toNat = 2 ^ 31 from rfl]
  have hn := n.toNat_lt
  have hh := highest.toNat_lt
  rcases checkReplay_admissible hadmitted with hnone | ⟨top, htop, hne, ⟨-, hahead⟩ | ⟨-, hbehind, -⟩⟩
  · simp [hhigh] at hnone
  · cases hhigh.symm.trans htop
    rw [UInt32.toNat_sub] at hahead
    omega
  · cases hhigh.symm.trans htop
    have hne' : n.toNat ≠ highest.toNat := fun h => hne (UInt32.toNat_inj.mp h)
    rw [UInt32.toNat_sub] at hbehind
    omega

/-- In a window that covers what was marked, an admitted packet is a new one. -/
theorem Covers.notMem {w : ReplayWindow} {numbers : List UInt32} (h : w.Covers numbers) {n : UInt32}
    (hadmitted : w.checkReplay n = .admissible)
    (horder : ∀ highest, w.highestReceived = some highest → InOrder highest n) : n ∉ numbers := by
  intro hmem
  obtain ⟨highest, hhigh, hle⟩ := h.le_highest n hmem
  rcases checkReplay_admissible hadmitted with hnone | ⟨top, htop, hne, ⟨hahead, -⟩ | ⟨-, hnear, hfresh⟩⟩
  · simp [hhigh] at hnone
  · cases hhigh.symm.trans htop
    exact hne (UInt32.le_antisymm hle ((horder _ hhigh).mp hahead))
  · cases hhigh.symm.trans htop
    exact hfresh ((h.received_iff n).mpr ⟨hmem, highest, hhigh, hnear⟩)

end ReplayWindow

def Observed.accepted (o : Observed) : Option UInt32 :=
  o.outcome.bind fun outcome => if outcome.dropped = none then outcome.packetNumber else none

def acceptedNumbers (c : DataCrypto) (s : Ssu2Session) (ops : List SessionOp) : List UInt32 :=
  (trace c s ops).filterMap (·.observed.accepted)

theorem acceptedNumbers_cons (c : DataCrypto) (s : Ssu2Session) (op : SessionOp) (ops : List SessionOp) :
    acceptedNumbers c s (op :: ops) =
      (op.apply c s).accepted.toList ++ acceptedNumbers c (op.apply c s).session ops := by
  unfold acceptedNumbers
  rw [trace, filterMap_cons]
  cases (op.apply c s).accepted <;> rfl

namespace Ssu2Session

theorem receiveDatagram_window (s : Ssu2Session) (c : DataCrypto) (nowMs : Nat) (datagram : List UInt8) :
    ((s.receiveDatagram c nowMs datagram).2.dropped.isSome = true ∧
      (s.receiveDatagram c nowMs datagram).1.window = s.window) ∨
    ∃ header headerBytes ciphertext plaintext eliciting,
      s.openHeader c datagram = some (header, headerBytes, ciphertext) ∧
      s.window.checkReplay header.packetNumber = .admissible ∧
      c.aeadOpen s.keys.receive.cipher header.packetNumber headerBytes ciphertext = some plaintext ∧
      (s.receiveDatagram c nowMs datagram).2.dropped = none ∧
      (s.receiveDatagram c nowMs datagram).2.packetNumber = some header.packetNumber ∧
      (s.receiveDatagram c nowMs datagram).1.window = s.window.mark header.packetNumber eliciting := by
  have hacks {blocks : List DecodedBlock} {ok : Bool} {t : Ssu2Session}
      (h : s.applyAcks nowMs blocks = (ok, t)) : t.window = s.window := by
    obtain ⟨_, _, hsend⟩ := s.applyAcks_sendOnly nowMs blocks
    rw [h] at hsend
    rw [show t = _ from hsend]
  rcases s.receiveDatagram_cases c nowMs datagram with
    ⟨_, hdropped, h | h⟩ | ⟨header, headerBytes, ciphertext, plaintext, -, hheader, hadmitted, hopen, h⟩
  · exact Or.inl (h ▸ ⟨hdropped, rfl⟩)
  · exact Or.inl (h ▸ ⟨hdropped, rfl⟩)
  · rw [h]
    have hopened := s.receivePlaintext_opened nowMs header plaintext
    generalize s.receivePlaintext nowMs header plaintext = result at hopened
    cases hopened with
    | unparsed _ hdropped => exact Or.inl ⟨hdropped, rfl⟩
    | badAck _ hbad hdropped =>
      have hwindow := hacks hbad
      exact Or.inl ⟨hdropped, hwindow⟩
    | rekey _ hdropped hnumber =>
      obtain ⟨_, _, hnote⟩ := s.noteReceived_eq header.packetNumber false nowMs false
      exact Or.inr ⟨header, headerBytes, ciphertext, plaintext, false, hheader, hadmitted, hopen, hdropped, hnumber,
        by rw [hnote]⟩
    | accepted _ hgood hdropped hnumber =>
      obtain ⟨_, _, _, _, _, haccept⟩ := acceptBlocks_eq _ nowMs header _
      exact Or.inr ⟨header, headerBytes, ciphertext, plaintext, _, hheader, hadmitted, hopen, hdropped, hnumber,
        by rw [haccept, hacks hgood]⟩

end Ssu2Session

/-- A datagram that the cipher opens does not lie at the other end of the number space from the highest
number received. -/
def Step.NoCrossing (c : DataCrypto) (step : Step) : Prop :=
  ∀ nowMs datagram, step.op = .receiveDatagram nowMs datagram →
    ∀ header headerBytes ciphertext plaintext, step.before.openHeader c datagram = some (header, headerBytes, ciphertext) →
      c.aeadOpen step.before.keys.receive.cipher header.packetNumber headerBytes ciphertext = some plaintext →
        ∀ highest, step.before.window.highestReceived = some highest →
          ¬ ReplayWindow.Crosses highest header.packetNumber

variable {r : Ssu2Session} {n : UInt32} {numbers : List UInt32}

/-- Along a step without crossing, the window keeps covering the accepted numbers, and a number is accepted
only if it was not before. -/
theorem Covers.step {c : DataCrypto} {s : Ssu2Session} (h : s.window.Covers numbers)
    (op : SessionOp) (hcross : (⟨s, op, op.apply c s⟩ : Step).NoCrossing c) :
    (∀ n ∈ (op.apply c s).accepted, n ∉ numbers) ∧
      (op.apply c s).session.window.Covers ((op.apply c s).accepted.toList ++ numbers) := by
  cases op.cases c s with
  | receive nowMs datagram =>
    rcases s.receiveDatagram_window c nowMs datagram with
      ⟨hdropped, hwindow⟩ | ⟨header, headerBytes, ciphertext, plaintext, eliciting, hheader, hadmitted, hopen, hdropped,
        hnumber, hwindow⟩
    · have hnone : (apply c s (.receiveDatagram nowMs datagram)).accepted = none := by
        simp [apply, accepted, Option.isSome_iff_ne_none.mp hdropped]
      rw [hnone]
      exact ⟨by simp, show (s.receiveDatagram c nowMs datagram).1.window.Covers _ from hwindow ▸ h⟩
    · have hsome : (apply c s (.receiveDatagram nowMs datagram)).accepted = some header.packetNumber := by
        simp [apply, accepted, hdropped, hnumber]
      have horder (highest : UInt32) (hhigh : s.window.highestReceived = some highest) :
          ReplayWindow.InOrder highest header.packetNumber :=
        ReplayWindow.inOrder_of_not_crosses hadmitted hhigh
          (hcross nowMs datagram rfl header headerBytes ciphertext plaintext hheader hopen highest hhigh)
      rw [hsome]
      refine ⟨?_, show (s.receiveDatagram c nowMs datagram).1.window.Covers _ from hwindow ▸ h.mark eliciting hadmitted horder⟩
      rintro n ⟨⟩
      exact h.notMem hadmitted horder
  | transmit nowMs =>
    obtain ⟨_, _, _, _, _, _, heq⟩ := s.pollTransmit_transmitOnly c nowMs
    exact ⟨by simp [apply, accepted], by simpa [apply, accepted, heq] using h⟩
  | poll nowMs =>
    obtain ⟨_, _, _, _, _, _, _, _, heq⟩ := s.poll_eq c nowMs
    exact ⟨by simp [apply, accepted], by simpa [apply, accepted, heq] using h⟩
  | ownQueues heffect heq =>
    rw [heq]
    exact ⟨by simp [accepted], by simpa [accepted, heffect.frame.2] using h⟩

theorem acceptedNumbers_fresh {c : DataCrypto} {s : Ssu2Session}
    (h : s.window.Covers numbers) (ops : List SessionOp) (hcross : ∀ step ∈ trace c s ops, step.NoCrossing c) :
    (acceptedNumbers c s ops).Nodup ∧ ∀ n ∈ acceptedNumbers c s ops, n ∉ numbers := by
  induction ops generalizing s numbers with
  | nil => simp [acceptedNumbers, trace]
  | cons op ops ih =>
    obtain ⟨hfresh, hcovers⟩ := Covers.step h op (hcross _ (mem_cons_self ..))
    obtain ⟨hnodup, hnew⟩ := ih hcovers fun step hstep => hcross step (mem_cons_of_mem _ hstep)
    rw [acceptedNumbers_cons]
    cases haccepted : (op.apply c s).accepted with
    | none =>
      rw [haccepted] at hnew
      exact ⟨hnodup, hnew⟩
    | some first =>
      rw [haccepted] at hnew hfresh
      refine ⟨nodup_cons.mpr ⟨fun hmem => hnew first hmem (mem_cons_self ..), hnodup⟩, ?_⟩
      intro n hn
      rcases mem_cons.mp hn with rfl | hn
      · exact hfresh _ rfl
      · exact fun hold => hnew n hn (mem_cons_of_mem _ hold)

/-- In every run in which the peer's packets stay clear of the ends of the number space, no packet number is
accepted twice. -/
theorem acceptedNumbers_nodup {config : SessionConfig} {keys : Ssu2SplitKeys} {s : Ssu2Session}
    (hnew : Ssu2Session.new config keys = .ok s) (c : DataCrypto) (ops : List SessionOp)
    (hcross : ∀ step ∈ trace c s ops, step.NoCrossing c) : (acceptedNumbers c s ops).Nodup := by
  obtain ⟨rfl, -⟩ := Ssu2Session.new_eq_ok hnew
  exact (acceptedNumbers_fresh ReplayWindow.covers_empty ops hcross).1

def tokenPlaintext : List UInt8 := (Block.newToken ⟨1, 1⟩).wire

def peerDatagram (n : UInt32) : List UInt8 :=
  (peerSession.sealPlaintext .plain n tokenPlaintext).getD []

theorem peerDatagram_sealed (n : UInt32) : peerSession.sealPlaintext .plain n tokenPlaintext = some (peerDatagram n) := by
  have hmin : minHandshakePayloadBytes ≤ tokenPlaintext.length := by decide
  obtain ⟨datagram, h⟩ := peerSession.sealPlaintext_isSome .plain n hmin (by decide)
  rw [peerDatagram, h, Option.getD_some]

theorem encodeBlocks_token : encodeBlocks [.newToken ⟨1, 1⟩] = .ok tokenPlaintext := by decide +kernel

/-- A session that is alive and shares the keys of the peer. -/
def FromPeer (r : Ssu2Session) : Prop :=
  r.isTerminated = false ∧ peerSession.Linked r

theorem FromPeer.receive (h : FromPeer r) (hadmitted : r.window.checkReplay n = .admissible) :
    (apply .plain r (.receiveDatagram 0 (peerDatagram n))).accepted = some n ∧
      FromPeer (apply .plain r (.receiveDatagram 0 (peerDatagram n))).session ∧
      (apply .plain r (.receiveDatagram 0 (peerDatagram n))).session.window = r.window.mark n true := by
  have hreads : (Block.newToken ⟨1, 1⟩).ReadsBack := ⟨rfl, by decide +kernel⟩
  have hreceive := h.2.receiveDatagram h.1 (by simpa using hreads) encodeBlocks_token (peerDatagram_sealed n) hadmitted 0
  obtain ⟨_, _, hnote⟩ := r.noteReceived_eq n true 0 (peerSession.headerFor n).immediateAck
  have hblocks : r.receiveBlocks 0 (peerSession.headerFor n) ([Block.newToken ⟨1, 1⟩].map Block.decoded) =
      ((r.noteReceived n true 0 (peerSession.headerFor n).immediateAck).noteEliciting true,
        ⟨some n, true, false, [.newToken 1 1], true, none⟩) := rfl
  rw [apply, hreceive, hblocks, hnote]
  exact ⟨rfl, ⟨h.1, h.2.intro_eq, h.2.keys_eq⟩, rfl⟩

/-- The second packet comes after the first one and within the jump that is allowed, counted modulo the
number space. -/
def Ahead (highest n : UInt32) : Prop :=
  0 < (n - highest).toNat ∧ (n - highest).toNat ≤ 1024

theorem Ahead.admissible {w : ReplayWindow} {highest : UInt32} (h : Ahead highest n)
    (hhigh : w.highestReceived = some highest) : w.checkReplay n = .admissible ∧
      (w.mark n true).highestReceived = some n := by
  have hne : n ≠ highest := fun heq => by simp [heq, Ahead] at h
  have hahead : n - highest < 2 ^ 31 := by
    rw [UInt32.lt_iff_toNat_lt, show (2 ^ 31 : UInt32).toNat = 2 ^ 31 from rfl]
    have := h.2
    omega
  refine ⟨?_, (ReplayWindow.mark_ahead true hhigh ⟨hne, hahead⟩).1⟩
  unfold ReplayWindow.checkReplay
  rw [hhigh]
  simp only [if_neg hne, if_pos hahead]
  rw [if_neg]
  rw [UInt32.lt_iff_toNat_lt, show dataMaxFutureJump.toNat = 1024 from rfl]
  exact not_lt.mpr h.2

theorem FromPeer.acceptedNumbers_chain (h : FromPeer r) {highest : UInt32}
    (hhigh : r.window.highestReceived = some highest) (hchain : List.IsChain Ahead (highest :: numbers)) :
    acceptedNumbers .plain r (numbers.map fun n => .receiveDatagram 0 (peerDatagram n)) = numbers := by
  induction numbers generalizing r highest with
  | nil => rfl
  | cons n numbers ih =>
    obtain ⟨hahead, hchain⟩ := isChain_cons_cons.mp hchain
    obtain ⟨hadmitted, hnext⟩ := hahead.admissible hhigh
    obtain ⟨haccepted, hpeer, hwindow⟩ := h.receive hadmitted
    rw [map_cons, acceptedNumbers_cons, haccepted, ih hpeer (hwindow ▸ hnext) hchain]
    rfl

/-- The packets 0, 1024, 2048, … of the peer; after `2 ^ 22` of them the numbers begin again. -/
def sweep (count : Nat) : List UInt32 :=
  (List.range count).map fun i => UInt32.ofNat (1024 * i)

theorem sweep_chain (count : Nat) : List.IsChain Ahead (sweep count) := by
  unfold sweep
  rw [isChain_map, isChain_range]
  intro i hi
  have hstep : (UInt32.ofNat (1024 * i.succ) - UInt32.ofNat (1024 * i)).toNat = 1024 := by
    simp only [UInt32.toNat_sub, UInt32.toNat_ofNat']
    omega
  exact ⟨by rw [hstep]; omega, hstep.le⟩

theorem sweep_succ (count : Nat) : sweep (count + 1) = 0 :: (sweep (count + 1)).tail := by
  rw [sweep, range_succ_eq_map]
  rfl

theorem sweep_increasing {count : Nat} (h : count ≤ 2 ^ 22) : (sweep count).Pairwise (· < ·) := by
  unfold sweep
  rw [pairwise_map]
  refine pairwise_lt_range.imp_of_mem fun {i j} hi hj hlt => ?_
  rw [UInt32.lt_iff_toNat_lt]
  rw [mem_range] at hi hj
  simp only [UInt32.toNat_ofNat']
  omega

/-- The datagrams of a sweep through the number space, and then the first of them again. -/
def sweepRun : List SessionOp :=
  (sweep (2 ^ 22 + 1)).map fun n => .receiveDatagram 0 (peerDatagram n)

theorem sweep_replayed : sweep (2 ^ 22 + 1) = sweep (2 ^ 22) ++ [0] := by
  rw [sweep, range_succ, map_append]
  rfl

/-- The peer seals `2 ^ 22` packets under increasing numbers; they arrive in order, then the first one is
replayed, and packet 0 is accepted a second time. -/
theorem sweepRun_accepts_twice : ∃ s, Ssu2Session.new (.sample 0) .sample = .ok s ∧ (sweep (2 ^ 22)).Pairwise (· < ·) ∧
    (∀ n, peerSession.sealPlaintext .plain n tokenPlaintext = some (peerDatagram n)) ∧
    acceptedNumbers .plain s sweepRun = sweep (2 ^ 22) ++ [0] ∧ 0 ∈ sweep (2 ^ 22) ∧
    ¬ (acceptedNumbers .plain s sweepRun).Nodup := by
  have hzero : 0 ∈ sweep (2 ^ 22) := mem_map.mpr ⟨0, mem_range.mpr (Nat.two_pow_pos 22), rfl⟩
  have haccepted : acceptedNumbers .plain (.start (.sample 0) .sample) sweepRun = sweep (2 ^ 22) ++ [0] := by
    rw [← sweep_replayed]
    have hchain := sweep_chain (2 ^ 22 + 1)
    have hfirst := sweep_succ (2 ^ 22)
    have hpeer : FromPeer (.start (.sample 0) .sample) := ⟨rfl, rfl, rfl⟩
    obtain ⟨hone, hpeer', hwindow⟩ := hpeer.receive (n := 0) rfl
    rw [sweepRun, hfirst, map_cons, acceptedNumbers_cons, hone,
      hpeer'.acceptedNumbers_chain (show _ = some 0 from hwindow ▸ rfl) (hfirst ▸ hchain)]
    rfl
  refine ⟨_, rfl, sweep_increasing le_rfl, peerDatagram_sealed, haccepted, hzero, ?_⟩
  rw [haccepted]
  intro hnodup
  exact (nodup_append.mp hnodup).2.2 0 hzero 0 (mem_singleton.mpr rfl) rfl

theorem FromPeer.noCrossing (h : FromPeer r)
    (hclear : ∀ highest, r.window.highestReceived = some highest → ¬ ReplayWindow.Crosses highest n) :
    (⟨r, .receiveDatagram 0 (peerDatagram n),
      apply .plain r (.receiveDatagram 0 (peerDatagram n))⟩ : Step).NoCrossing .plain := by
  rintro nowMs datagram ⟨⟩ header headerBytes ciphertext plaintext hheader - highest hhigh
  obtain ⟨_, hsame, -⟩ := h.2.openHeader (peerDatagram_sealed n)
  cases hheader.symm.trans hsame
  exact hclear highest hhigh

/-- Packets 5 and 3, out of order. -/
theorem acceptedNumbers_nodup_reordered : (acceptedNumbers .plain (.start (.sample 0) .sample)
      [.receiveDatagram 0 (peerDatagram 5), .receiveDatagram 0 (peerDatagram 3)]).Nodup := by
  have hpeer : FromPeer (.start (.sample 0) .sample) := ⟨rfl, rfl, rfl⟩
  obtain ⟨-, hpeer', hwindow⟩ := hpeer.receive (n := 5) rfl
  have hnew : Ssu2Session.new (.sample 0) .sample = .ok (.start (.sample 0) .sample) := rfl
  refine acceptedNumbers_nodup hnew .plain _ fun step hstep => ?_
  simp only [trace, mem_cons, not_mem_nil, or_false] at hstep
  rcases hstep with rfl | rfl
  · exact hpeer.noCrossing (by rintro _ ⟨⟩)
  · refine hpeer'.noCrossing fun highest hhigh => ?_
    rw [hwindow] at hhigh
    cases hhigh
    decide

end I2pr.Ssu2

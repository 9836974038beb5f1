import I2pr.SendWindow
import I2pr.Lib.Counter

namespace I2pr.SendWindowPolicy

open Std ExtTreeSet

structure Counted (w : SendWindowPolicy) : Prop where
  bytes : w.unackedBytes = TreeMap.total (fun _ entry => entry.payloadLen) w.unacked
  packets : w.unacked.size ≤ w.config.maxWindowPackets.toNat
  limit : w.unackedBytes ≤ w.config.maxWindowBytes

theorem size_erase {w : SendWindowPolicy} {key : UInt32} {entry : UnackedEntry}
    (hentry : w.unacked[key]? = some entry) : w.unacked.size = (w.unacked.erase key).size + 1 := by
  rw [TreeMap.size_eq_total, TreeMap.size_eq_total, TreeMap.total_erase hentry]

variable {w : SendWindowPolicy} {q : UInt32}

theorem Counted.remove (h : w.Counted) (sequence : UInt32) : (w.remove sequence).Counted := by
  unfold SendWindowPolicy.remove
  split
  next entry hentry =>
    have htotal := @TreeMap.total_erase _ _ _ _ _ w.unacked sequence entry (fun _ entry => entry.payloadLen) hentry
    have hsize := size_erase hentry
    have hbytes := h.bytes
    have hpackets := h.packets
    have hlimit := h.limit
    exact ⟨by dsimp only; omega, by dsimp only; omega, by dsimp only; omega⟩
  · exact h

theorem Counted.acknowledge (h : w.Counted) (ackThrough : UInt32) (nacks : List UInt32) :
    (w.acknowledge ackThrough nacks).1.Counted := by
  by_cases hlate : ackThrough < w.lastAck
  · rwa [acknowledge_of_late nacks hlate]
  rw [acknowledge_of_new nacks hlate]
  have hfold : ((w.covered ackThrough nacks).foldl SendWindowPolicy.remove w).Counted :=
    List.foldlRecOn _ _ h fun _ hcounted key _ => hcounted.remove key
  exact ⟨hfold.bytes, hfold.packets, hfold.limit⟩

theorem acknowledge_foldl_counts (nackSet : ExtTreeSet UInt32) (keys : List UInt32)
    (acc : SendWindowPolicy × AckOutcome) :
    (keys.foldl (acknowledgeKey nackSet) acc).1.unacked.size +
        (keys.foldl (acknowledgeKey nackSet) acc).2.newlyAcked.length =
      acc.1.unacked.size + acc.2.newlyAcked.length := by
  induction keys generalizing acc with
  | nil => rfl
  | cons key keys ih =>
    rw [List.foldl_cons, ih, acknowledgeKey]
    split
    · rfl
    split
    next entry hentry =>
      dsimp only
      rw [List.length_append, List.length_singleton, size_erase hentry]
      omega
    · rfl

theorem acknowledge_counts (w : SendWindowPolicy) (ackThrough : UInt32) (nacks : List UInt32) :
    (w.acknowledge ackThrough nacks).1.unacked.size + (w.acknowledge ackThrough nacks).2.newlyAcked.length =
      w.unacked.size := by
  unfold acknowledge
  dsimp only
  split
  · rfl
  · exact acknowledge_foldl_counts _ _ (w, _)

/-- As long as everything unacknowledged lies above the last acknowledgement, an acknowledgement removes what it covers;
one that is late covers nothing. -/
theorem mem_acknowledge (habove : ∀ q ∈ w.unacked, w.lastAck < q) (ackThrough : UInt32)
    (nacks : List UInt32) (q : UInt32) :
    q ∈ (w.acknowledge ackThrough nacks).1.unacked ↔
      q ∈ w.unacked ∧ ¬ (q ≤ ackThrough ∧ ¬ (q ∈ nacks ∧ q < ackThrough)) := by
  rw [mem_acknowledge_iff]
  refine and_congr_right fun hmem => or_iff_right_of_imp fun hlate hcovered => ?_
  exact UInt32.lt_irrefl _ (UInt32.lt_trans (UInt32.lt_of_le_of_lt hcovered.1 hlate) (habove q hmem))

theorem max_lt {a b : UInt32} (ha : a < q) (hb : b < q) : max a b < q := by
  change (if a ≤ b then b else a) < q
  split
  · exact hb
  · exact ha

theorem head_le_of_mem {names : ExtTreeSet UInt32} {lowest : UInt32} (hlowest : names.toList.head? = some lowest)
    (hq : q ∈ names) : lowest ≤ q := by
  have hsorted : names.toList.Pairwise fun a b => compare a b = .lt := ordered_toList
  obtain ⟨rest, hlist⟩ := List.head?_eq_some_iff.mp hlowest
  have hq := mem_toList.mpr hq
  rw [hlist] at hsorted hq
  rcases List.mem_cons.mp hq with rfl | hq
  · exact UInt32.le_refl q
  · exact UInt32.le_of_lt (compareOfLessAndEq_eq_lt.mp ((List.pairwise_cons.mp hsorted).1 q hq))

theorem lastAck_acknowledge (w : SendWindowPolicy) (ackThrough : UInt32) (nacks : List UInt32) :
    (w.acknowledge ackThrough nacks).1.lastAck =
      if ackThrough < w.lastAck then w.lastAck else max w.lastAck (ackFloor ackThrough nacks) := by
  by_cases hlate : ackThrough < w.lastAck
  · rw [acknowledge_of_late nacks hlate, if_pos hlate]
  · rw [acknowledge_of_new nacks hlate, if_neg hlate]

theorem ackFloor_lt {floor ackThrough : UInt32} {nacks : List UInt32} (hfloor : floor < q)
    (hleft : ¬ (q ≤ ackThrough ∧ ¬ (q ∈ nacks ∧ q < ackThrough))) : ackFloor ackThrough nacks < q := by
  have hleft : ackThrough < q ∨ q ∈ ofList (nacks.filter (· < ackThrough)) := by
    by_cases hle : q ≤ ackThrough
    · right
      simpa [mem_ofList] using not_not.mp (not_and.mp hleft hle)
    · exact .inl (UInt32.not_le.mp hle)
  unfold ackFloor
  split
  next lowest hlowest =>
    have hlowest_lt : lowest < ackThrough := by
      have hin := mem_toList.mp (List.mem_of_mem_head? hlowest)
      simp only [mem_ofList, List.contains_iff_mem, List.mem_filter, decide_eq_true_eq] at hin
      exact hin.2
    have hmin : lowest ≤ q := hleft.elim (fun h => UInt32.le_of_lt (UInt32.lt_trans hlowest_lt h)) (head_le_of_mem hlowest)
    split
    · exact UInt32.lt_of_le_of_lt UInt32.zero_le hfloor
    next hne =>
      have hpos : lowest.toNat ≠ 0 := fun h => hne (UInt32.toNat_inj.mp h)
      have hone : 1 ≤ lowest := by
        rw [UInt32.le_iff_toNat_le]
        exact Nat.one_le_iff_ne_zero.mpr hpos
      rw [UInt32.le_iff_toNat_le] at hmin
      rw [UInt32.lt_iff_toNat_lt, UInt32.toNat_sub_of_le _ _ hone]
      change lowest.toNat - 1 < q.toNat
      omega
  next hnone =>
    refine hleft.resolve_right fun hin => ?_
    have hin := mem_toList.mpr hin
    rw [List.head?_eq_none_iff.mp hnone] at hin
    cases hin

theorem acknowledge_above (habove : ∀ q ∈ w.unacked, w.lastAck < q) (ackThrough : UInt32) (nacks : List UInt32) :
    ∀ q ∈ (w.acknowledge ackThrough nacks).1.unacked, (w.acknowledge ackThrough nacks).1.lastAck < q := by
  intro q hq
  obtain ⟨hmem, hleft⟩ := (mem_acknowledge habove ackThrough nacks q).mp hq
  have hlast := habove q hmem
  rw [lastAck_acknowledge]
  split
  · exact hlast
  · exact max_lt hlast (ackFloor_lt hlast hleft)

theorem lastAck_markRetransmitted (w : SendWindowPolicy) (sequence : UInt32) (nowMs : Nat) :
    (w.markRetransmitted sequence nowMs).lastAck = w.lastAck := by
  unfold markRetransmitted
  split
  · rfl
  · rfl

inductive SendAction where
  | enqueue (payloadLen nowMs : Nat)
  | acknowledge (ackThrough : UInt32) (nacks : List UInt32)
  | markRetransmitted (sequence : UInt32) (nowMs : Nat)
  | remove (sequence : UInt32)

def apply (w : SendWindowPolicy) : SendAction → SendWindowPolicy
  | .enqueue payloadLen nowMs =>
    match w.enqueue payloadLen nowMs with
    | .ok (_, w) => w
    | .error _ => w
  | .acknowledge ackThrough nacks => (w.acknowledge ackThrough nacks).1
  | .markRetransmitted sequence nowMs => w.markRetransmitted sequence nowMs
  | .remove sequence => w.remove sequence

def run (w : SendWindowPolicy) (actions : List SendAction) : SendWindowPolicy := actions.foldl apply w

/-- The books, and the order of what is acknowledged, unacknowledged and not yet sent. -/
structure Bounded (w : SendWindowPolicy) : Prop extends Counted w where
  range : ∀ q ∈ w.unacked, w.lastAck < q ∧ q < w.nextSequence
  floor : w.lastAck < w.nextSequence

/-- The sequence numbers do not run out, and no floor is set at or above the next one. -/
def Heeds (w : SendWindowPolicy) : SendAction → Prop
  | .enqueue _ _ => w.nextSequence + 1 ≠ 0
  | .acknowledge ackThrough nacks => ackThrough < w.lastAck ∨ ackFloor ackThrough nacks < w.nextSequence
  | _ => True

def AllHeed (w : SendWindowPolicy) : List SendAction → Prop
  | [] => True
  | action :: actions => w.Heeds action ∧ (w.apply action).AllHeed actions

theorem Bounded.acknowledge (h : w.Bounded) {ackThrough : UInt32} {nacks : List UInt32}
    (hheeds : ackThrough < w.lastAck ∨ ackFloor ackThrough nacks < w.nextSequence) :
    (w.acknowledge ackThrough nacks).1.Bounded where
  toCounted := h.toCounted.acknowledge ackThrough nacks
  range q hq := by
    rw [(acknowledge_frame ..).2]
    exact ⟨acknowledge_above (fun q hq => (h.range q hq).1) ackThrough nacks q hq, (h.range q (acknowledge_subset hq)).2⟩
  floor := by
    rw [(acknowledge_frame ..).2, lastAck_acknowledge]
    split
    · exact h.floor
    next hnew => exact max_lt h.floor (hheeds.resolve_left hnew)

/-- The next sequence is above all that is in the window, so a packet is added under a key of its own. -/
theorem Bounded.enqueue (h : w.Bounded) (hbytes : w.config.maxWindowBytes < 2 ^ 64 - 1) (hnext : w.nextSequence + 1 ≠ 0)
    {payloadLen nowMs : Nat} {sequence : UInt32} {w' : SendWindowPolicy}
    (henqueue : w.enqueue payloadLen nowMs = .ok (sequence, w')) : w'.Bounded := by
  have hfresh : w.nextSequence ∉ w.unacked := fun hmem => UInt32.lt_irrefl _ (h.range _ hmem).2
  have hstep : w.nextSequence < w.nextSequence + 1 := by
    rw [UInt32.lt_iff_toNat_lt, Counter.toNat_succ hnext]
    exact Nat.lt_succ_self _
  unfold SendWindowPolicy.enqueue at henqueue
  split at henqueue
  · cases henqueue
  next haccept =>
    cases henqueue
    have hroom : ¬ (w.config.maxWindowPackets.toNat < saturatingAdd w.unacked.size 1 ∨
        w.config.maxWindowBytes < saturatingAdd w.unackedBytes payloadLen) := fun hfull => haccept (if_pos hfull)
    rw [not_or, Nat.not_lt, Nat.not_lt, saturatingAdd, saturatingAdd] at hroom
    have hsmall := w.config.maxWindowPackets.toNat_lt
    refine ⟨⟨?_, ?_, hroom.2⟩, ?_, UInt32.lt_trans h.floor hstep⟩
    · dsimp only
      rw [TreeMap.total_insert hfresh, ← h.bytes, saturatingAdd]
      dsimp only
      omega
    · dsimp only
      rw [ExtTreeMap.size_insert, if_neg (by rwa [← ExtTreeMap.mem_iff_contains])]
      omega
    · intro q hq
      rcases TreeMap.mem_insert.mp hq with rfl | hmem
      · exact ⟨h.floor, hstep⟩
      · exact ⟨(h.range q hmem).1, UInt32.lt_trans (h.range q hmem).2 hstep⟩

theorem Bounded.markRetransmitted (h : w.Bounded) (sequence : UInt32) (nowMs : Nat) :
    (w.markRetransmitted sequence nowMs).Bounded := by
  have hrange : ∀ q ∈ (w.markRetransmitted sequence nowMs).unacked, w.lastAck < q ∧ q < w.nextSequence :=
    fun q hq => h.range q ((mem_markRetransmitted w sequence nowMs q).mp hq)
  unfold SendWindowPolicy.markRetransmitted at hrange ⊢
  split
  next entry hentry =>
    simp only [hentry] at hrange
    refine ⟨⟨?_, ?_, h.limit⟩, hrange, h.floor⟩
    · have htotal := @TreeMap.total_replace UInt32 UnackedEntry _ _ _ w.unacked sequence
        { entry with retransmitCount := min (entry.retransmitCount + 1) (2 ^ 32 - 1), sentAtMs := nowMs }
        (fun _ entry => entry.payloadLen) entry hentry
      have hbytes := h.bytes
      dsimp only at htotal ⊢
      omega
    · dsimp only
      rw [ExtTreeMap.size_insert, if_pos (ExtTreeMap.mem_iff_contains.mp (TreeMap.mem_of_getElem? hentry))]
      exact h.packets
  · exact h

theorem Bounded.remove (h : w.Bounded) (sequence : UInt32) : (w.remove sequence).Bounded := by
  obtain ⟨-, hnext, hlast⟩ := foldl_remove_frame w [sequence]
  refine ⟨h.toCounted.remove sequence, fun q hq => ?_, ?_⟩
  · exact hnext ▸ hlast ▸ h.range q ((mem_remove w sequence q).mp hq).1
  · exact hnext ▸ hlast ▸ h.floor

theorem le_max_left (a b : UInt32) : a ≤ max a b := by
  change a ≤ if a ≤ b then b else a
  split
  next h => exact h
  · exact UInt32.le_refl a

theorem apply_keeps (w : SendWindowPolicy) (action : SendAction) :
    w.lastAck ≤ (w.apply action).lastAck ∧ (w.apply action).config = w.config := by
  cases action with
  | enqueue payloadLen nowMs =>
    rw [apply, SendWindowPolicy.enqueue]
    split
    next heq =>
      split at heq
      · cases heq
      · cases heq; exact ⟨UInt32.le_refl _, rfl⟩
    · exact ⟨UInt32.le_refl _, rfl⟩
  | acknowledge ackThrough nacks =>
    rw [apply, lastAck_acknowledge, (acknowledge_frame ..).1]
    refine ⟨?_, rfl⟩
    split
    · exact UInt32.le_refl _
    · exact le_max_left _ _
  | markRetransmitted sequence nowMs =>
    rw [apply, markRetransmitted]
    split
    · exact ⟨UInt32.le_refl _, rfl⟩
    · exact ⟨UInt32.le_refl _, rfl⟩
  | remove sequence =>
    rw [apply, remove]
    split
    · exact ⟨UInt32.le_refl _, rfl⟩
    · exact ⟨UInt32.le_refl _, rfl⟩

theorem Bounded.apply (h : w.Bounded) (hbytes : w.config.maxWindowBytes < 2 ^ 64 - 1) {action : SendAction}
    (hheeds : w.Heeds action) : (w.apply action).Bounded := by
  cases action with
  | enqueue payloadLen nowMs =>
    rw [SendWindowPolicy.apply]
    split
    next henqueue => exact h.enqueue hbytes hheeds henqueue
    · exact h
  | acknowledge => exact h.acknowledge hheeds
  | markRetransmitted sequence nowMs => exact h.markRetransmitted sequence nowMs
  | remove sequence => exact h.remove sequence

theorem Bounded.run (h : w.Bounded) (hbytes : w.config.maxWindowBytes < 2 ^ 64 - 1) {actions : List SendAction}
    (hheed : w.AllHeed actions) : (w.run actions).Bounded := by
  induction actions generalizing w with
  | nil => exact h
  | cons action actions ih =>
    exact ih (h.apply hbytes hheed.1) ((apply_keeps w action).2 ▸ hbytes) hheed.2

theorem new_bounded (config : SendWindowConfig) : (new config).Bounded where
  bytes := TreeMap.total_empty.symm
  packets := by simp [new]
  limit := Nat.zero_le _
  range q hq := by simp [new] at hq
  floor := show (0 : UInt32) < 1 by decide

/-- In every run in which the sequence numbers do not run out and no acknowledgement sets a floor at or above the next
one, the window keeps its books and its order; its floor never falls, and no acknowledgement of a packet is ignored. -/
theorem bounded_of_allHeed {config : SendWindowConfig} (hbytes : config.maxWindowBytes < 2 ^ 64 - 1)
    {actions : List SendAction} (hheed : (new config).AllHeed actions) :
    ((new config).run actions).Bounded ∧
      (∀ action, ((new config).run actions).lastAck ≤ (((new config).run actions).apply action).lastAck) ∧
      ∀ q ∈ ((new config).run actions).unacked, ∀ ackThrough nacks, q ≤ ackThrough → ¬ (q ∈ nacks ∧ q < ackThrough) →
        q ∉ (((new config).run actions).acknowledge ackThrough nacks).1.unacked := by
  have hbounded := (new_bounded config).run hbytes hheed
  refine ⟨hbounded, fun action => (apply_keeps _ action).1, ?_⟩
  intro q hq ackThrough nacks hle hnack hkept
  exact ((mem_acknowledge (fun q hq => (hbounded.range q hq).1) ackThrough nacks q).mp hkept).2 ⟨hle, hnack⟩

theorem bounded_of_allHeed_acknowledged : ((new ⟨4, 100⟩).run [.enqueue 1 0, .acknowledge 1 []]).Bounded := by
  have hheed : (new ⟨4, 100⟩).AllHeed [.enqueue 1 0, .acknowledge 1 []] :=
    ⟨show (1 : UInt32) + 1 ≠ 0 by decide, .inr (by decide +kernel), trivial⟩
  exact (bounded_of_allHeed (by decide) hheed).1

/-- An acknowledgement of a packet that was never sent puts the floor above the packets to come: the first of them is
outside the order, and its own acknowledgement is ignored. -/
theorem not_bounded_of_early_acknowledgement : ¬ ((new ⟨4, 100⟩).run [.acknowledge 5 [], .enqueue 1 0]).Bounded ∧
      (((new ⟨4, 100⟩).run [.acknowledge 5 [], .enqueue 1 0]).acknowledge 1 []).2.duplicateAck = true ∧
      (((new ⟨4, 100⟩).run [.acknowledge 5 [], .enqueue 1 0]).acknowledge 1 []).1.unacked.contains 1 = true := by
  refine ⟨fun h => ?_, by decide +kernel, by decide +kernel⟩
  exact absurd h.floor (by decide +kernel)

end I2pr.SendWindowPolicy

import I2pr.Lib.TreeFold
import I2pr.StreamingConfig

namespace I2pr

open Std

structure SendWindowConfig where
  maxWindowPackets : UInt16
  maxWindowBytes : Nat

def SendWindowConfig.fromConfig (config : StreamingConfig) : SendWindowConfig :=
  ⟨config.maxSendWindowPackets, config.maxSendWindowPackets.toNat * maxPacketPayloadBytes⟩

structure UnackedEntry where
  sequence : UInt32
  payloadLen : Nat
  sentAtMs : Nat
  retransmitCount : Nat

inductive SendWindowDecision where
  | accept
  | backpressure
deriving DecidableEq, Repr

structure AckOutcome where
  newlyAcked : List UnackedEntry
  retainedNacks : List UInt32
  duplicateAck : Bool

def firstApplicationSequence : UInt32 := 1

structure SendWindowPolicy where
  config : SendWindowConfig
  unacked : ExtTreeMap UInt32 UnackedEntry
  nextSequence : UInt32
  unackedBytes : Nat
  lastAck : UInt32

namespace SendWindowPolicy

def new (config : SendWindowConfig) : SendWindowPolicy :=
  ⟨config, ∅, firstApplicationSequence, 0, 0⟩

def fromStreamingConfig (config : StreamingConfig) : SendWindowPolicy :=
  new (.fromConfig config)

def evaluate (w : SendWindowPolicy) (payloadLen : Nat) : SendWindowDecision :=
  if w.config.maxWindowPackets.toNat < saturatingAdd w.unacked.size 1 ∨
      w.config.maxWindowBytes < saturatingAdd w.unackedBytes payloadLen then .backpressure
  else .accept

def enqueue (w : SendWindowPolicy) (payloadLen nowMs : Nat) : Except SendWindowDecision (UInt32 × SendWindowPolicy) :=
  if w.evaluate payloadLen = .backpressure then .error .backpressure
  else .ok (w.nextSequence,
    { w with
      nextSequence := w.nextSequence + 1
      unackedBytes := saturatingAdd w.unackedBytes payloadLen
      unacked := w.unacked.insert w.nextSequence ⟨w.nextSequence, payloadLen, nowMs, 0⟩ })

/-- The body of the loop over the covered keys. -/
def acknowledgeKey (nackSet : ExtTreeSet UInt32) (acc : SendWindowPolicy × AckOutcome)
    (key : UInt32) : SendWindowPolicy × AckOutcome :=
  if nackSet.contains key then
    (acc.1, { acc.2 with retainedNacks := acc.2.retainedNacks ++ [key] })
  else match acc.1.unacked[key]? with
    | some entry =>
      ({ acc.1 with
          unacked := acc.1.unacked.erase key
          unackedBytes := acc.1.unackedBytes - entry.payloadLen },
        { acc.2 with newlyAcked := acc.2.newlyAcked ++ [entry] })
    | none => acc

/-- NACKs at or above `ackThrough` are ignored; an acknowledgement below `lastAck` is a duplicate. -/
def acknowledge (w : SendWindowPolicy) (ackThrough : UInt32) (nacks : List UInt32) : SendWindowPolicy × AckOutcome :=
  let nackSet := ExtTreeSet.ofList (nacks.filter (· < ackThrough))
  let outcome : AckOutcome := ⟨[], [], decide (ackThrough < w.lastAck)⟩
  if ackThrough < w.lastAck then (w, outcome)
  else
    let acc := (w.unacked.keys.filter (· ≤ ackThrough)).foldl (acknowledgeKey nackSet) (w, outcome)
    ({ acc.1 with
        lastAck := match nackSet.toList.head? with
          | some lowest => max acc.1.lastAck (if lowest = 0 then 0 else lowest - 1)
          | none => max acc.1.lastAck ackThrough }, acc.2)

def markRetransmitted (w : SendWindowPolicy) (sequence : UInt32) (nowMs : Nat) : SendWindowPolicy :=
  match w.unacked[sequence]? with
  | some entry =>
    { w with
      unacked := w.unacked.insert sequence
        { entry with retransmitCount := min (entry.retransmitCount + 1) (2 ^ 32 - 1), sentAtMs := nowMs } }
  | none => w

def expiredEntries (w : SendWindowPolicy) (nowMs rtoMs : Nat) : List UInt32 :=
  (w.unacked.toList.filter fun entry => rtoMs ≤ nowMs - entry.2.sentAtMs).map (·.1)

def remove (w : SendWindowPolicy) (sequence : UInt32) : SendWindowPolicy :=
  match w.unacked[sequence]? with
  | some entry =>
    { w with unacked := w.unacked.erase sequence, unackedBytes := w.unackedBytes - entry.payloadLen }
  | none => w

variable {w : SendWindowPolicy} {q : UInt32}

theorem enqueue_ok {w' : SendWindowPolicy} {len now : Nat} {seq : UInt32} (h : w.enqueue len now = .ok (seq, w')) :
    seq = w.nextSequence ∧ w'.nextSequence = w.nextSequence + 1 ∧
      ∀ q, q ∈ w'.unacked ↔ q = seq ∨ q ∈ w.unacked := by
  unfold enqueue at h
  split at h
  · cases h
  obtain ⟨rfl, rfl⟩ := Prod.mk.inj (Except.ok.inj h)
  refine ⟨rfl, rfl, fun q => ?_⟩
  rw [ExtTreeMap.mem_insert, Std.compare_eq_iff_eq, eq_comm]

theorem mem_markRetransmitted (w : SendWindowPolicy) (sequence : UInt32) (now : Nat) (q : UInt32) :
    q ∈ (w.markRetransmitted sequence now).unacked ↔ q ∈ w.unacked := by
  unfold markRetransmitted
  split
  next entry he =>
    have hm : sequence ∈ w.unacked := ExtTreeMap.mem_iff_isSome_getElem?.mpr (by simp [he])
    simp only [ExtTreeMap.mem_insert, Std.compare_eq_iff_eq]
    constructor
    · rintro (rfl | h)
      · exact hm
      · exact h
    · exact Or.inr
  · rfl

theorem markRetransmitted_nextSequence (w : SendWindowPolicy) (sequence : UInt32) (now : Nat) :
    (w.markRetransmitted sequence now).nextSequence = w.nextSequence := by
  unfold markRetransmitted
  split <;> rfl

theorem mem_remove (w : SendWindowPolicy) (sequence q : UInt32) :
    q ∈ (w.remove sequence).unacked ↔ q ∈ w.unacked ∧ q ≠ sequence := by
  unfold remove
  split
  · rw [ExtTreeMap.mem_erase, and_comm, ne_eq, ne_eq, Std.compare_eq_iff_eq, eq_comm]
  next hnone =>
    have hout := TreeMap.notMem_of_getElem? hnone
    exact ⟨fun h => ⟨h, fun heq => hout (heq ▸ h)⟩, And.left⟩

theorem foldl_remove_frame (w : SendWindowPolicy) (keys : List UInt32) :
    (keys.foldl remove w).config = w.config ∧ (keys.foldl remove w).nextSequence = w.nextSequence ∧
      (keys.foldl remove w).lastAck = w.lastAck := by
  induction keys generalizing w with
  | nil => exact ⟨rfl, rfl, rfl⟩
  | cons key keys ih =>
    obtain ⟨hconfig, hnext, hlast⟩ := ih (w.remove key)
    rw [List.foldl_cons, hconfig, hnext, hlast]
    unfold remove
    split
    · exact ⟨rfl, rfl, rfl⟩
    · exact ⟨rfl, rfl, rfl⟩

theorem mem_foldl_remove (w : SendWindowPolicy) (keys : List UInt32) (q : UInt32) :
    q ∈ (keys.foldl remove w).unacked ↔ q ∈ w.unacked ∧ q ∉ keys := by
  induction keys generalizing w with
  | nil => simp
  | cons key keys ih => rw [List.foldl_cons, ih, mem_remove, and_assoc, List.mem_cons, not_or]

/-- On the window, the loop over the covered keys removes those that are not named as missing. -/
theorem foldl_acknowledgeKey (nackSet : ExtTreeSet UInt32) (keys : List UInt32) (acc : SendWindowPolicy × AckOutcome) :
    (keys.foldl (acknowledgeKey nackSet) acc).1 =
      (keys.filter fun key => !nackSet.contains key).foldl remove acc.1 := by
  induction keys generalizing acc with
  | nil => rfl
  | cons key keys ih =>
    rw [List.foldl_cons, ih, acknowledgeKey, List.filter_cons]
    by_cases hnack : nackSet.contains key = true
    · rw [if_pos hnack, hnack]
      rfl
    rw [if_neg hnack, Bool.eq_false_of_not_eq_true hnack]
    show _ = List.foldl remove (acc.1.remove key) _
    unfold remove
    split
    · rfl
    · rfl

def covered (w : SendWindowPolicy) (ackThrough : UInt32) (nacks : List UInt32) : List UInt32 :=
  (w.unacked.keys.filter (· ≤ ackThrough)).filter fun key =>
    !(ExtTreeSet.ofList (nacks.filter (· < ackThrough))).contains key

variable {ackThrough : UInt32} {nacks : List UInt32}

theorem mem_covered :
    q ∈ w.covered ackThrough nacks ↔ q ∈ w.unacked ∧ q ≤ ackThrough ∧ ¬ (q ∈ nacks ∧ q < ackThrough) := by
  rw [covered, List.mem_filter, List.mem_filter, ExtTreeMap.mem_keys, and_assoc, decide_eq_true_iff]
  simp [ExtTreeSet.contains_ofList, imp_iff_not_or]

def ackFloor (ackThrough : UInt32) (nacks : List UInt32) : UInt32 :=
  match (ExtTreeSet.ofList (nacks.filter (· < ackThrough))).toList.head? with
  | some lowest => if lowest = 0 then 0 else lowest - 1
  | none => ackThrough

theorem acknowledge_of_late (nacks : List UInt32) (hlate : ackThrough < w.lastAck) :
    (w.acknowledge ackThrough nacks).1 = w := by
  rw [acknowledge, if_pos hlate]

theorem acknowledge_of_new (nacks : List UInt32) (hnew : ¬ ackThrough < w.lastAck) :
    (w.acknowledge ackThrough nacks).1 =
      { (w.covered ackThrough nacks).foldl remove w with lastAck := max w.lastAck (ackFloor ackThrough nacks) } := by
  rw [acknowledge, if_neg hnew, ackFloor]
  dsimp only
  rw [foldl_acknowledgeKey, (foldl_remove_frame _ _).2.2]
  split
  · rfl
  · rfl

theorem mem_acknowledge_iff : q ∈ (w.acknowledge ackThrough nacks).1.unacked ↔
      q ∈ w.unacked ∧ (ackThrough < w.lastAck ∨ ¬ (q ≤ ackThrough ∧ ¬ (q ∈ nacks ∧ q < ackThrough))) := by
  by_cases hlate : ackThrough < w.lastAck
  · rw [acknowledge_of_late nacks hlate]
    exact ⟨fun h => ⟨h, .inl hlate⟩, And.left⟩
  rw [acknowledge_of_new nacks hlate]
  show q ∈ ((w.covered ackThrough nacks).foldl remove w).unacked ↔ _
  rw [mem_foldl_remove, mem_covered]
  tauto

/-- What an acknowledgement removes was covered by it and not named in its NACK list. -/
theorem acknowledge_removed (hq : q ∈ w.unacked) (hn : q ∉ (w.acknowledge ackThrough nacks).1.unacked) :
    q ≤ ackThrough ∧ ¬(q ∈ nacks ∧ q < ackThrough) := by
  by_contra hnot
  exact hn (mem_acknowledge_iff.mpr ⟨hq, .inr hnot⟩)

theorem acknowledge_subset (hq : q ∈ (w.acknowledge ackThrough nacks).1.unacked) : q ∈ w.unacked :=
  (mem_acknowledge_iff.mp hq).1

theorem acknowledge_frame (w : SendWindowPolicy) (ackThrough : UInt32) (nacks : List UInt32) :
    (w.acknowledge ackThrough nacks).1.config = w.config ∧
      (w.acknowledge ackThrough nacks).1.nextSequence = w.nextSequence := by
  by_cases hlate : ackThrough < w.lastAck
  · rw [acknowledge_of_late nacks hlate]
    exact ⟨rfl, rfl⟩
  rw [acknowledge_of_new nacks hlate]
  exact ⟨(foldl_remove_frame _ _).1, (foldl_remove_frame _ _).2.1⟩

end SendWindowPolicy

end I2pr

import I2pr.RecvWindow

namespace I2pr

open RecvWindowPolicy SendWindowPolicy

/-- A sender and a receiver joined by a lossy network. `packets` and `views` hold everything ever put on
the wire, so that a delivery may lose, repeat or reorder; `delivered` and `cleared` are history. -/
structure StreamLink where
  sender : SendWindowPolicy
  receiver : RecvWindowPolicy
  packets : List (UInt32 × List UInt8)
  views : List (UInt32 × List UInt32)
  delivered : List UInt32
  cleared : List UInt32

inductive StreamAction where
  | enqueue (payload : List UInt8) (nowMs : Nat)
  | retransmit (sequence : UInt32) (nowMs : Nat)
  | deliver (packet : UInt32 × List UInt8)
  | emitAck
  | acknowledge (view : UInt32 × List UInt32)

namespace StreamLink

def new (sendConfig : SendWindowConfig) (recvConfig : RecvWindowConfig) : StreamLink :=
  ⟨.new sendConfig, .new recvConfig, [], [], [], []⟩

/-- A sequence the receiver has accepted: delivered in order or held in its reorder buffer. -/
def Accepted (s : StreamLink) (q : UInt32) : Prop :=
  s.receiver.Accepted s.delivered q

/-- A retransmission puts a packet on the wire that is there already: only the timers change. -/
def step (s : StreamLink) : StreamAction → Option StreamLink
  | .enqueue payload nowMs =>
    match s.sender.enqueue payload.length nowMs with
    | .ok (sequence, sender) => some { s with sender, packets := s.packets ++ [(sequence, payload)] }
    | .error _ => none
  | .retransmit sequence nowMs => some { s with sender := s.sender.markRetransmitted sequence nowMs }
  | .deliver packet =>
    if packet ∈ s.packets then
      let r := s.receiver.receive packet.1 packet.2
      some { s with receiver := r.1, delivered := s.delivered ++ r.2.sequences }
    else none
  | .emitAck => some { s with views := s.views ++ [s.receiver.ackView] }
  | .acknowledge view =>
    if view ∈ s.views then
      let sender := (s.sender.acknowledge view.1 view.2).1
      some { s with
        sender
        cleared := s.cleared ++ s.sender.unacked.keys.filter fun q => !sender.unacked.contains q }
    else none

def Step (s s' : StreamLink) : Prop :=
  ∃ action, s.step action = some s'

/-- A step that does not enqueue once the sequence counter has wrapped to zero. -/
def StepUnwrapped (s s' : StreamLink) : Prop :=
  ∃ action, s.step action = some s' ∧
    ((∃ payload nowMs, action = .enqueue payload nowMs) → s.sender.nextSequence ≠ 0)

/-- A view that covers only what has been accepted, its NACK list apart. -/
def CoversAccepted (s : StreamLink) (view : UInt32 × List UInt32) : Prop :=
  ∀ q : UInt32, q ≠ 0 → q ≤ view.1 → ¬(q ∈ view.2 ∧ q < view.1) → s.Accepted q

structure Invariant (s : StreamLink) : Prop where
  receiver : s.receiver.Consistent s.delivered
  settled : s.receiver.nextExpected ∉ s.receiver.reorder
  packets : ∀ p ∈ s.packets, p.1 ≠ 0
  unacked : (0 : UInt32) ∉ s.sender.unacked
  views : ∀ view ∈ s.views, s.CoversAccepted view
  cleared : ∀ q ∈ s.cleared, s.Accepted q

theorem new_invariant {sendConfig : SendWindowConfig} {recvConfig : RecvWindowConfig}
    (h : recvConfig.maxWindowPackets.toNat ≤ 128) : (new sendConfig recvConfig).Invariant where
  receiver := RecvWindowPolicy.new_consistent h
  settled := by simp [new, RecvWindowPolicy.new]
  packets := by simp [new]
  unacked := by simp [new, SendWindowPolicy.new]
  views := by simp [new]
  cleared := by simp [new]

variable {s : StreamLink}

section

variable (hs : s.Invariant)
include hs

theorem Invariant.enqueue (h0 : s.sender.nextSequence ≠ 0)
    {payload : List UInt8} {now : Nat} {sequence : UInt32} {sender : SendWindowPolicy}
    (h : s.sender.enqueue payload.length now = .ok (sequence, sender)) :
    { s with sender, packets := s.packets ++ [(sequence, payload)] : StreamLink }.Invariant := by
  obtain ⟨rfl, -, hmem⟩ := enqueue_ok h
  refine { hs with packets := ?_, unacked := ?_ }
  · exact List.forall_mem_append.mpr ⟨hs.packets, List.forall_mem_singleton.mpr h0⟩
  · rw [hmem]
    rintro (h | h)
    · exact h0 h.symm
    · exact hs.unacked h

theorem Invariant.deliver {packet : UInt32 × List UInt8} (hp : packet ∈ s.packets) : { s with
      receiver := (s.receiver.receive packet.1 packet.2).1
      delivered := s.delivered ++ (s.receiver.receive packet.1 packet.2).2.sequences :
        StreamLink }.Invariant := by
  obtain ⟨hc, hn, hkept⟩ := receive_spec hs.receiver hs.settled (hs.packets packet hp) packet.2
  exact { hs with
    receiver := hc
    settled := hn
    views := fun view hv q h0 hle hnack => hkept q (hs.views view hv q h0 hle hnack)
    cleared := fun q hq => hkept q (hs.cleared q hq) }

theorem Invariant.emitAck : { s with views := s.views ++ [s.receiver.ackView] : StreamLink }.Invariant := by
  refine { hs with views := List.forall_mem_append.mpr ⟨hs.views, List.forall_mem_singleton.mpr ?_⟩ }
  exact fun q h0 hle hnack => ackView_spec hs.receiver h0 hle hnack

theorem Invariant.acknowledge {view : UInt32 × List UInt32} (hv : view ∈ s.views) : { s with
      sender := (s.sender.acknowledge view.1 view.2).1
      cleared := s.cleared ++ s.sender.unacked.keys.filter
        fun q => !(s.sender.acknowledge view.1 view.2).1.unacked.contains q : StreamLink }.Invariant := by
  refine { hs with unacked := fun h => hs.unacked (acknowledge_subset h), cleared := ?_ }
  intro q hq
  rcases List.mem_append.mp hq with hq | hq
  · exact hs.cleared q hq
  · obtain ⟨hkey, hgone⟩ := List.mem_filter.mp hq
    have hold : q ∈ s.sender.unacked := Std.ExtTreeMap.mem_keys.mp hkey
    have hnew : q ∉ (s.sender.acknowledge view.1 view.2).1.unacked := by
      intro hmem
      simp [Std.ExtTreeMap.mem_iff_contains.mp hmem] at hgone
    obtain ⟨hle, hnack⟩ := acknowledge_removed hold hnew
    exact hs.views view hv q (fun h => hs.unacked (h ▸ hold)) hle hnack

theorem Invariant.step {s' : StreamLink} (h : s.StepUnwrapped s') : s'.Invariant := by
  obtain ⟨action, hstep, hwrap⟩ := h
  cases action with
  | enqueue payload now =>
    simp only [StreamLink.step] at hstep
    split at hstep
    next sequence sender heq =>
      cases Option.some.inj hstep
      exact hs.enqueue (hwrap ⟨payload, now, rfl⟩) heq
    · cases hstep
  | retransmit sequence now =>
    cases Option.some.inj hstep
    exact { hs with unacked := by simpa [mem_markRetransmitted] using hs.unacked }
  | deliver packet =>
    simp only [StreamLink.step] at hstep
    split at hstep
    next hp =>
      cases Option.some.inj hstep
      exact hs.deliver hp
    · cases hstep
  | emitAck =>
    cases Option.some.inj hstep
    exact hs.emitAck
  | acknowledge view =>
    simp only [StreamLink.step] at hstep
    split at hstep
    next hv =>
      cases Option.some.inj hstep
      exact hs.acknowledge hv
    · cases hstep

theorem Invariant.run {s' : StreamLink} (h : Relation.ReflTransGen StepUnwrapped s s') : s'.Invariant := by
  induction h with
  | refl => exact hs
  | tail _ hstep ih => exact ih.step hstep

end

/-- Over any lossy interleaving in which no packet is enqueued after the counter wrapped, every sequence
an acknowledgement has cleared was accepted by the receiver. -/
theorem cleared_accepted {sendConfig : SendWindowConfig} (config : StreamingConfig) {config' : StreamingConfig}
    (hc : config.tryNew = .ok config') {s : StreamLink}
    (h : Relation.ReflTransGen StepUnwrapped (new sendConfig (.fromConfig config')) s) {q : UInt32}
    (hq : q ∈ s.cleared) : s.Accepted q := by
  have hwin := (StreamingConfig.tryNew_windows hc).2.1
  exact ((new_invariant hwin).run h).cleared q hq

theorem cleared_accepted_one_packet :
    ∃ s, Relation.ReflTransGen StepUnwrapped (new (.fromConfig .balanced) (.fromConfig .balanced)) s ∧
      (1 : UInt32) ∈ s.cleared ∧ s.Accepted 1 := by
  have hsent := Relation.ReflTransGen.single (r := StepUnwrapped)
    (a := new (.fromConfig .balanced) (.fromConfig .balanced)) ⟨.enqueue [7] 0, rfl, fun _ => by decide⟩
  have harrived := hsent.tail ⟨.deliver (1, [7]), rfl, by simp⟩
  have hviewed := harrived.tail ⟨.emitAck, rfl, by simp⟩
  have hcleared := hviewed.tail ⟨.acknowledge (1, []), rfl, by simp⟩
  exact ⟨_, hcleared, by decide, cleared_accepted .balanced rfl hcleared (by decide)⟩

/-- The link after `n` packets that were each enqueued, delivered, viewed and acknowledged in turn. -/
structure InOrder (n : UInt32) (s : StreamLink) : Prop where
  reached : Relation.ReflTransGen Step (new (.fromConfig .balanced) (.fromConfig .balanced)) s
  sender : s.sender = ⟨.fromConfig .balanced, ∅, n + 1, 0, n⟩
  receiver : s.receiver = ⟨.fromConfig .balanced, ∅, n + 1, n.toNat, if n = 0 then none else some n⟩
  delivered : (0 : UInt32) ∉ s.delivered
  viewed : n ≠ 0 → (n, []) ∈ s.views

theorem inOrder_new : InOrder 0 (new (.fromConfig .balanced) (.fromConfig .balanced)) where
  reached := .refl
  sender := rfl
  receiver := rfl
  delivered := by simp [new]
  viewed h := absurd rfl h

theorem enqueue_empty (n last : UInt32) : (⟨.fromConfig .balanced, ∅, n, 0, last⟩ : SendWindowPolicy).enqueue 1 0 =
      .ok (n, ⟨.fromConfig .balanced,
        (∅ : Std.ExtTreeMap UInt32 UnackedEntry).insert n ⟨n, 1, 0, 0⟩, n + 1, 1, last⟩) := by
  have hpackets : (SendWindowConfig.fromConfig .balanced).maxWindowPackets.toNat ≠ 0 := by decide
  have hbytes : (SendWindowConfig.fromConfig .balanced).maxWindowBytes ≠ 0 := by decide
  have hone : saturatingAdd 0 1 = 1 := by decide
  simp [enqueue, evaluate, hpackets, hbytes, hone]

theorem acknowledge_single (config : SendWindowConfig) (m last next : UInt32) (e : UnackedEntry) (h : last ≤ m) :
    ((⟨config, (∅ : Std.ExtTreeMap UInt32 UnackedEntry).insert m e, next, e.payloadLen, last⟩ :
      SendWindowPolicy).acknowledge m []).1 = ⟨config, ∅, next, 0, m⟩ := by
  have hlt : ¬ m < last := by grind
  have hmax : max last m = m := by
    change (if last ≤ m then m else last) = m
    rw [if_pos h]
  simp [acknowledge, hlt, TreeMap.keys_insert_empty, acknowledgeKey, hmax,
    TreeMap.erase_insert]

theorem receive_expected (config : RecvWindowConfig) (n : UInt32) (count : Nat) (hc : count < 2 ^ 32)
    (highest : Option UInt32) (hh : ∀ h, highest = some h → h ≤ n) (payload : List UInt8) :
    (⟨config, ∅, n, count, highest⟩ : RecvWindowPolicy).receive n payload =
      (⟨config, ∅, n + 1, count + 1, some n⟩, .delivered n [⟨n, payload⟩]) := by
  have hcount : saturatingAdd count 1 = count + 1 := by
    unfold saturatingAdd
    omega
  have hmax : ∀ h, highest = some h → max h n = n := by
    intro h hs
    change (if h ≤ n then n else h) = n
    rw [if_pos (hh h hs)]
  rcases highest with - | h
  · simp [receive, drain, noteAcceptedSequence,
      advance, hcount]
  · simp [receive, drain, noteAcceptedSequence,
      advance, hcount, hmax h rfl]

theorem ackView_inOrder (config : RecvWindowConfig) {n : UInt32} (h : n + 1 ≠ 0) (count : Nat) :
    (⟨config, ∅, n + 1, count, some n⟩ : RecvWindowPolicy).ackView = (n, []) := by
  have hlt : n < n + 1 := by
    rw [UInt32.lt_iff_toNat_lt, Counter.toNat_succ h]
    omega
  simp [ackView, hlt, h]

theorem Step.enqueue (payload : List UInt8) (now : Nat) {sequence : UInt32}
    {sender : SendWindowPolicy} (h : s.sender.enqueue payload.length now = .ok (sequence, sender)) :
    s.Step { s with sender, packets := s.packets ++ [(sequence, payload)] } :=
  ⟨.enqueue payload now, by simp [step, h]⟩

theorem Step.deliver (packet : UInt32 × List UInt8) (hp : packet ∈ s.packets) : s.Step { s with
      receiver := (s.receiver.receive packet.1 packet.2).1
      delivered := s.delivered ++ (s.receiver.receive packet.1 packet.2).2.sequences } :=
  ⟨.deliver packet, by simp [step, hp]⟩

theorem Step.emitAck (s : StreamLink) : s.Step { s with views := s.views ++ [s.receiver.ackView] } :=
  ⟨.emitAck, rfl⟩

theorem Step.acknowledge (view : UInt32 × List UInt32) (hv : view ∈ s.views) : s.Step { s with
      sender := (s.sender.acknowledge view.1 view.2).1
      cleared := s.cleared ++ s.sender.unacked.keys.filter
        fun q => !(s.sender.acknowledge view.1 view.2).1.unacked.contains q } :=
  ⟨.acknowledge view, by simp [step, hv]⟩

theorem InOrder.step {n : UInt32} (h : InOrder n s) (hn : n.toNat + 2 < 2 ^ 32) : ∃ s', InOrder (n + 1) s' := by
  have h1 : n + 1 ≠ 0 := fun h0 => by
    have := Counter.toNat_of_succ_eq_zero h0
    omega
  have h1nat := Counter.toNat_succ h1
  have h2 : n + 1 + 1 ≠ 0 := fun h0 => by
    have := Counter.toNat_of_succ_eq_zero h0
    omega
  have hle : n ≤ n + 1 := UInt32.le_iff_toNat_le.mpr (by omega)
  obtain ⟨sender, receiver, packets, views, delivered, cleared⟩ := s
  obtain ⟨hreach, rfl, rfl, hdel, -⟩ := h
  dsimp only at hdel
  have hrecv := receive_expected (.fromConfig .balanced) (n + 1) n.toNat (by omega)
    (if n = 0 then none else some n) (by grind) [0]
  have hsent := hreach.tail (Step.enqueue [0] 0 (enqueue_empty (n + 1) n))
  have harrived := hsent.tail (Step.deliver (n + 1, [0]) (by simp))
  simp only [hrecv, RecvWindowDecision.sequences, List.map] at harrived
  have hviewed := harrived.tail (Step.emitAck _)
  simp only [ackView_inOrder _ h2] at hviewed
  have hcleared := hviewed.tail (Step.acknowledge (n + 1, []) (by simp))
  refine ⟨_, hcleared, ?_, ?_, ?_, ?_⟩
  · exact acknowledge_single _ (n + 1) n _ ⟨n + 1, 1, 0, 0⟩ hle
  · simp [h1, h1nat]
  · simp [hdel, Ne.symm h1]
  · simp

theorem exists_inOrder (n : Nat) (hn : n + 1 < 2 ^ 32) : ∃ s, InOrder (UInt32.ofNat n) s := by
  induction n with
  | zero => exact ⟨_, inOrder_new⟩
  | succ n ih =>
    obtain ⟨s, hs⟩ := ih (by omega)
    have hnat : (UInt32.ofNat n).toNat = n := UInt32.toNat_ofNat_of_lt (show n < 4294967296 by omega)
    obtain ⟨s', hs'⟩ := hs.step (by omega)
    exact ⟨s', by simpa [UInt32.ofNat_add] using hs'⟩

/-- After `2 ^ 32 - 1` packets the counter wraps, and an old view then clears the packet that got
sequence zero, which no receiver has seen. -/
theorem wrapped_sequence_cleared :
    ∃ s, Relation.ReflTransGen Step (new (.fromConfig .balanced) (.fromConfig .balanced)) s ∧
      (0 : UInt32) ∈ s.cleared ∧ ¬ s.Accepted 0 := by
  obtain ⟨s, hs⟩ := exists_inOrder (2 ^ 32 - 2) (by norm_num)
  have hs : InOrder 4294967294 s := hs
  obtain ⟨sender, receiver, packets, views, delivered, cleared⟩ := s
  obtain ⟨hreach, rfl, rfl, hdel, hview⟩ := hs
  have hlast := hreach.tail (Step.enqueue [0] 0 (enqueue_empty _ _))
  have hwrapped := hlast.tail (Step.enqueue [0] 0 rfl)
  have hcleared := hwrapped.tail (Step.acknowledge (4294967294, []) (hview (by decide)))
  dsimp only at hcleared
  refine ⟨_, hcleared, List.mem_append_right _ (by decide), ?_⟩
  rintro (h | h)
  · exact hdel h
  · exact absurd h (by simp)

end StreamLink

end I2pr

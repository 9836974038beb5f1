import I2pr.Ssu2Exchange

namespace I2pr.Ssu2

open Ssu2Session OrderState
open List hiding next

variable (messages : List OutboundMessage)

def unsentFragments : List RetransmittableFragment :=
  messages.flatMap fun message => message.fragments.map message.retransmittable

def firstFragments : List RetransmittableFragment :=
  messages.filterMap fun message => message.fragments.head?.map message.retransmittable

theorem blocksLen_append (xs ys : List Block) : blocksLen (xs ++ ys) = blocksLen xs + blocksLen ys := by
  simp [blocksLen]

theorem blocksLen_sublist {xs ys : List Block} (h : xs.Sublist ys) : blocksLen xs ≤ blocksLen ys :=
  (h.map Block.encodedLen).sum_le_sum fun _ _ => Nat.zero_le _

/-- What was taken is counted, and fits. -/
def Taken.Counted {Q : Type} (budget used : Nat) (t : Taken Q) : Prop :=
  t.used = used + blocksLen (t.carried.map RetransmittableFragment.toBlock) ∧ t.used ≤ budget

section Taking

variable {budget used : Nat}

theorem takeRetransmits_spec (queue : List RetransmittableFragment) (hused : used ≤ budget) :
    (takeRetransmits budget used queue).carried ++ (takeRetransmits budget used queue).queue = queue ∧
      (takeRetransmits budget used queue).Counted budget used := by
  induction queue generalizing used with
  | nil => exact ⟨rfl, rfl, hused⟩
  | cons fragment rest ih =>
    unfold takeRetransmits
    split
    next hfits =>
      obtain ⟨hqueue, hlen, hle⟩ := ih hfits.2
      refine ⟨congrArg (fragment :: ·) hqueue, ?_, hle⟩
      rw [hlen, map_cons, blocksLen, blocksLen, map_cons, sum_cons]
      omega
    · exact ⟨rfl, rfl, hused⟩

theorem takeFragment_spec (message : OutboundMessage) (hused : used ≤ budget) :
    (message.fragments.map message.retransmittable).Perm ((takeFragment budget used message).carried ++
        (takeFragment budget used message).queue.fragments.map (takeFragment budget used message).queue.retransmittable) ∧
      (takeFragment budget used message).carried.Sublist (message.fragments.head?.map message.retransmittable).toList ∧
      (takeFragment budget used message).Counted budget used := by
  unfold takeFragment
  split
  next hnil => simp [hnil, hused, Taken.Counted, blocksLen]
  next fragment fragments hcons =>
    simp only
    split
    next hfits =>
      rw [hcons]
      exact ⟨.refl _, .refl _, by simp [blocksLen], hfits.2⟩
    · simp [hused, Taken.Counted, blocksLen]

theorem takeOutbound_spec (messages : List OutboundMessage) (hused : used ≤ budget) :
    (unsentFragments messages).Perm ((takeOutbound budget used messages).carried ++
        unsentFragments (takeOutbound budget used messages).queue) ∧
      (takeOutbound budget used messages).carried.Sublist (firstFragments messages) ∧
      (takeOutbound budget used messages).Counted budget used := by
  induction messages generalizing used with
  | nil => simp [takeOutbound, unsentFragments, firstFragments, Taken.Counted, blocksLen, hused]
  | cons message rest ih =>
    obtain ⟨hperm, hsub, hlen, hle⟩ := takeFragment_spec message hused
    have hfirst : firstFragments (message :: rest) =
        (message.fragments.head?.map message.retransmittable).toList ++ firstFragments rest := by
      rw [firstFragments, filterMap_cons]
      cases message.fragments.head?.map message.retransmittable <;> rfl
    unfold takeOutbound
    simp only
    rw [hfirst]
    split
    · refine ⟨?_, hsub.trans (sublist_append_left ..), hlen, hle⟩
      simpa [unsentFragments, ← append_assoc] using hperm.append_right _
    · obtain ⟨hperm', hsub', hlen', hle'⟩ := ih hle
      refine ⟨?_, hsub.append hsub', ?_, hle'⟩
      · simp only [unsentFragments, flatMap_cons] at hperm' ⊢
        refine (hperm.append hperm').trans ?_
        simp only [append_assoc]
        refine List.Perm.append_left _ ?_
        rw [← append_assoc, ← append_assoc]
        exact List.Perm.append_right _ perm_append_comm
      · dsimp only
        rw [hlen', hlen, map_append, blocksLen_append]
        omega

theorem takeOutbound_nothing {messages : List OutboundMessage}
    (h : (takeOutbound budget used messages).carried = []) : (takeOutbound budget used messages).queue = messages := by
  have hone (message : OutboundMessage) (hnil : (takeFragment budget used message).carried = []) :
      (takeFragment budget used message).queue = message ∧ (takeFragment budget used message).used = used := by
    unfold takeFragment at hnil ⊢
    split at hnil
    · simp
    simp only at hnil
    split at hnil
    · cases hnil
    next hfull => simp only [if_neg hfull, and_self]
  induction messages with
  | nil => rfl
  | cons message rest ih =>
    unfold takeOutbound at h ⊢
    simp only at h ⊢
    split at h
    next hfull => rw [if_pos hfull, (hone message h).1]
    next hroom =>
      obtain ⟨hfirst, hrest⟩ := append_eq_nil_iff.mp h
      obtain ⟨hqueue, hused⟩ := hone message hfirst
      rw [hused] at hrest hroom
      rw [hused, if_neg hroom, hqueue, ih hrest]

end Taking

theorem unsentFragments_markInFlight (messageId : UInt32) :
    unsentFragments (markInFlight messages messageId) = unsentFragments messages := by
  induction messages with
  | nil => rfl
  | cons message rest ih =>
    unfold markInFlight
    split
    · rfl
    · exact congrArg (_ ++ ·) ih

theorem unsentFragments_foldl_markInFlight (ids : List UInt32) (messages : List OutboundMessage) :
    unsentFragments (ids.foldl markInFlight messages) = unsentFragments messages := by
  induction ids generalizing messages with
  | nil => rfl
  | cons id ids ih => rw [foldl_cons, ih, unsentFragments_markInFlight]

namespace Ssu2Session

/-- The blocks a packet without size limit would carry. -/
def waiting (s : Ssu2Session) : List Block :=
  s.planAck ++ ((s.queuedControls.head?.map QueuedControl.toBlock).toList ++
    (s.send.pendingRetransmit ++ firstFragments s.send.outbound).map RetransmittableFragment.toBlock)

theorem blocksLen_planAck (s : Ssu2Session) : blocksLen s.planAck ≤ s.maxPayloadBytes := by
  unfold planAck
  split
  next ack _ =>
    split
    next hfits => simpa [blocksLen] using hfits
    · simp [blocksLen]
  · simp [blocksLen]

theorem planControl_spec (controls : List QueuedControl) {budget used : Nat} (hused : used ≤ budget) :
    ∃ taken, controls = taken ++ (planControl budget used controls).2 ∧
      (planControl budget used controls).1 = taken.map QueuedControl.toBlock ∧
      taken.Sublist controls.head?.toList ∧
      used + blocksLen (planControl budget used controls).1 ≤ budget ∧
      ∀ control rest, controls = control :: rest → used + control.toBlock.encodedLen ≤ budget → taken = [control] := by
  cases controls with
  | nil => exact ⟨[], rfl, rfl, List.Sublist.refl _, by simpa [planControl, blocksLen] using hused, by simp⟩
  | cons control rest =>
    by_cases hfits : used + control.toBlock.encodedLen ≤ budget
    · rw [planControl, if_pos hfits]
      refine ⟨[control], rfl, rfl, List.Sublist.refl _, by simpa [blocksLen] using hfits, ?_⟩
      rintro _ _ ⟨⟩ -
      rfl
    · rw [planControl, if_neg hfits]
      refine ⟨[], rfl, rfl, nil_sublist _, by simpa [blocksLen] using hused, ?_⟩
      rintro _ _ ⟨⟩ hfits'
      exact absurd hfits' hfits

/-- What `poll_transmit` takes out of its queues for one packet. -/
structure Planned (s : Ssu2Session) (controls : List QueuedControl) (retransmitted fresh : List RetransmittableFragment) :
    Prop where
  controls_eq : s.queuedControls = controls ++ s.plan.session.queuedControls
  pending_eq : s.send.pendingRetransmit = retransmitted ++ s.plan.session.send.pendingRetransmit
  unsent_perm : (unsentFragments s.send.outbound).Perm (fresh ++ unsentFragments s.plan.session.send.outbound)
  unsent_nil : fresh = [] → s.plan.session.send.outbound = s.send.outbound
  carried_eq : s.plan.carried = retransmitted ++ fresh
  blocks_eq : s.plan.blocks =
    s.planAck ++ (controls.map QueuedControl.toBlock ++ (retransmitted ++ fresh).map RetransmittableFragment.toBlock)
  blocks_len : blocksLen s.plan.blocks ≤ s.maxPayloadBytes
  blocks_waiting : s.plan.blocks.Sublist s.waiting
  fragments_waiting : (retransmitted ++ fresh).Sublist (s.send.pendingRetransmit ++ firstFragments s.send.outbound)
  front : ∀ control rest, s.queuedControls = control :: rest →
    blocksLen s.planAck + control.toBlock.encodedLen ≤ s.maxPayloadBytes → controls = [control]
  controls_head : controls.Sublist s.queuedControls.head?.toList

theorem plan_planned (s : Ssu2Session) : ∃ controls retransmitted fresh, s.Planned controls retransmitted fresh := by
  have hack := s.blocksLen_planAck
  obtain ⟨controls, hcontrols, hblocks, hhead, hfit, hfront⟩ := planControl_spec s.queuedControls hack
  obtain ⟨hqueue, hrlen, hrfit⟩ := takeRetransmits_spec s.send.pendingRetransmit hfit
  obtain ⟨hperm, hsub, hflen, hffit⟩ := takeOutbound_spec s.send.outbound hrfit
  have hcarried : s.plan.carried = s.planRetransmits.carried ++ s.planFresh.carried := rfl
  have htaken : s.plan.carried.Sublist (s.send.pendingRetransmit ++ firstFragments s.send.outbound) := by
    refine List.Sublist.append ?_ hsub
    conv_rhs => rw [← hqueue]
    exact sublist_append_left ..
  have hall : s.plan.blocks = s.planAck ++ (controls.map QueuedControl.toBlock ++
      s.plan.carried.map RetransmittableFragment.toBlock) := by
    rw [← hblocks]
    rfl
  refine ⟨controls, s.planRetransmits.carried, s.planFresh.carried,
    ⟨hcontrols, hqueue.symm, ?_, ?_, hcarried, hall, ?_, ?_, htaken, hfront, hhead⟩⟩
  · change (unsentFragments _).Perm (_ ++ unsentFragments (foldl markInFlight _ _))
    rw [unsentFragments_foldl_markInFlight]
    exact hperm
  · intro hnil
    change foldl markInFlight _ _ = _
    rw [hnil]
    exact takeOutbound_nothing hnil
  · refine le_of_eq_of_le ?_ hffit
    change _ = s.planFresh.used
    change s.planFresh.used = s.planRetransmits.used + blocksLen (s.planFresh.carried.map _) at hflen
    change s.planRetransmits.used = _ + blocksLen (s.planRetransmits.carried.map _) at hrlen
    rw [hall, hcarried, map_append, blocksLen_append, blocksLen_append, blocksLen_append, hflen, hrlen, hblocks]
    omega
  · have hcontrol : (s.queuedControls.head?.map QueuedControl.toBlock).toList =
        s.queuedControls.head?.toList.map QueuedControl.toBlock := by
      cases s.queuedControls.head? <;> rfl
    rw [hall, waiting, hcontrol]
    exact (List.Sublist.refl _).append ((hhead.map _).append (htaken.map _))

end Ssu2Session

theorem order_ok {blocks : List Block} (h : ∀ b ∈ blocks, b.kind ≠ 254 ∧ b.kind ≠ 6) :
    blocks.foldlM (fun st b => next st b.kind) {} = .ok {} := by
  induction blocks with
  | nil => rfl
  | cons b blocks ih =>
    obtain ⟨hpadding, htermination⟩ := h b (mem_cons_self ..)
    have hnext : next {} b.kind = .ok {} := by simp [next, hpadding, htermination]
    rw [foldlM_cons, hnext]
    exact ih fun other hother => h other (mem_cons_of_mem _ hother)

theorem order_ok_last {blocks : List Block} (h : ∀ b ∈ blocks, b.kind ≠ 254 ∧ b.kind ≠ 6) (last : Block) :
    ∃ st, (blocks ++ [last]).foldlM (fun st b => next st b.kind) {} = .ok st := by
  rw [foldlM_append, order_ok h]
  obtain ⟨st, hst⟩ : ∃ st, next {} last.kind = .ok st := by
    unfold next
    simp only [Bool.false_eq_true, if_false]
    split
    · exact ⟨_, rfl⟩
    · split <;> exact ⟨_, rfl⟩
  exact ⟨st, by simp [bind, Except.bind, hst, pure, Except.pure]⟩

variable (f : RetransmittableFragment)

theorem RetransmittableFragment.toBlock_cases :
    (∃ b, f.toBlock = .i2np b) ∨ (∃ b, f.toBlock = .firstFragment b) ∨ ∃ b, f.toBlock = .followOnFragment b := by
  unfold toBlock
  split
  · exact Or.inl ⟨_, rfl⟩
  split
  · exact Or.inr (Or.inl ⟨_, rfl⟩)
  · exact Or.inr (Or.inr ⟨_, rfl⟩)

theorem RetransmittableFragment.toBlock_kind : f.toBlock.kind ≠ 254 ∧ f.toBlock.kind ≠ 6 := by
  rcases f.toBlock_cases with ⟨b, h⟩ | ⟨b, h⟩ | ⟨b, h⟩ <;> simp [h, Block.kind]

theorem RetransmittableFragment.toBlock_encodedLen : 8 + f.bytes.length ≤ f.toBlock.encodedLen := by
  unfold toBlock
  split
  · simp only [Block.encodedLen, Block.payloadLen, length_encodeMessage, blockHeaderLength, shortTransportHeaderSize]
    omega
  · split
    all_goals
      simp only [Block.encodedLen, Block.payloadLen, blockHeaderLength]
      omega

theorem QueuedControl.toBlock_kind (control : QueuedControl) : control.toBlock.kind ≠ 254 ∧
    (control.toBlock.kind = 6 → ∃ valid reason, control = .termination valid reason) := by
  cases control <;> simp [toBlock, Block.kind]

namespace Ssu2Session

/-- What must hold of the queues for the next packet to be encoded and recorded without loss. -/
structure Sendable (s : Ssu2Session) : Prop where
  /-- The blocks of a packet do not exceed what `encode_blocks` accepts. -/
  size : s.maxPayloadBytes ≤ Ssu2.maxPayloadBytes ∨ blocksLen s.waiting ≤ Ssu2.maxPayloadBytes
  /-- Nor does their number, since there are few or none of the fragments is tiny. -/
  count : s.waiting.length ≤ maxBlockCount ∨
    ∀ f ∈ s.send.pendingRetransmit ++ firstFragments s.send.outbound, 15 ≤ f.bytes.length
  /-- A termination, after which no other block may stand, waits alone. -/
  terminationAlone : ∀ valid reason rest, s.queuedControls = .termination valid reason :: rest →
    s.send.pendingRetransmit = [] ∧ firstFragments s.send.outbound = []
  /-- If the history is full, the fragments of its oldest packet can still be retransmitted. -/
  evictable : ∀ oldest rest, s.send.sent = oldest :: rest → dataMaxSentPackets ≤ s.send.sent.length →
    (∀ f ∈ oldest.fragments, f.generation < dataMaxFragmentRetransmissions) ∧
      s.send.pendingRetransmit.length + oldest.fragments.length ≤ dataMaxPendingRetransmitFragments

theorem planAck_eq (s : Ssu2Session) : ∃ acks : List AckBlock, acks.length ≤ 1 ∧ s.planAck = acks.map Block.ack := by
  unfold planAck
  split
  next ack _ =>
    split
    · exact ⟨[ack], le_rfl, rfl⟩
    · exact ⟨[], Nat.zero_le _, rfl⟩
  · exact ⟨[], Nat.zero_le _, rfl⟩

section Encodes

variable {s : Ssu2Session} {controls : List QueuedControl} {retransmitted fresh : List RetransmittableFragment}

variable (hplan : s.Planned controls retransmitted fresh)
include hplan

theorem Planned.controls_length : controls.length ≤ 1 := by
  refine hplan.controls_head.length_le.trans ?_
  cases s.queuedControls.head? <;> simp

theorem Planned.mem_blocks {b : Block} (hb : b ∈ s.plan.blocks) :
    (∃ ack, b = .ack ack) ∨ (∃ control ∈ controls, b = control.toBlock) ∨ ∃ f : RetransmittableFragment, b = f.toBlock := by
  obtain ⟨acks, -, hackBlocks⟩ := s.planAck_eq
  rw [hplan.blocks_eq, hackBlocks] at hb
  simp only [mem_append, mem_map] at hb
  rcases hb with ⟨ack, -, rfl⟩ | ⟨control, hcontrol, rfl⟩ | ⟨f, -, rfl⟩
  · exact .inl ⟨ack, rfl⟩
  · exact .inr (.inl ⟨control, hcontrol, rfl⟩)
  · exact .inr (.inr ⟨f, rfl⟩)

theorem Planned.length_payload {b : Block} (hb : b ∈ s.plan.blocks) : b.payload.length = b.payloadLen := by
  refine Block.length_payload fun t ht => ?_
  rcases hplan.mem_blocks hb with ⟨ack, rfl⟩ | ⟨control, -, rfl⟩ | ⟨f, rfl⟩
  · cases ht
  · cases control <;> simp [QueuedControl.toBlock] at ht
    rw [← ht]
  · rcases f.toBlock_cases with ⟨b, h⟩ | ⟨b, h⟩ | ⟨b, h⟩ <;> simp [h] at ht

variable (h : s.Sendable)
include h

theorem Sendable.size_le : blocksLen s.plan.blocks ≤ Ssu2.maxPayloadBytes := by
  rcases h.size with hbudget | hwaiting
  · exact hplan.blocks_len.trans hbudget
  · exact (blocksLen_sublist hplan.blocks_waiting).trans hwaiting

theorem Sendable.count_le : s.plan.blocks.length ≤ maxBlockCount := by
  rcases h.count with hfew | hbig
  · exact hplan.blocks_waiting.length_le.trans hfew
  · -- every fragment takes 23 bytes at least, so at most 61 of them fit
    obtain ⟨acks, hacks, hackBlocks⟩ := s.planAck_eq
    have hsize := h.size_le hplan
    have hcontrols := hplan.controls_length
    have heach : ∀ n ∈ ((retransmitted ++ fresh).map RetransmittableFragment.toBlock).map Block.encodedLen, 23 ≤ n := by
      intro n hn
      rw [map_map, mem_map] at hn
      obtain ⟨f, hf, rfl⟩ := hn
      have := hbig f (hplan.fragments_waiting.subset hf)
      exact (show 23 ≤ 8 + f.bytes.length by omega).trans f.toBlock_encodedLen
    have hmany := card_nsmul_le_sum _ _ heach
    have hpart : (((retransmitted ++ fresh).map RetransmittableFragment.toBlock).map Block.encodedLen).sum ≤
        blocksLen s.plan.blocks := by
      rw [hplan.blocks_eq, blocksLen_append, blocksLen_append]
      exact (Nat.le_add_left ..).trans (Nat.le_add_left ..)
    simp only [length_map, smul_eq_mul] at hmany
    have hlength : s.plan.blocks.length = acks.length + (controls.length + (retransmitted ++ fresh).length) := by
      rw [hplan.blocks_eq, hackBlocks]
      simp only [length_append, length_map]
    rw [hlength, maxBlockCount]
    have hmax : Ssu2.maxPayloadBytes = 1412 := rfl
    omega

theorem Sendable.order : ∃ st, s.plan.blocks.foldlM (fun st b => next st b.kind) {} = .ok st := by
  by_cases htermination : ∃ valid reason, QueuedControl.termination valid reason ∈ controls
  · obtain ⟨valid, reason, hmem⟩ := htermination
    have hcontrols : controls = [.termination valid reason] := by
      obtain ⟨front, back, rfl⟩ := append_of_mem hmem
      have := hplan.controls_length
      simp only [length_append, length_cons] at this
      rw [eq_nil_of_length_eq_zero (show front.length = 0 by omega),
        eq_nil_of_length_eq_zero (show back.length = 0 by omega)]
      rfl
    obtain ⟨hpending, hfirst⟩ := h.terminationAlone valid reason _ (hcontrols ▸ hplan.controls_eq)
    have hnone := hplan.fragments_waiting
    rw [hpending, hfirst, append_nil, sublist_nil] at hnone
    obtain ⟨acks, -, hackBlocks⟩ := s.planAck_eq
    rw [hplan.blocks_eq, hackBlocks, hcontrols, hnone]
    exact order_ok_last (by simp [Block.kind]) _
  · refine ⟨_, order_ok fun b hb => ?_⟩
    rcases hplan.mem_blocks hb with ⟨ack, rfl⟩ | ⟨control, hcontrol, rfl⟩ | ⟨f, rfl⟩
    · simp [Block.kind]
    · refine ⟨control.toBlock_kind.1, fun h6 => htermination ?_⟩
      obtain ⟨valid, reason, rfl⟩ := control.toBlock_kind.2 h6
      exact ⟨valid, reason, hcontrol⟩
    · exact f.toBlock_kind

theorem Sendable.encodes :
    ∃ encoded, encodeBlocks s.plan.blocks = .ok encoded ∧ encoded.length = blocksLen s.plan.blocks := by
  have hsize := h.size_le hplan
  have hlengths : ∀ b ∈ s.plan.blocks, b.payload.length = b.payloadLen := fun _ => hplan.length_payload
  have hwire : (s.plan.blocks.flatMap Block.wire).length = blocksLen s.plan.blocks := by
    rw [length_flatMap, blocksLen]
    congr 1
    exact map_congr_left fun b hb => Block.length_wire (hlengths b hb)
  refine ⟨s.plan.blocks.flatMap Block.wire, ?_, hwire⟩
  rw [encodeBlocks, if_neg (not_lt.mpr (h.count_le hplan)), encodeFrom_eq_ok hlengths]
  exact ⟨rfl, h.order hplan, fun _ => by simpa [blocksLen] using hsize⟩

end Encodes

end Ssu2Session

theorem SendState.requeueAll_room {fragments : List RetransmittableFragment} {st : SendState}
    (hgeneration : ∀ f ∈ fragments, f.generation < dataMaxFragmentRetransmissions)
    (hroom : st.pendingRetransmit.length + fragments.length ≤ dataMaxPendingRetransmitFragments) :
    (st.requeueAll fragments).1 = { st with
      pendingRetransmit := st.pendingRetransmit ++ fragments.map RetransmittableFragment.nextGeneration } := by
  induction fragments generalizing st with
  | nil => simp [requeueAll]
  | cons fragment fragments ih =>
    rw [length_cons] at hroom
    have hretransmits : st.retransmits fragment = true := by
      have := hgeneration fragment (mem_cons_self ..)
      simp only [retransmits, this, Bool.and_eq_true, decide_eq_true_eq, true_and]
      omega
    rw [requeueAll, requeue, if_pos hretransmits]
    simp only
    rw [ih (fun f hf => hgeneration f (mem_cons_of_mem _ hf)) (by simp; omega)]
    simp

namespace Ssu2Session

theorem evictOldest_keeps {s : Ssu2Session} (h : ∀ oldest rest, s.send.sent = oldest :: rest →
      dataMaxSentPackets ≤ s.send.sent.length →
        (∀ f ∈ oldest.fragments, f.generation < dataMaxFragmentRetransmissions) ∧
          s.send.pendingRetransmit.length + oldest.fragments.length ≤ dataMaxPendingRetransmitFragments) :
    s.evictOldest.send.outbound = s.send.outbound ∧
      ∃ requeued, s.evictOldest.send.pendingRetransmit = s.send.pendingRetransmit ++ requeued := by
  unfold evictOldest
  split
  next hfull =>
    split
    · exact ⟨rfl, [], by simp⟩
    next oldest rest hsent =>
      obtain ⟨hgeneration, hroom⟩ := h oldest rest hsent hfull
      simp only [declareLost, SendState.declareLost, SendState.shrinkCwnd]
      rw [SendState.requeueAll_room hgeneration (by split <;> exact hroom)]
      split <;> exact ⟨rfl, _, rfl⟩
  · exact ⟨rfl, [], by simp⟩

/-- The packet carries what left the queues: `requeued` is what loss put back. -/
structure Carries (s t : Ssu2Session) (packet : SealedPacket) : Prop where
  encoded : ∃ encoded, encodeBlocks packet.blocks = .ok encoded ∧ packet.plaintext = padPlaintext encoded
  moved : ∃ (acks : List AckBlock) (controls : List QueuedControl)
    (retransmitted fresh kept requeued : List RetransmittableFragment),
    s.queuedControls = controls ++ t.queuedControls ∧
    s.send.pendingRetransmit = retransmitted ++ kept ∧ t.send.pendingRetransmit = kept ++ requeued ∧
    (unsentFragments s.send.outbound).Perm (fresh ++ unsentFragments t.send.outbound) ∧
    packet.blocks = acks.map Block.ack ++ (controls.map QueuedControl.toBlock ++
      (retransmitted ++ fresh).map RetransmittableFragment.toBlock)

/-- A call of `poll_transmit` that loses no queued work. -/
structure KeepsWork (s t : Ssu2Session) (r : PollResult) : Prop where
  unchanged : r.datagram = none → t.queuedControls = s.queuedControls ∧
    t.send.pendingRetransmit = s.send.pendingRetransmit ∧ t.send.outbound = s.send.outbound
  carried : ∀ packet datagram, r.sealedPacket = some packet → packet.datagram = some datagram → s.Carries t packet
  termination : ∀ valid reason rest, s.queuedControls = .termination valid reason :: rest →
    s.numbers.sendExhausted = false → s.send.bytesInFlight < s.send.cwndBytes →
    blocksLen s.planAck + (QueuedControl.termination valid reason).toBlock.encodedLen ≤ s.maxPayloadBytes →
    ∃ packet, r.sealedPacket = some packet ∧ packet.datagram.isSome = true ∧
      (QueuedControl.termination valid reason).toBlock ∈ packet.blocks

theorem length_padPlaintext (plaintext : List UInt8) : minHandshakePayloadBytes ≤ (padPlaintext plaintext).length ∧
    (padPlaintext plaintext).length ≤ max plaintext.length 11 := by
  unfold padPlaintext minHandshakePayloadBytes
  split
  next hshort =>
    rw [length_append, Block.length_wire (Block.length_payload (by simp))]
    simp only [Block.encodedLen, Block.payloadLen, blockHeaderLength, length_replicate]
    omega
  next hlong => omega

variable (s : Ssu2Session)

theorem noteSent_eq (nowMs : Nat) (datagram : Option (List UInt8)) :
    (s.noteSent nowMs datagram).queuedControls = s.queuedControls ∧ (s.noteSent nowMs datagram).send = s.send := by
  unfold noteSent
  split <;> exact ⟨rfl, rfl⟩

theorem recordSent_queues (nowMs ackElicitingBytes : Nat) (ackOnly : Bool) (fragments : List RetransmittableFragment) :
    (s.recordSent nowMs ackElicitingBytes ackOnly fragments).1.queuedControls = s.queuedControls ∧
      (s.recordSent nowMs ackElicitingBytes ackOnly fragments).1.send.pendingRetransmit =
        s.evictOldest.send.pendingRetransmit ∧
      (s.recordSent nowMs ackElicitingBytes ackOnly fragments).1.send.outbound = s.evictOldest.send.outbound := by
  obtain ⟨_, _, hevict⟩ := s.evictOldest_sendOnly
  have hcontrols : s.evictOldest.queuedControls = s.queuedControls := by rw [hevict]
  unfold recordSent
  simp only
  split <;> exact ⟨hcontrols, rfl, rfl⟩

theorem clearAckState_frame (b : Bool) : (if b then s.clearAckState else s).queuedControls = s.queuedControls ∧
    (if b then s.clearAckState else s).send = s.send ∧
    (if b then s.clearAckState else s).evictOldest.send = s.evictOldest.send := by
  cases b
  · exact ⟨rfl, rfl, rfl⟩
  · refine ⟨rfl, rfl, ?_⟩
    simp only [if_true]
    unfold evictOldest clearAckState
    split
    · simp only; split <;> rfl
    · rfl

theorem recordSealed_queues (p : Plan) (nowMs : Nat) (packet : SealedPacket)
    (h : s.evictOldest.send.outbound = s.send.outbound ∧
      ∃ requeued, s.evictOldest.send.pendingRetransmit = s.send.pendingRetransmit ++ requeued) :
    (s.recordSealed p nowMs packet).1.queuedControls = s.queuedControls ∧
      (s.recordSealed p nowMs packet).1.send.outbound = s.send.outbound ∧
      (∃ requeued, (s.recordSealed p nowMs packet).1.send.pendingRetransmit = s.send.pendingRetransmit ++ requeued) ∧
      (s.recordSealed p nowMs packet).2.sealedPacket = some packet := by
  obtain ⟨houtbound, requeued, hpending⟩ := h
  obtain ⟨hc, hs, he⟩ := s.clearAckState_frame (p.blocks.any fun block => block.kind = 12)
  unfold recordSealed
  simp only
  split
  · exact ⟨rfl, rfl, ⟨[], by simp⟩, rfl⟩
  split
  · obtain ⟨hq, hp, ho⟩ := recordSent_queues
      (if p.blocks.any fun block => block.kind = 12 then s.clearAckState else s) nowMs _ _ p.carried
    exact ⟨hq.trans hc, ho.trans (he ▸ houtbound), ⟨requeued, hp.trans (he ▸ hpending)⟩, rfl⟩
  · exact ⟨hc, by rw [hs], ⟨[], by rw [hs]; simp⟩, rfl⟩

theorem transmitAckOnly_queues {s : Ssu2Session} (c : DataCrypto) (nowMs : Nat)
    (hopen : s.numbers.sendExhausted = false) :
    (s.transmitAckOnly c nowMs).1.queuedControls = s.queuedControls ∧ (s.transmitAckOnly c nowMs).1.send = s.send ∧
      ∀ packet, (s.transmitAckOnly c nowMs).2.sealedPacket = some packet → ∃ ack encoded,
        packet.blocks = [.ack ack] ∧ encodeBlocks packet.blocks = .ok encoded ∧
          packet.plaintext = padPlaintext encoded := by
  unfold transmitAckOnly
  simp only [clearAckState_frame]
  rcases sealPacket_ack c nowMs hopen with ⟨-, heq⟩ | ⟨ack, -, heq⟩
  · rw [heq]
    exact ⟨rfl, rfl, by simp⟩
  · rw [heq]
    rcases sealBlocks_cases ({ s with numbers := s.numbers.allocate.1 } : Ssu2Session).countAckSent c nowMs
      s.numbers.nextSend [.ack ack] with ⟨hseal, -⟩ | ⟨encoded, hencoded, -, hseal⟩
    · rw [hseal]
      exact ⟨rfl, rfl, by simp⟩
    · rw [hseal]
      simp only [noteSent_eq]
      refine ⟨rfl, rfl, ?_⟩
      rintro packet ⟨⟩
      exact ⟨ack, encoded, rfl, hencoded, rfl⟩

def allocated : Ssu2Session :=
  { s with numbers := s.numbers.allocate.1 }

theorem Sendable.transmitPlan_eq {s : Ssu2Session} (h : s.Sendable) (c : DataCrypto) (nowMs : Nat)
    (hopen : s.numbers.sendExhausted = false) (hne : s.plan.blocks ≠ []) :
    ∃ encoded datagram, encodeBlocks s.plan.blocks = .ok encoded ∧ transmitPlan s.plan c nowMs =
      (s.plan.session.allocated.noteSent nowMs (some datagram)).recordSealed s.plan nowMs
        ⟨s.numbers.nextSend, s.plan.blocks, padPlaintext encoded, some datagram⟩ := by
  obtain ⟨controls, retransmitted, fresh, hplan⟩ := s.plan_planned
  obtain ⟨encoded, hencoded, hlength⟩ := h.encodes hplan
  have hsize := h.size_le hplan
  have hfits := hplan.blocks_len
  obtain ⟨_, _, _, _, _, _, hframe⟩ := s.plan_transmitOnly
  have hbudget : s.plan.session.allocated.maxPayloadBytes = s.maxPayloadBytes := by rw [allocated, hframe]
  obtain ⟨hmin, hmax⟩ := length_padPlaintext encoded
  have hconst : Ssu2.maxPayloadBytes = 1412 ∧ shortHeaderLength = 16 ∧ authTagLength = 16 ∧ maxDatagramIpv4Length = 1472 :=
    ⟨rfl, rfl, rfl, rfl⟩
  obtain ⟨datagram, hdatagram⟩ := s.plan.session.allocated.sealPlaintext_isSome c s.numbers.nextSend hmin (by omega)
  refine ⟨encoded, datagram, hencoded, ?_⟩
  have hopen' : s.plan.session.numbers.sendExhausted = false := by rw [plan_numbers, hopen]
  have hpacket := sealPacket_blocks c nowMs hopen' hne
  rw [plan_numbers] at hpacket
  rcases s.plan.session.allocated.sealBlocks_cases c nowMs s.numbers.nextSend s.plan.blocks with
    ⟨-, hfail⟩ | ⟨other, hother, -, hseal⟩
  · have := hfail encoded hencoded
    omega
  · cases hencoded.symm.trans hother
    rw [hdatagram, allocated, plan_numbers] at hseal
    rw [transmitPlan, if_neg hne, hpacket, hseal, allocated, plan_numbers]

theorem KeepsWork.of_untouched {s t : Ssu2Session} {r : PollResult} (hcontrols : t.queuedControls = s.queuedControls)
    (hsend : t.send = s.send)
    (hsealed : ∀ packet, r.sealedPacket = some packet → ∃ ack encoded, packet.blocks = [.ack ack] ∧
      encodeBlocks packet.blocks = .ok encoded ∧ packet.plaintext = padPlaintext encoded)
    (hidle : s.queuedControls = [] ∨ s.numbers.sendExhausted = true ∨ s.send.cwndBytes ≤ s.send.bytesInFlight) :
    s.KeepsWork t r where
  unchanged _ := ⟨hcontrols, by rw [hsend], by rw [hsend]⟩
  carried packet _ hpacket _ := by
    obtain ⟨ack, encoded, hblocks, hencoded, hplaintext⟩ := hsealed packet hpacket
    refine ⟨⟨encoded, hencoded, hplaintext⟩, [ack], [], [], [], _, [], by rw [hcontrols]; rfl, rfl, ?_, ?_, hblocks⟩
    · rw [hsend, append_nil]
    · rw [hsend]
      exact List.Perm.refl _
  termination valid reason rest hqueue hopen hwindow _ := by
    rcases hidle with hnil | hstop | hclosed
    · simp [hnil] at hqueue
    · simp [hopen] at hstop
    · omega

theorem Sendable.keepsWork_plan {s : Ssu2Session} (h : s.Sendable) (c : DataCrypto) (nowMs : Nat)
    (hopen : s.numbers.sendExhausted = false) :
    s.KeepsWork (transmitPlan s.plan c nowMs).1 (transmitPlan s.plan c nowMs).2 := by
  obtain ⟨controls, retransmitted, fresh, hplan⟩ := s.plan_planned
  obtain ⟨acks, -, hacks⟩ := s.planAck_eq
  by_cases hne : s.plan.blocks = []
  · -- nothing fits or nothing waits, and what was popped goes back
    have hempty := hplan.blocks_eq
    rw [hne] at hempty
    obtain ⟨-, hrest⟩ := append_eq_nil_iff.mp hempty.symm
    obtain ⟨hcontrols, hcarried⟩ := append_eq_nil_iff.mp hrest
    rw [map_eq_nil_iff] at hcontrols hcarried
    obtain ⟨rfl, rfl⟩ := append_eq_nil_iff.mp hcarried
    subst hcontrols
    have hpending : s.plan.session.send.pendingRetransmit = s.send.pendingRetransmit := hplan.pending_eq.symm
    rw [transmitPlan, if_pos hne, hplan.carried_eq]
    refine ⟨fun _ => ⟨hplan.controls_eq.symm, hpending, hplan.unsent_nil rfl⟩, by simp, ?_⟩
    intro valid reason rest hqueue _ _ hfits
    have := hplan.front _ rest hqueue hfits
    cases this
  · obtain ⟨encoded, datagram, hencoded, htransmit⟩ := h.transmitPlan_eq c nowMs hopen hne
    obtain ⟨hcontrols, hsend⟩ := s.plan.session.allocated.noteSent_eq nowMs (some datagram)
    have hroom : s.plan.session.send.pendingRetransmit.length ≤ s.send.pendingRetransmit.length := by
      rw [hplan.pending_eq, length_append]
      omega
    have hevict := evictOldest_keeps (s := s.plan.session.allocated.noteSent nowMs (some datagram)) (by
      rw [hsend]
      intro oldest rest hsent hfull
      obtain ⟨hgeneration, hold⟩ := h.evictable oldest rest hsent hfull
      exact ⟨hgeneration, (Nat.add_le_add_right hroom _).trans hold⟩)
    obtain ⟨hc, ho, ⟨requeued, hp⟩, hpacket⟩ := recordSealed_queues
      (s.plan.session.allocated.noteSent nowMs (some datagram)) s.plan nowMs
      ⟨s.numbers.nextSend, s.plan.blocks, padPlaintext encoded, some datagram⟩ hevict
    rw [hcontrols] at hc
    rw [hsend] at ho hp
    rw [htransmit]
    refine ⟨fun hnone => ?_, ?_, ?_⟩
    · simp [PollResult.datagram, hpacket] at hnone
    · intro packet _ hsealed _
      cases hpacket.symm.trans hsealed
      refine ⟨⟨encoded, hencoded, rfl⟩, acks, controls, retransmitted, fresh, _, requeued, ?_, hplan.pending_eq, hp, ?_, ?_⟩
      · rw [hc]
        exact hplan.controls_eq
      · rw [ho]
        exact hplan.unsent_perm
      · rw [hplan.blocks_eq, hacks]
    · intro valid reason rest hqueue _ _ hfits
      refine ⟨_, hpacket, rfl, ?_⟩
      rw [hplan.blocks_eq, hplan.front _ rest hqueue hfits]
      simp

end Ssu2Session

def tinyMessage : List UInt8 := [1, 0, 0, 0, 7, 0, 0, 0, 9, 42]

def queuedSession : Ssu2Session :=
  runOps .plain (.start (.sample 0) .sample) [.queueI2npMessage tinyMessage]

def terminatingSession : Ssu2Session :=
  runOps .plain (.start (.sample 0) .sample) [.queueI2npMessage tinyMessage, .initiateTermination 1]

end I2pr.Ssu2

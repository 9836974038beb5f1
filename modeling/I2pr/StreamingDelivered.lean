import I2pr.StreamingHistory

namespace I2pr.StreamingManager

open Std ExtTreeMap

variable {D : Type}

def queuedFor (queue : List DeliveredApplicationBytes) (id : ConnectionId) : Nat :=
  ((queue.filter (·.connectionId = id)).map (·.bytes.length)).sum

def pendingDeliveredBytes (m : StreamingManager D) : Nat := (m.pendingDelivered.map (·.bytes.length)).sum

/-- Every counter is the number of the bytes that wait for its connection. -/
def Accurate (m : StreamingManager D) : Prop := ∀ id, m.pendingBytesFor id = queuedFor m.pendingDelivered id

/-- Accurate counters stay so, as long as a `usize` can count the bytes that wait. -/
def Settles (m m' : StreamingManager D) : Prop := m'.pendingDeliveredBytes < 2 ^ 64 → m.Accurate → m'.Accurate

def SameBooks (m m' : StreamingManager D) : Prop :=
  m'.pendingDelivered = m.pendingDelivered ∧ m'.pendingBytesByConnection = m.pendingBytesByConnection

theorem queuedFor_cons (delivered : DeliveredApplicationBytes) (queue : List DeliveredApplicationBytes)
    (id : ConnectionId) :
    queuedFor (delivered :: queue) id =
      (if delivered.connectionId = id then delivered.bytes.length else 0) + queuedFor queue id := by
  unfold queuedFor
  rw [List.filter_cons]
  by_cases heq : delivered.connectionId = id
  · simp [heq]
  · simp [heq]

theorem queuedFor_filter (keep : ConnectionId → Bool) (queue : List DeliveredApplicationBytes) (id : ConnectionId) :
    queuedFor (queue.filter fun delivered => keep delivered.connectionId) id =
      if keep id then queuedFor queue id else 0 := by
  induction queue with
  | nil => simp [queuedFor]
  | cons delivered queue ih =>
    rw [List.filter_cons, queuedFor_cons]
    by_cases heq : delivered.connectionId = id
    · subst heq
      by_cases hkeep : keep delivered.connectionId = true
      · rw [if_pos hkeep, queuedFor_cons, ih, if_pos hkeep, if_pos hkeep]
      · rw [if_neg hkeep, ih, if_neg hkeep, if_neg hkeep]
    · rw [if_neg heq, Nat.zero_add, ← ih]
      split
      · rw [queuedFor_cons, if_neg heq, Nat.zero_add]
      · rfl

theorem queuedFor_le (m : StreamingManager D) (id : ConnectionId) :
    queuedFor m.pendingDelivered id ≤ m.pendingDeliveredBytes :=
  (List.filter_sublist.map _).sum_le_sum fun _ _ => Nat.zero_le _

variable {m m' : StreamingManager D}

theorem Settles.refl (m : StreamingManager D) : m.Settles m := fun _ haccurate => haccurate

theorem SameBooks.trans {m'' : StreamingManager D} (h : m.SameBooks m') (h' : m'.SameBooks m'') : m.SameBooks m'' :=
  ⟨h'.1.trans h.1, h'.2.trans h.2⟩

theorem SameBooks.settles (h : m.SameBooks m') : m.Settles m' := by
  intro _ haccurate id
  rw [pendingBytesFor, h.1, h.2]
  exact haccurate id

theorem SameBooks.settles_deliver (h : m.SameBooks m') (id : ConnectionId) (bytes : List UInt8) :
    m.Settles (m'.deliver id bytes) := by
  intro hfits haccurate k
  have hbound := queuedFor_le (m'.deliver id bytes) id
  have hbefore : m'.pendingBytesFor k = queuedFor m'.pendingDelivered k := by
    rw [pendingBytesFor, h.1, h.2]
    exact haccurate k
  have hqueue : ∀ k, queuedFor (m'.deliver id bytes).pendingDelivered k =
      queuedFor m'.pendingDelivered k + if id = k then bytes.length else 0 := by
    intro k
    have hpending : (m'.deliver id bytes).pendingDelivered = m'.pendingDelivered ++ [⟨id, bytes⟩] := by
      unfold deliver noteDeliveredBytes
      split
      · rfl
      · rfl
    rw [hpending]
    by_cases heq : id = k <;> simp [queuedFor, heq]
  rw [hqueue, if_pos rfl] at hbound
  rw [hqueue, ← hbefore]
  by_cases hempty : bytes.length = 0
  · rw [deliver, noteDeliveredBytes, if_pos hempty, hempty, ite_self]
    rfl
  rw [deliver, noteDeliveredBytes, if_neg hempty]
  show (m'.pendingBytesByConnection.insert id _).getD k 0 = _
  rw [getD_insert]
  by_cases heq : id = k
  · subst heq
    have hsum : m'.pendingBytesFor id + bytes.length < 2 ^ 64 := by omega
    rw [if_pos compare_self, if_pos rfl, saturatingAdd]
    exact Nat.min_eq_left (Nat.le_sub_one_of_lt hsum)
  · rw [if_neg (by simpa using heq), if_neg heq]
    rfl

theorem settles_releaseSynPayload (h : m.SameBooks m') (id : ConnectionId) : m.Settles (m'.releaseSynPayload id) := by
  unfold releaseSynPayload
  split
  · exact h.settles
  refine SameBooks.settles_deliver ?_ id _
  exact h

section Drains

variable (m)

theorem pendingBytesFor_forgetDeliveredBytes (id : ConnectionId) (bytes : Nat) (k : ConnectionId) :
    (m.forgetDeliveredBytes id bytes).pendingBytesFor k = m.pendingBytesFor k - if id = k then bytes else 0 := by
  unfold forgetDeliveredBytes
  split
  next hzero => rw [hzero, ite_self, Nat.sub_zero]
  · by_cases heq : id = k
    · subst heq
      rw [if_pos rfl]
      split
      next hnone => rw [pendingBytesFor, getD_eq_getD_getElem?, hnone, Option.getD_none, Nat.zero_sub]
      next held hheld =>
        have hbefore : m.pendingBytesFor id = held := by
          rw [pendingBytesFor, getD_eq_getD_getElem?, hheld, Option.getD_some]
        rw [hbefore, pendingBytesFor]
        split
        next hgone => rw [getD_erase_self, hgone]
        · rw [getD_insert_self]
    · have hne : compare id k ≠ .eq := by simpa using heq
      rw [if_neg heq, Nat.sub_zero]
      split
      · rfl
      rw [pendingBytesFor]
      split
      · rw [getD_erase, if_neg hne, pendingBytesFor]
      · rw [getD_insert, if_neg hne, pendingBytesFor]

theorem forgetAll_books (drained : List DeliveredApplicationBytes) :
    (m.forgetAll drained).pendingDelivered = m.pendingDelivered ∧
      ∀ k, (m.forgetAll drained).pendingBytesFor k = m.pendingBytesFor k - queuedFor drained k := by
  unfold forgetAll
  induction drained generalizing m with
  | nil => exact ⟨rfl, fun _ => rfl⟩
  | cons delivered drained ih =>
    obtain ⟨hqueue, hbytes⟩ := ih (m.forgetDeliveredBytes delivered.connectionId delivered.bytes.length)
    refine ⟨hqueue.trans ?_, fun k => ?_⟩
    · unfold forgetDeliveredBytes
      split
      · rfl
      split
      · rfl
      · rfl
    · rw [List.foldl_cons, hbytes, pendingBytesFor_forgetDeliveredBytes, queuedFor_cons, Nat.sub_sub]

theorem settles_drainDelivered : m.Settles m.drainDelivered.2 := by
  intro _ haccurate id
  obtain ⟨hqueue, hbytes⟩ := forgetAll_books { m with pendingDelivered := [] } m.pendingDelivered
  rw [drainDelivered, hqueue, hbytes]
  exact Nat.sub_eq_zero_of_le (Nat.le_of_eq (haccurate id))

theorem drainDeliveredFor_queue (id : ConnectionId) :
    (m.drainDeliveredFor id).2.pendingDelivered = m.pendingDelivered.filter (·.connectionId ≠ id) :=
  (forgetAll_books _ _).1

theorem settles_drainDeliveredFor (id : ConnectionId) : m.Settles (m.drainDeliveredFor id).2 := by
  intro _ haccurate k
  have hqueue := drainDeliveredFor_queue m id
  have hbytes : (m.drainDeliveredFor id).2.pendingBytesFor k =
      m.pendingBytesFor k - queuedFor (m.pendingDelivered.filter (·.connectionId = id)) k :=
    (forgetAll_books { m with pendingDelivered := m.pendingDelivered.filter (·.connectionId ≠ id) } _).2 k
  rw [hqueue, hbytes, haccurate k, queuedFor_filter (fun k => decide (k = id)), queuedFor_filter (fun k => decide (k ≠ id))]
  by_cases heq : k = id
  · simp [heq]
  · simp [heq]

theorem settles_removeConnection (id : ConnectionId) : m.Settles (m.removeConnection id).2 := by
  intro _ haccurate k
  obtain ⟨_, _, heq⟩ := m.removeConnection_eq id
  rw [heq]
  show (m.pendingBytesByConnection.erase id).getD k 0 = queuedFor (m.pendingDelivered.filter (·.connectionId ≠ id)) k
  rw [queuedFor_filter (fun k => decide (k ≠ id)), getD_erase, ← haccurate k]
  by_cases heq : k = id
  · simp [heq]
  · simp [heq, Ne.symm heq, pendingBytesFor]

theorem pollRetransmits_books (nowMs : Nat) : m.SameBooks (m.pollRetransmits nowMs).2 := by
  refine pollRetransmits_keeps (P := m.SameBooks) ?_ ?_ ⟨rfl, rfl⟩
  · intro _ _ _ h
    exact h
  · intro _ _ _ _ h
    exact h

theorem queueIfBuilt_books (request : Option TransportSendRequest) : m.SameBooks (m.queueIfBuilt request) := by
  cases request with
  | none | some => exact ⟨rfl, rfl⟩

end Drains

theorem pollAck_books (prim : StreamingPrimitives D) (m : StreamingManager D) (id : ConnectionId) (nowMs : Nat) :
    m.SameBooks (m.pollAck prim id nowMs).1 := by
  unfold pollAck
  dsimp only
  split
  · exact ⟨rfl, rfl⟩
  split
  · exact ⟨rfl, rfl⟩
  · exact queueIfBuilt_books (m.forgetAck id) _

/-- Acknowledgements that are forgotten, armed or queued. -/
theorem scheduleAck_keeps {P : StreamingManager D → Prop} (id : ConnectionId) (hm : P m) (hforget : P (m.forgetAck id))
    (harm : ∀ m deadline, P m → P (m.armAck id deadline)) (hqueue : ∀ m request, P m → P (m.queueIfBuilt request))
    (prim : StreamingPrimitives D) (packet : StreamingPacket D) (decision : Option RecvWindowDecision)
    (terminated active : Bool) (nowMs : Nat) : P (m.scheduleAck prim id packet decision terminated active nowMs) := by
  have hcleared : P (if terminated then m.forgetAck id else m) := by
    split
    · exact hforget
    · exact hm
  unfold scheduleAck
  revert hcleared
  generalize (if terminated then m.forgetAck id else m) = cleared
  intro hcleared
  -- new data, delivered or only buffered, is acknowledged in the same ways
  have hack : P (if ¬ active then cleared else if packet.options.delayRequested = some 0 then
        if cleared.deliveredOverCap id then cleared.armAck id nowMs
        else cleared.queueIfBuilt (cleared.buildSimpleAckRequest prim id)
      else cleared.armAck id (saturatingAdd nowMs cleared.config.delayedAckMs)) := by
    split
    · exact hcleared
    split
    · split
      · exact harm _ _ hcleared
      · exact hqueue _ _ hcleared
    · exact harm _ _ hcleared
  dsimp only
  split
  · split
    · exact harm _ _ hcleared
    · exact hcleared
  · exact hack
  · exact hack
  · exact hcleared

theorem settles_applyDataPacket (prim : StreamingPrimitives D) (m : StreamingManager D) (packet : StreamingPacket D)
    (id : ConnectionId) (nowMs : Nat) : m.Settles (m.applyDataPacket prim packet id nowMs) := by
  unfold applyDataPacket
  split
  · exact SameBooks.settles ⟨rfl, rfl⟩
  next conn _ =>
    dsimp only
    generalize hcleared : (if !packet.flags.noAck && !(conn.applyControl packet nowMs).state.terminated then
      (m.setConnection id ((conn.applyControl packet nowMs).takePacket packet nowMs).1).clearTracked id packet
      else m.setConnection id ((conn.applyControl packet nowMs).takePacket packet nowMs).1) = cleared
    have hsame : m.SameBooks cleared := by
      subst hcleared
      split
      · exact ⟨rfl, rfl⟩
      · exact ⟨rfl, rfl⟩
    have hbooks := scheduleAck_keeps (P := m.SameBooks) id hsame hsame (fun _ _ h => h)
      (fun _ _ h => h.trans (queueIfBuilt_books _ _)) prim packet
    unfold deliverDecision
    split
    · exact (hbooks _ _ _ _).settles_deliver id _
    · exact (hbooks _ _ _ _).settles

end I2pr.StreamingManager

import I2pr.StreamingSynOnce

namespace I2pr.StreamingManager

open Call Std

variable {D : Type}

/-- The bytes kept for the application after the request fit in memory. -/
def FitsMemory (prim : StreamingPrimitives D) (m : StreamingManager D) (request : ManagerRequest D) : Prop :=
  ∀ r m', request.run prim m = some (r, m') → m'.pendingDeliveredBytes < 2 ^ 64

/-- The calls of `drain_delivered_for` on these connections, with what each of them returns. -/
def drainEach : List ConnectionId → StreamingManager D → List (List DeliveredApplicationBytes) × StreamingManager D
  | [], m => ([], m)
  | id :: ids, m =>
    let rest := drainEach ids (m.drainDeliveredFor id).2
    ((m.drainDeliveredFor id).1 :: rest.1, rest.2)

/-- Every call returns entries of its own connection. Of a connection that is drained all entries are returned, in the
order in which they arrived; the entries of the others stay, in their order. -/
structure DrainsApart (m : StreamingManager D) (ids : List ConnectionId) : Prop where
  own : List.Forall₂ (fun id drained => ∀ entry ∈ drained, DeliveredApplicationBytes.connectionId entry = id) ids
    (drainEach ids m).1
  drained : ∀ id, (drainEach ids m).1.flatten.filter (·.connectionId = id) =
    if id ∈ ids then m.pendingDelivered.filter (·.connectionId = id) else []
  kept : (drainEach ids m).2.pendingDelivered = m.pendingDelivered.filter (·.connectionId ∉ ids)

theorem drainsApart (ids : List ConnectionId) (m : StreamingManager D) : m.DrainsApart ids := by
  induction ids generalizing m with
  | nil => exact ⟨.nil, fun _ => rfl, by simp [drainEach]⟩
  | cons id ids ih =>
    obtain ⟨hown, hdrained, hkept⟩ := ih (m.drainDeliveredFor id).2
    rw [drainDeliveredFor_queue] at hdrained hkept
    refine ⟨.cons ?_ hown, fun k => ?_, ?_⟩
    · intro entry hentry
      exact of_decide_eq_true (List.mem_filter.mp hentry).2
    · show (m.pendingDelivered.filter (·.connectionId = id) ++ (drainEach ids (m.drainDeliveredFor id).2).1.flatten).filter
        (·.connectionId = k) = _
      rw [List.filter_append, hdrained, List.filter_filter, List.filter_filter]
      by_cases heq : k = id
      · subst heq
        simp
      have hnone : (m.pendingDelivered.filter fun entry => decide (entry.connectionId = k) &&
          decide (entry.connectionId = id)) = [] := by
        refine List.filter_eq_nil_iff.mpr fun entry _ hboth => heq ?_
        simp only [Bool.and_eq_true, decide_eq_true_eq] at hboth
        exact hboth.1.symm.trans hboth.2
      have hsame : (m.pendingDelivered.filter fun entry => decide (entry.connectionId = k) &&
          decide (entry.connectionId ≠ id)) = m.pendingDelivered.filter (·.connectionId = k) := by
        refine List.filter_congr fun entry _ => ?_
        by_cases hk : entry.connectionId = k
        · simp [hk, heq]
        · simp [hk]
      rw [hnone, List.nil_append, hsame]
      simp [heq]
    · show (drainEach ids (m.drainDeliveredFor id).2).2.pendingDelivered = _
      rw [hkept, List.filter_filter]
      refine List.filter_congr fun entry _ => ?_
      simp [Bool.and_comm]

/-- While what is kept for the application fits in memory, every counter is the number of the bytes that wait for its
connection, and draining one connection leaves the others alone. -/
theorem delivered_accounted {prim : StreamingPrimitives D} {config : StreamingConfig} {m : StreamingManager D}
    (h : Reaches prim config (FitsMemory prim) m) : m.Accurate ∧ ∀ ids, m.DrainsApart ids := by
  refine ⟨?_, fun ids => drainsApart ids m⟩
  induction h with
  | new =>
    intro id
    exact ExtTreeMap.getD_empty
  | step request before hfits hrun ih =>
    exact (run_outcome prim _ request _ _ hrun).settles (hfits _ _ hrun) ih

set_option maxRecDepth 4000 in
/-- One byte came with a SYN and waits for its connection. -/
theorem delivered_accounted_syn : ∃ m : StreamingManager Bool, m.pendingBytesFor 1 = 1 ∧ m.Accurate := by
  have hfits : ∀ {m m' : StreamingManager Bool} {request r}, request.run samplePrimitives m = some (r, m') →
      m'.pendingDeliveredBytes < 2 ^ 64 → FitsMemory samplePrimitives m request := by
    intro m m' request r hrun hbytes r' m'' hrun'
    cases hrun.symm.trans hrun'
    exact hbytes
  have hlistening : Reaches samplePrimitives .balanced (FitsMemory samplePrimitives) ((new .balanced).listen 0).2 :=
    .step (.call (.listen 0)) .new (hfits rfl (by decide +kernel)) rfl
  have hreach := (hlistening.step sampleSynData (hfits rfl (by decide +kernel)) rfl).step (sampleAccept 1)
    (hfits rfl (by decide +kernel)) rfl
  exact ⟨_, by decide +kernel, (delivered_accounted hreach).1⟩

end I2pr.StreamingManager

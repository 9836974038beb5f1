import I2pr.StreamingTable

namespace I2pr

open Call TreeMap Std ExtTreeMap

variable {D : Type}

namespace StreamingManager

variable {prim : StreamingPrimitives D} {m : StreamingManager D} {nowMs : Nat}

def Due (m : StreamingManager D) (nowMs : Nat) (id : ConnectionId) : Prop :=
  ∃ deadline, m.pendingAcks[id]? = some deadline ∧ deadline ≤ nowMs

/-- The loop ends; each connection that is due is visited once, with at most one acknowledgement written for it. -/
structure PollsOnce (prim : StreamingPrimitives D) (m : StreamingManager D) (nowMs : Nat) (visited : List ConnectionId)
    (out : List TransportSendRequest) (m' : StreamingManager D) : Prop where
  nodup : visited.Nodup
  due : ∀ id, id ∈ visited ↔ m.Due nowMs id
  out : out = visited.filterMap fun id => (m.pollAck prim id nowMs).2
  none_due : ∀ id, ¬ m'.Due nowMs id
  others : ∀ id, id ∉ visited → m'.pendingAcks[id]? = m.pendingAcks[id]?

def dueWeight (nowMs : Nat) (_ : ConnectionId) (deadline : Nat) : Nat := if deadline ≤ nowMs then 1 else 0

variable (prim) in
theorem pollAck_eq (id : ConnectionId) (hclock : nowMs < saturatingAdd nowMs m.config.delayedAckMs) :
    ∃ acks queue, (m.pollAck prim id nowMs).1 = { m with pendingAcks := acks, outboundQueue := queue } ∧
      (∀ k, id ≠ k → acks[k]? = m.pendingAcks[k]?) ∧ (∀ deadline, acks[id]? = some deadline → nowMs < deadline) ∧
      (acks = m.pendingAcks.erase id ∨ ∃ later, acks = m.pendingAcks.insert id later) := by
  unfold pollAck
  dsimp only
  split
  · exact ⟨_, _, rfl, fun _ hk => getElem?_erase_of_ne hk, by simp, .inl rfl⟩
  · split
    · refine ⟨_, _, rfl, fun k hk => ?_, fun deadline h => ?_, .inr ⟨_, insert_erase _⟩⟩
      · rw [getElem?_insert_of_ne hk]
        exact getElem?_erase_of_ne hk
      · rw [getElem?_insert_self] at h
        exact Option.some.inj h ▸ hclock
    · have hqueued (request : Option TransportSendRequest) : ∃ queue, (m.forgetAck id).queueIfBuilt request =
          { m with pendingAcks := m.pendingAcks.erase id, outboundQueue := queue } := by
        cases request with
        | none | some request => exact ⟨_, rfl⟩
      obtain ⟨queue, heq⟩ := hqueued ((m.forgetAck id).buildSimpleAckRequest prim id)
      exact ⟨_, queue, heq, fun _ hk => getElem?_erase_of_ne hk, by simp, .inl rfl⟩

/-- One turn of the loop, and the turns that follow it. -/
theorem PollsOnce.visit {id : ConnectionId} {visited : List ConnectionId} {written : List TransportSendRequest}
    {m' : StreamingManager D} (hclock : nowMs < saturatingAdd nowMs m.config.delayedAckMs) (hdue : m.Due nowMs id)
    (h : PollsOnce prim (m.pollAck prim id nowMs).1 nowMs visited written m') :
    PollsOnce prim m nowMs (id :: visited) ((m.pollAck prim id nowMs).2.toList ++ written) m' := by
  obtain ⟨acks, queue, heq, hkept, hlater, -⟩ := pollAck_eq prim id hclock
  rw [heq] at h
  have hrest (k : ConnectionId) : k ∈ visited ↔ id ≠ k ∧ m.Due nowMs k := by
    rw [h.due]
    by_cases hk : id = k
    · subst hk
      exact ⟨fun ⟨d, hd, hdue⟩ => absurd (hlater d hd) (Nat.not_lt.mpr hdue), fun hk => absurd rfl hk.1⟩
    · rw [Due, Due, hkept k hk, and_iff_right hk]
  refine ⟨?_, fun k => ?_, ?_, h.none_due, fun k hk => ?_⟩
  · exact List.nodup_cons.mpr ⟨fun hid => ((hrest id).mp hid).1 rfl, h.nodup⟩
  · rw [List.mem_cons, hrest]
    by_cases hk : k = id
    · simp [hk, hdue]
    · simp [hk, Ne.symm hk]
  · have hsame : (fun k => (pollAck prim { m with pendingAcks := acks, outboundQueue := queue } k nowMs).2) =
        fun k => (m.pollAck prim k nowMs).2 := by
      simp only [pollAck, apply_ite Prod.snd]
      rfl
    rw [h.out, hsame, List.filterMap_cons]
    cases (m.pollAck prim id nowMs).2 <;> rfl
  · obtain ⟨hne, hk⟩ := not_or.mp (mt List.mem_cons.mpr hk)
    exact (h.others k hk).trans (hkept k (Ne.symm hne))

/-- The number of due acknowledgements bounds the turns: a snoozed one is not due again. -/
theorem pollAcksFrom_eq {fuel : Nat} (out : List TransportSendRequest)
    (hclock : nowMs < saturatingAdd nowMs m.config.delayedAckMs)
    (hfuel : total (dueWeight nowMs) m.pendingAcks < fuel) :
    ∃ visited written m', pollAcksFrom prim nowMs fuel out m = some (.ok (out ++ written), m') ∧
      PollsOnce prim m nowMs visited written m' := by
  induction fuel generalizing m out with
  | zero => omega
  | succ fuel ih =>
    rw [pollAcksFrom, bind_eq]
    dsimp only [Call.state]
    cases hfound : m.pendingAcks.toList.find? (·.2 ≤ nowMs) with
    | none =>
      have hnone : ∀ id, ¬ m.Due nowMs id := by
        rintro id ⟨deadline, hdeadline, hdue⟩
        exact absurd (decide_eq_true hdue) (List.find?_eq_none.mp hfound _ (mem_toList_iff_getElem?_eq_some.mpr hdeadline))
      exact ⟨[], [], m, by rw [List.append_nil]; rfl, .nil, by simp [hnone], rfl, hnone, fun _ _ => rfl⟩
    | some entry =>
      obtain ⟨id, deadline⟩ := entry
      have hdeadline := mem_toList_iff_getElem?_eq_some.mp (List.mem_of_find?_eq_some hfound)
      have hdue : deadline ≤ nowMs := by simpa using List.find?_some hfound
      obtain ⟨acks, queue, heq, -, hlater, hacks⟩ := pollAck_eq prim id hclock
      have hless : total (dueWeight nowMs) acks < fuel := by
        rcases hacks with rfl | ⟨later, rfl⟩
        · rw [total_erase hdeadline, dueWeight, if_pos hdue] at hfuel
          omega
        · have hreplaced : total (dueWeight nowMs) (m.pendingAcks.insert id later) + dueWeight nowMs id deadline =
              _ + dueWeight nowMs id later := total_replace hdeadline
          have hlater := hlater later getElem?_insert_self
          rw [dueWeight, dueWeight, if_pos hdue, if_neg (Nat.not_le.mpr hlater)] at hreplaced
          omega
      obtain ⟨visited, written, m', hrun, h⟩ := ih (m := (m.pollAck prim id nowMs).1)
        (out ++ (m.pollAck prim id nowMs).2.toList) (by rw [heq]; exact hclock) (by rw [heq]; exact hless)
      exact ⟨id :: visited, _, m', hrun.trans (by rw [List.append_assoc]), h.visit hclock ⟨deadline, hdeadline, hdue⟩⟩

end StreamingManager

end I2pr

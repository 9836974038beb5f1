import I2pr.Reassembler

namespace I2pr

open Finset UInt8

/-- A message together with the records it was split into, at least two of them. -/
structure SplitMessage where
  delivery : DeliveryInstruction
  messageId : UInt32
  message : List UInt8
  fragments : List FragmentDelivery
  split : fragmentCompleteMessage delivery messageId message = .ok fragments
  two_le : 2 ≤ fragments.length

namespace SplitMessage

variable (m : SplitMessage)

def part (j : Nat) : List UInt8 :=
  ((m.fragments[j]?).map (·.fragment.body)).getD []

def record (j : Nat) : FragmentDelivery :=
  if j = 0 then ⟨some m.delivery, .first m.messageId (m.part 0)⟩
  else ⟨none, .followOn m.messageId (UInt8.ofNat j) (decide (j + 1 = m.fragments.length)) (m.part j)⟩

theorem shape : ∃ first bodies, m.message = first ++ bodies.flatten ∧ bodies.length ≤ 63 ∧
    m.fragments = ⟨some m.delivery, .first m.messageId first⟩ :: followOnRecords m.messageId 0 bodies := by
  obtain ⟨hd, hid, hne, hlen⟩ := fragmentCompleteMessage_ok m.split
  rcases fragmentCompleteMessage_spec hd hid hne hlen with
    ⟨-, hok⟩ | ⟨first, bodies, hmsg, -, -, -, -, hcount, hok⟩
  · have hfrag := Except.ok.inj (m.split.symm.trans hok)
    have := m.two_le
    rw [hfrag] at this
    simp at this
  · exact ⟨first, bodies, hmsg, hcount, Except.ok.inj (m.split.symm.trans hok)⟩

theorem messageId_ne_zero : m.messageId ≠ 0 :=
  (fragmentCompleteMessage_ok m.split).2.1

theorem fragments_length_le : m.fragments.length ≤ 64 := by
  obtain ⟨first, bodies, -, hcount, hfrag⟩ := m.shape
  rw [hfrag, List.length_cons, length_followOnRecords]
  omega

theorem getElem?_fragments {j : Nat} (hj : j < m.fragments.length) : m.fragments[j]? = some (m.record j) := by
  obtain ⟨first, bodies, -, hcount, hfrag⟩ := m.shape
  have hlen : m.fragments.length = bodies.length + 1 := by
    rw [hfrag, List.length_cons, length_followOnRecords]
  cases j with
  | zero => simp [record, part, hfrag, TunnelFragment.body]
  | succ j =>
    obtain ⟨body, hbody⟩ : ∃ body, bodies[j]? = some body := ⟨bodies[j], by simp⟩
    have hget : m.fragments[j + 1]? = some ⟨none, .followOn m.messageId (ofNat (0 + j + 1))
        (decide (j + 1 = bodies.length)) body⟩ := by
      rw [hfrag, List.getElem?_cons_succ, getElem?_followOnRecords, hbody]
      rfl
    simp [record, part, hget, hlen, TunnelFragment.body]

theorem map_part : (List.range m.fragments.length).map m.part = m.fragments.map (·.fragment.body) := by
  apply List.ext_getElem?
  intro j
  by_cases hj : j < m.fragments.length
  · simp [part, hj]
  · simp [hj]

theorem flatten_parts : ((List.range m.fragments.length).map m.part).flatten = m.message := by
  obtain ⟨first, bodies, hmsg, -, hfrag⟩ := m.shape
  rw [m.map_part, hfrag, List.map_cons, map_body_followOnRecords, hmsg]
  rfl

theorem sum_part_le {s : Finset Nat} (hs : s ⊆ range m.fragments.length) :
    ∑ j ∈ s, (m.part j).length ≤ maxTunnelMessagePayloadBytes := by
  have hlen := (fragmentCompleteMessage_ok m.split).2.2.2
  have htotal : ∑ j ∈ range m.fragments.length, (m.part j).length = m.message.length := by
    rw [← m.flatten_parts, List.length_flatten, List.map_map]
    rfl
  exact (sum_le_sum_of_subset hs).trans (htotal.trans_le hlen)

end SplitMessage

/-- The entry holds exactly the parts of `m` whose indices are in `s`. -/
structure PartialMessage.Holds (p : PartialMessage) (m : SplitMessage) (s : Finset Nat) : Prop where
  subset : s ⊆ Finset.range m.fragments.length
  received : ∀ q : UInt8, p.received[q]? = if q.toNat ∈ s then some (m.part q.toNat) else none
  size : p.received.size = s.card
  lastFlags : ∀ q : UInt8, q ≠ 0 → q.toNat ∈ s →
    p.lastFlags[q]? = some (decide (q.toNat + 1 = m.fragments.length))
  total : p.totalFragments =
    if m.fragments.length - 1 ∈ s then some (UInt8.ofNat m.fragments.length) else none
  observed : p.observedMaxSequence.toNat < m.fragments.length
  first : 0 ∈ s → p.firstDelivery = some m.delivery
  bytes : p.bytes = ∑ j ∈ s, (m.part j).length

namespace PartialMessage

theorem new_holds (m : SplitMessage) (now : Nat) : (new now).Holds m ∅ where
  subset := by simp
  received q := by simp [new]
  size := by simp [new]
  lastFlags q _ hq := by simp at hq
  total := by simp [new]
  observed := by
    have := m.two_le
    change 0 < m.fragments.length
    omega
  first h := by simp at h
  bytes := by simp [new]

variable {p : PartialMessage} {m : SplitMessage} {j : Nat} {s : Finset Nat}

theorem Holds.touch (h : p.Holds m s) (now : Nat) : { p with lastTouchedMs := now }.Holds m s :=
  ⟨h.subset, h.received, h.size, h.lastFlags, h.total, h.observed, h.first, h.bytes⟩

theorem toNat_sequence (hj : j < m.fragments.length) : (ofNat j).toNat = j := by
  have := m.fragments_length_le
  exact toNat_ofNat_of_lt' (show j < 256 by omega)

theorem sequence_in_range (hj : j < m.fragments.length) (h0 : j ≠ 0) :
    ¬(ofNat j < followOnSequenceMin ∨ followOnSequenceMax < ofNat j) := by
  have h64 := m.fragments_length_le
  simp only [lt_iff_toNat_lt, toNat_sequence hj]
  change ¬(j < 1 ∨ 63 < j)
  omega

theorem Holds.classify (h : p.Holds m s) (hj : j < m.fragments.length) :
    p.classify (m.record j).fragment (m.record j).delivery =
      .ok (if j ∈ s then .exactDuplicate else .inserted (m.part j).length) := by
  have h64 := m.fragments_length_le
  by_cases h0 : j = 0
  · subst h0
    have hrec := h.received 0
    by_cases hs : 0 ∈ s
    · have hget : p.received[(0 : UInt8)]? = some (m.part 0) := by simpa [hs] using hrec
      simp [SplitMessage.record, PartialMessage.classify, hget, hs, h.first hs, deliveryMatches]
    have hget : p.received[(0 : UInt8)]? = none := by simpa [hs] using hrec
    simp [SplitMessage.record, PartialMessage.classify, hget, hs]
  · have hnat := toNat_sequence hj
    have hrec := h.received (ofNat j)
    have hrange := sequence_in_range hj h0
    rw [hnat] at hrec
    by_cases hs : j ∈ s
    · have hne : ofNat j ≠ 0 := fun hz => h0 (hnat.symm.trans (congrArg toNat hz))
      have hflag := h.lastFlags (ofNat j) hne (hnat.symm ▸ hs)
      rw [hnat] at hflag
      rw [if_pos hs] at hrec
      simp [SplitMessage.record, h0, PartialMessage.classify, hrange, hrec, hflag, hs]
    · have hobs : ¬(decide (j + 1 = m.fragments.length) = true ∧ ofNat j < p.observedMaxSequence) := by
        rintro ⟨hlast, hlt⟩
        have := h.observed
        have hlast' : j + 1 = m.fragments.length := by simpa using hlast
        rw [lt_iff_toNat_lt, hnat] at hlt
        omega
      rw [if_neg hs] at hrec
      simp only [SplitMessage.record, if_neg h0, PartialMessage.classify, hrec, if_neg hobs, if_neg hs, if_neg hrange]
      rfl

theorem Holds.received_insert (h : p.Holds m s) (hj : j < m.fragments.length) (q : UInt8) :
    (p.received.insert (UInt8.ofNat j) (m.part j))[q]? =
      if q.toNat ∈ insert j s then some (m.part q.toNat) else none := by
  rw [TreeMap.getElem?_insert]
  by_cases hq : UInt8.ofNat j = q
  · have hnat : q.toNat = j := hq ▸ toNat_sequence hj
    simp [hq, hnat]
  have hne : q.toNat ≠ j := fun hn => hq (by rw [← hn, UInt8.ofNat_toNat])
  rw [if_neg hq, h.received q]
  simp [hne]

theorem Holds.size_insert (h : p.Holds m s) (hj : j < m.fragments.length) (hnew : j ∉ s) :
    (p.received.insert (ofNat j) (m.part j)).size = (insert j s).card := by
  have hmem : ofNat j ∉ p.received := by
    rw [Std.ExtTreeMap.mem_iff_isSome_getElem?, h.received, toNat_sequence hj, if_neg hnew]
    simp
  rw [Std.ExtTreeMap.mem_iff_contains] at hmem
  rw [Std.ExtTreeMap.size_insert, if_neg hmem, h.size, card_insert_of_notMem hnew]

theorem Holds.apply (h : p.Holds m s) (hj : j < m.fragments.length) (hnew : j ∉ s) :
    ∃ p', p.apply (m.record j).fragment (m.record j).delivery = .ok p' ∧ p'.Holds m (insert j s) := by
  have hsub : insert j s ⊆ range m.fragments.length :=
    insert_subset (mem_range.mpr hj) h.subset
  have hsum : ∑ i ∈ insert j s, (m.part i).length = p.bytes + (m.part j).length := by
    rw [sum_insert hnew, h.bytes, add_comm]
  have hbytes : ¬ maxReassemblyBytesPerMessage < p.bytes + (m.part j).length := by
    have := m.sum_part_le hsub
    simp only [maxReassemblyBytesPerMessage, maxTunnelMessagePayloadBytes] at this ⊢
    omega
  by_cases h0 : j = 0
  · subst h0
    refine ⟨_, by
      simp only [SplitMessage.record, if_pos, PartialMessage.apply, TunnelFragment.body, if_neg hbytes]
      rfl, ?_⟩
    refine ⟨hsub, h.received_insert hj, h.size_insert hj hnew, ?_, ?_, h.observed, fun _ => rfl, hsum.symm⟩
    · intro q hq hmem
      refine h.lastFlags q hq ((mem_insert.mp hmem).resolve_left fun hz => ?_)
      exact hq (UInt8.toNat_inj.mp hz)
    · have := m.two_le
      simp only [h.total, mem_insert, show m.fragments.length - 1 ≠ 0 by omega, false_or]
  · refine ⟨_, by
      simp only [SplitMessage.record, if_neg h0, PartialMessage.apply, TunnelFragment.body, if_neg hbytes]
      rfl, ?_⟩
    have hnat := toNat_sequence hj
    refine ⟨hsub, h.received_insert hj, h.size_insert hj hnew, ?_, ?_, ?_, ?_, hsum.symm⟩
    · intro q hq hmem
      change (p.lastFlags.insert (UInt8.ofNat j) (decide (j + 1 = m.fragments.length)))[q]? = _
      rw [TreeMap.getElem?_insert]
      by_cases hqj : UInt8.ofNat j = q
      · subst hqj
        simp [hnat]
      rw [if_neg hqj]
      refine h.lastFlags q hq ((mem_insert.mp hmem).resolve_left fun hz => ?_)
      exact hqj (by rw [← hz, UInt8.ofNat_toNat])
    · change (if decide (j + 1 = m.fragments.length) = true then some (UInt8.ofNat j + 1) else p.totalFragments) = _
      by_cases hlast : j + 1 = m.fragments.length
      · rw [← hlast]
        simp [UInt8.ofNat_add]
      · simp [h.total, hlast, show m.fragments.length - 1 ≠ j by omega]
    · change (max p.observedMaxSequence (UInt8.ofNat j)).toNat < _
      have hmax : max p.observedMaxSequence (UInt8.ofNat j) =
        if p.observedMaxSequence ≤ UInt8.ofNat j then UInt8.ofNat j else p.observedMaxSequence := rfl
      rw [hmax]
      split
      · rwa [hnat]
      · exact h.observed
    · intro hmem
      exact h.first ((mem_insert.mp hmem).resolve_left (Ne.symm h0))

theorem Holds.complete_iff (h : p.Holds m s) : p.isComplete = true ↔ s = range m.fragments.length := by
  have hnat : (ofNat m.fragments.length).toNat = m.fragments.length := by
    have := m.fragments_length_le
    exact toNat_ofNat_of_lt' (show m.fragments.length < 256 by omega)
  have := m.two_le
  unfold isComplete
  rw [h.total, h.size]
  by_cases hlast : m.fragments.length - 1 ∈ s
  · simp only [hlast, if_true, hnat, decide_eq_true_eq]
    constructor
    · intro hcard
      exact eq_of_subset_of_card_le h.subset (by rw [card_range, hcard])
    · rintro rfl
      exact card_range _
  · simp only [hlast, if_false, Bool.false_eq_true, false_iff]
    rintro rfl
    exact hlast (mem_range.mpr (by omega))

theorem Holds.assemble (h : p.Holds m s) :
    p.assemble = if s = range m.fragments.length then some m.message else none := by
  unfold PartialMessage.assemble
  by_cases hs : s = range m.fragments.length
  · have := m.two_le
    have hlen := m.fragments_length_le
    have hnat : (ofNat m.fragments.length).toNat = m.fragments.length :=
      toNat_ofNat_of_lt' (show m.fragments.length < 256 by omega)
    have hlast : m.fragments.length - 1 ∈ s := by
      rw [hs]
      exact mem_range.mpr (by omega)
    have hbodies : (List.range m.fragments.length).mapM (fun sequence => p.received[ofNat sequence]?) =
        some ((List.range m.fragments.length).map m.part) := by
      refine Collect.mapM_eq_some fun j hj => ?_
      rw [h.received, toNat_sequence (List.mem_range.mp hj), hs, if_pos (by simpa using hj)]
    rw [if_neg (by simp [h.complete_iff.mpr hs]), h.total, if_pos hlast, if_pos hs]
    simp only [bind, Option.bind, hnat, hbodies, m.flatten_parts]
  · have hnot : p.isComplete = false := by
      rw [Bool.eq_false_iff]
      exact fun hc => hs (h.complete_iff.mp hc)
    rw [if_neg hs, hnot]
    rfl

end PartialMessage

end I2pr

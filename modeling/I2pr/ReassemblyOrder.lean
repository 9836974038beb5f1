import I2pr.SplitMessage

namespace I2pr

open Finset

namespace TunnelFragment

def sequence : TunnelFragment → UInt8
  | unfragmented _ => 0
  | first _ _ => 0
  | followOn _ sequence _ _ => sequence

end TunnelFragment

namespace BoundedReassembler

/-- No entry is due at `nowMs`, and there is room for the fragment: an entry for its key or a free slot,
and budget for its bytes unless the entry holds them already. -/
structure Room (r : BoundedReassembler) (nowMs : Nat) (key : ReassemblyKey) (fragment : TunnelFragment) : Prop where
  fresh : ∀ e ∈ r.partials.toList, nowMs - e.2.lastTouchedMs < r.expiryMs
  capacity : key ∈ r.partials ∨ r.partials.size < r.capacity
  budget : (∃ p ∈ r.partials[key]?, fragment.sequence ∈ p.received) ∨
    r.aggregateBytes + fragment.body.length ≤ r.aggregateBytesMax

/-- The parts of `m` in `s` are what the reassembler keeps under `key`; none means no entry. -/
def Keeps (r : BoundedReassembler) (key : ReassemblyKey) (m : SplitMessage) (s : Finset Nat) : Prop :=
  (s = ∅ ∧ r.partials[key]? = none) ∨ (s ≠ ∅ ∧ ∃ p, r.partials[key]? = some p ∧ p.Holds m s)

variable {r : BoundedReassembler} {j : Nat}

theorem expireDue_of_fresh
    (h : ∀ e ∈ r.partials.toList, r.nowMs - e.2.lastTouchedMs < r.expiryMs) : r.expireDue = r := by
  have hnone : r.partials.toList.filter (fun e => decide (r.expiryMs ≤ r.nowMs - e.2.lastTouchedMs)) = [] := by
    rw [List.filter_eq_nil_iff]
    intro e he
    simpa using h e he
  unfold expireDue
  rw [hnone]
  rfl

theorem insertWithDelivery_of_fragmented {fragment : TunnelFragment}
    {messageId : UInt32} (hid : fragment.messageId = some messageId) (hne : messageId ≠ 0)
    (hfresh : r.expireDue = r) (key : ReassemblyKey) (delivery : Option DeliveryInstruction) :
    r.insertWithDelivery key fragment delivery = r.classifyAndAdmit key fragment delivery := by
  cases fragment with
  | unfragmented body => cases hid
  | first id body | followOn id sequence isLast body =>
    have hid' : id = messageId := Option.some.inj hid
    simp [insertWithDelivery, TunnelFragment.messageId, hid', hne, hfresh]

theorem record_facts (m : SplitMessage) (hj : j < m.fragments.length) :
    (m.record j).fragment.messageId = some m.messageId ∧ (m.record j).fragment.body = m.part j ∧
      (m.record j).fragment.sequence.toNat = j ∧
      classifyNewPartial (m.record j).fragment (m.record j).delivery = .ok (.inserted (m.part j).length) := by
  by_cases h0 : j = 0
  · subst h0
    simp [SplitMessage.record, TunnelFragment.messageId, TunnelFragment.body, TunnelFragment.sequence,
      classifyNewPartial]
  · have hnat := PartialMessage.toNat_sequence hj
    have hrange := PartialMessage.sequence_in_range hj h0
    simp only [SplitMessage.record, if_neg h0, TunnelFragment.messageId, TunnelFragment.body,
      TunnelFragment.sequence, classifyNewPartial, if_neg hrange, hnat, true_and]
    rfl

theorem frame_of_key {q : BoundedReassembler} {key : ReassemblyKey} {p : PartialMessage}
    (h : q.partials = r.partials.erase key ∨ q.partials = r.partials.insert key p) {k : ReassemblyKey}
    (hne : k ≠ key) : q.partials[k]? = r.partials[k]? := by
  rcases h with h | h
  · rw [h, TreeMap.getElem?_erase_of_ne (Ne.symm hne)]
  · rw [h, TreeMap.getElem?_insert_of_ne (Ne.symm hne)]

/-- The outcome of inserting part `j` when the parts in `s` are kept. -/
structure Inserted (before : Std.ExtTreeMap ReassemblyKey PartialMessage) (key : ReassemblyKey)
    (m : SplitMessage) (s : Finset Nat) (j : Nat)
    (out : BoundedReassembler × Except ReassemblyError (Option ReassembledFragment)) : Prop where
  last : insert j s = Finset.range m.fragments.length →
    out.2 = .ok (some ⟨m.message, some m.delivery⟩) ∧ out.1.partials[key]? = none
  other : insert j s ≠ Finset.range m.fragments.length → out.2 = .ok none ∧ out.1.Keeps key m (insert j s)
  frame : ∀ k, k ≠ key → out.1.partials[k]? = before[k]?

theorem admit_inserted (r : BoundedReassembler) (key : ReassemblyKey) {p : PartialMessage} {m : SplitMessage}
    {s : Finset Nat} (hp : p.Holds m s) (hj : j < m.fragments.length) (hnew : j ∉ s)
    (hroom : r.aggregateBytes + (m.part j).length ≤ r.aggregateBytesMax) :
    Inserted r.partials key m s j
      (r.admitFragment key p (m.record j).fragment (m.record j).delivery (.inserted (m.part j).length)) := by
  obtain ⟨p', happly, hp'⟩ := (hp.touch r.nowMs).apply hj hnew
  have hassemble := hp'.assemble
  simp only [admitFragment, if_neg (not_lt.mpr hroom), happly]
  by_cases hs : insert j s = range m.fragments.length
  · have hfirst : p'.firstDelivery = some m.delivery := by
      have := m.two_le
      exact hp'.first (hs ▸ mem_range.mpr (by omega))
    rw [if_pos hs] at hassemble
    simp only [hassemble, hfirst]
    exact ⟨fun _ => ⟨rfl, by simp⟩, fun hne => absurd hs hne, fun k => frame_of_key (p := p) (Or.inl rfl)⟩
  · rw [if_neg hs] at hassemble
    simp only [hassemble]
    refine ⟨fun heq => absurd heq hs, fun _ => ⟨rfl, Or.inr ⟨insert_ne_empty j s, p', ?_, hp'⟩⟩,
      fun k => frame_of_key (Or.inr rfl)⟩
    simp

/-- One insertion of a part: it completes the message exactly when it brings the last missing part. -/
theorem insert_spec {nowMs : Nat} {key : ReassemblyKey} {m : SplitMessage}
    {s : Finset Nat} (hk : r.Keeps key m s) (hs : s ≠ range m.fragments.length)
    (hj : j < m.fragments.length) (hroom : r.Room nowMs key (m.record j).fragment) :
    Inserted r.partials key m s j
      ((r.setNow nowMs).insertWithDelivery key (m.record j).fragment (m.record j).delivery) := by
  obtain ⟨hid, hbody, hseq, hnewPartial⟩ := record_facts m hj
  rw [insertWithDelivery_of_fragmented hid m.messageId_ne_zero (expireDue_of_fresh hroom.fresh)]
  have hbudget : (∀ p, r.partials[key]? = some p → (m.record j).fragment.sequence ∉ p.received) →
      r.aggregateBytes + (m.part j).length ≤ r.aggregateBytesMax := by
    intro hnone
    rw [← hbody]
    refine hroom.budget.resolve_left ?_
    rintro ⟨p, hp, hmem⟩
    exact hnone p hp hmem
  rcases hk with ⟨rfl, hnone⟩ | ⟨hne, p, hp, hholds⟩
  · have hcap : ¬ r.capacity ≤ r.partials.size := by
      refine not_le.mpr (hroom.capacity.resolve_left fun hmem => ?_)
      rw [Std.ExtTreeMap.mem_iff_isSome_getElem?, hnone] at hmem
      simp at hmem
    have hout := admit_inserted (r.setNow nowMs) key (PartialMessage.new_holds m nowMs) hj
      (notMem_empty j) (hbudget (by simp [hnone]))
    simpa only [classifyAndAdmit, setNow, hnone, if_neg hcap, hnewPartial] using hout
  · have hclass := hholds.classify hj
    by_cases hmem : j ∈ s
    · rw [if_pos hmem] at hclass
      simp only [classifyAndAdmit, setNow, hp, hclass, admitFragment]
      refine ⟨fun heq => absurd ((insert_eq_of_mem hmem).symm.trans heq) hs, fun _ => ⟨rfl, ?_⟩,
        fun _ _ => rfl⟩
      rw [insert_eq_of_mem hmem]
      exact Or.inr ⟨hne, p, hp, hholds⟩
    · rw [if_neg hmem] at hclass
      have hmissing : ∀ p', r.partials[key]? = some p' → (m.record j).fragment.sequence ∉ p'.received := by
        intro p' hp'
        cases Option.some.inj (hp.symm.trans hp')
        rw [Std.ExtTreeMap.mem_iff_isSome_getElem?, hholds.received, hseq, if_neg hmem]
        simp
      have hout := admit_inserted (r.setNow nowMs) key hholds hj hmem (hbudget hmissing)
      simpa only [classifyAndAdmit, setNow, hp, hclass] using hout

end BoundedReassembler

section Schedule

variable {M : Type} {msgs : M → SplitMessage}

structure Insertion (msgs : M → SplitMessage) where
  nowMs : Nat
  message : M
  index : Fin (msgs message).fragments.length

namespace Insertion

def record (e : Insertion msgs) : FragmentDelivery :=
  (msgs e.message).fragments.get e.index

def piece (e : Insertion msgs) : M × Nat :=
  (e.message, e.index)

theorem record_eq (e : Insertion msgs) : e.record = (msgs e.message).record e.index := by
  have h := (msgs e.message).getElem?_fragments e.index.isLt
  rw [List.getElem?_eq_getElem e.index.isLt] at h
  exact Option.some.inj h

end Insertion

def pieces (msgs : M → SplitMessage) (m : M) : Finset Nat :=
  Finset.range (msgs m).fragments.length

def AllInserted (past : List (Insertion msgs)) (m : M) : Prop :=
  Collect.Complete (pieces msgs) (past.map Insertion.piece) m

namespace BoundedReassembler

variable (keys : M → ReassemblyKey)

def feed (r : BoundedReassembler) (e : Insertion msgs) :
    BoundedReassembler × Except ReassemblyError (Option ReassembledFragment) :=
  (r.setNow e.nowMs).insertWithDelivery (keys e.message) e.record.fragment e.record.delivery

def outcomes : BoundedReassembler → List (Insertion msgs) → List (Except ReassemblyError (Option ReassembledFragment))
  | _, [] => []
  | r, e :: es => (r.feed keys e).2 :: outcomes (r.feed keys e).1 es

/-- There is room for every insertion in the state it meets. -/
def RoomAlong : BoundedReassembler → List (Insertion msgs) → Prop
  | _, [] => True
  | r, e :: es => r.Room e.nowMs (keys e.message) e.record.fragment ∧ RoomAlong (r.feed keys e).1 es

variable [DecidableEq M]

/-- The indices of `m` among the insertions. -/
def arrived (past : List (Insertion msgs)) (m : M) : Finset Nat :=
  (pieces msgs m).filter fun j => (m, j) ∈ past.map Insertion.piece

variable {past : List (Insertion msgs)} {e : Insertion msgs}

theorem allInserted_iff {m : M} : AllInserted past m ↔ arrived past m = range (msgs m).fragments.length := by
  unfold AllInserted Collect.Complete arrived pieces
  rw [filter_eq_self]

theorem arrived_append_self (past : List (Insertion msgs)) (e : Insertion msgs) :
    arrived (past ++ [e]) e.message = insert e.index.val (arrived past e.message) := by
  ext j
  have hlt := e.index.isLt
  simp only [arrived, pieces, mem_filter, mem_range, mem_insert, List.map_append,
    List.mem_append, List.map_cons, List.map_nil, List.mem_singleton, Insertion.piece, Prod.mk.injEq, true_and]
  constructor
  · rintro ⟨hj, h | h⟩
    · exact Or.inr ⟨hj, h⟩
    · exact Or.inl h
  · rintro (rfl | ⟨hj, h⟩)
    · exact ⟨hlt, Or.inr rfl⟩
    · exact ⟨hj, Or.inl h⟩

theorem arrived_append_of_ne {m : M} (hne : m ≠ e.message) : arrived (past ++ [e]) m = arrived past m := by
  ext j
  simp [arrived, Insertion.piece, hne]

/-- Under every key the reassembler keeps what has arrived of a message that is not complete. -/
def Tracks (r : BoundedReassembler) (past : List (Insertion msgs)) : Prop :=
  ∀ m, (AllInserted past m → r.partials[keys m]? = none) ∧
    (¬ AllInserted past m → r.Keeps (keys m) (msgs m) (arrived past m))

variable {keys}

theorem Tracks.feed {r : BoundedReassembler} (h : r.Tracks keys past)
    (hkeys : Function.Injective keys) (hopen : ¬ AllInserted past e.message)
    (hroom : r.Room e.nowMs (keys e.message) e.record.fragment) :
    (r.feed keys e).1.Tracks keys (past ++ [e]) ∧
      (AllInserted (past ++ [e]) e.message →
        (r.feed keys e).2 = .ok (some ⟨(msgs e.message).message, some (msgs e.message).delivery⟩)) ∧
      (¬ AllInserted (past ++ [e]) e.message → (r.feed keys e).2 = .ok none) := by
  rw [e.record_eq] at hroom
  have hout := insert_spec ((h e.message).2 hopen) (fun heq => hopen (allInserted_iff.mpr heq)) e.index.isLt hroom
  have hafter : AllInserted (past ++ [e]) e.message ↔
      insert e.index.val (arrived past e.message) = range (msgs e.message).fragments.length := by
    rw [allInserted_iff, arrived_append_self]
  unfold BoundedReassembler.feed
  rw [e.record_eq]
  refine ⟨fun m => ?_, fun hc => (hout.last (hafter.mp hc)).1, fun hc => (hout.other (mt hafter.mpr hc)).1⟩
  by_cases hm : m = e.message
  · subst hm
    rw [arrived_append_self]
    exact ⟨fun hc => (hout.last (hafter.mp hc)).2, fun hc => (hout.other (mt hafter.mpr hc)).2⟩
  · have hframe := hout.frame (keys m) fun heq => hm (hkeys heq)
    have hsame : AllInserted (past ++ [e]) m ↔ AllInserted past m := by
      rw [allInserted_iff, allInserted_iff, arrived_append_of_ne hm]
    rw [hsame, arrived_append_of_ne hm]
    refine ⟨fun hc => hframe.trans ((h m).1 hc), fun hc => ?_⟩
    rcases (h m).2 hc with ⟨hempty, hnone⟩ | ⟨hne, p, hp, hholds⟩
    · exact Or.inl ⟨hempty, hframe.trans hnone⟩
    · exact Or.inr ⟨hne, p, hframe.trans hp, hholds⟩

theorem Tracks.outcomes {r : BoundedReassembler} (h : r.Tracks keys past)
    (hkeys : Function.Injective keys) {schedule : List (Insertion msgs)} (hroom : r.RoomAlong keys schedule)
    (hopen : ∀ pre e post, schedule = pre ++ e :: post → ¬ AllInserted (past ++ pre) e.message) {n : Nat}
    (hn : schedule[n]? = some e) :
    (AllInserted (past ++ schedule.take (n + 1)) e.message → (r.outcomes keys schedule)[n]? =
        some (.ok (some ⟨(msgs e.message).message, some (msgs e.message).delivery⟩))) ∧
      (¬ AllInserted (past ++ schedule.take (n + 1)) e.message →
        (r.outcomes keys schedule)[n]? = some (.ok none)) := by
  induction schedule generalizing r past n with
  | nil => simp at hn
  | cons d schedule ih =>
    obtain ⟨hfirst, hrest⟩ := hroom
    have hd : ¬ AllInserted past d.message := by simpa using hopen [] d schedule rfl
    obtain ⟨htracks, hlast, hother⟩ := h.feed hkeys hd hfirst
    cases n with
    | zero =>
      cases Option.some.inj hn
      simp only [List.take_succ_cons, List.take_zero, BoundedReassembler.outcomes, List.getElem?_cons_zero,
        Option.some.injEq]
      exact ⟨hlast, hother⟩
    | succ n =>
      have hstep := ih htracks hrest (fun pre e post heq => by
        have := hopen (d :: pre) e post (by rw [heq, List.cons_append])
        simpa using this) hn
      simpa [BoundedReassembler.outcomes] using hstep

def sampleMessages (m : Bool) : SplitMessage where
  delivery := .localDelivery
  messageId := if m then 7 else 8
  message := List.replicate 1001 (if m then 1 else 2)
  fragments := [⟨some .localDelivery, .first (if m then 7 else 8) (List.replicate 996 (if m then 1 else 2))⟩,
    ⟨none, .followOn (if m then 7 else 8) 1 true (List.replicate 5 (if m then 1 else 2))⟩]
  split := by
    revert m
    decide +kernel
  two_le := le_rfl

def sampleKeys (m : Bool) : ReassemblyKey :=
  ⟨5, if m then 7 else 8⟩

def sampleSchedule : List (Insertion sampleMessages) :=
  [⟨10, true, ⟨1, by decide⟩⟩, ⟨20, false, ⟨0, by decide⟩⟩, ⟨20, true, ⟨1, by decide⟩⟩,
    ⟨30, true, ⟨0, by decide⟩⟩, ⟨25, false, ⟨1, by decide⟩⟩]

theorem sampleSchedule_room : (BoundedReassembler.new 2 2000 1000 0).RoomAlong sampleKeys sampleSchedule := by
  refine ⟨⟨?_, ?_, Or.inr ?_⟩, ⟨?_, ?_, Or.inr ?_⟩, ⟨?_, ?_, Or.inr ?_⟩, ⟨?_, ?_, Or.inr ?_⟩,
    ⟨?_, ?_, Or.inr ?_⟩, trivial⟩
  all_goals decide +kernel

theorem sampleSchedule_open (pre : List (Insertion sampleMessages)) (e : Insertion sampleMessages)
    (post : List (Insertion sampleMessages)) (h : sampleSchedule = pre ++ e :: post) :
    ¬ AllInserted pre e.message := by
  have hcheck : ∀ k : Fin 5, ∀ d ∈ sampleSchedule[k.val]?, ¬ AllInserted (sampleSchedule.take k) d.message := by
    unfold AllInserted Collect.Complete
    decide +kernel
  have hlen := congrArg List.length h
  rw [List.length_append, List.length_cons] at hlen
  change 5 = _ at hlen
  have hnot := hcheck ⟨pre.length, by omega⟩ e (by simp [h])
  simpa [h] using hnot

end BoundedReassembler

end Schedule

end I2pr

import I2pr.SendWindow
import I2pr.Lib.Counter

namespace I2pr

open Std ExtTreeMap List

def maxNackCount : Nat := 255

def firstExpectedApplicationSequence : UInt32 := 1

structure RecvWindowConfig where
  maxWindowPackets : UInt16

def RecvWindowConfig.fromConfig (config : StreamingConfig) : RecvWindowConfig :=
  ⟨config.maxRecvWindowPackets⟩

structure ReorderEntry where
  sequence : UInt32
  payload : List UInt8

inductive RecvWindowDecision where
  | delivered (sequence : UInt32) (delivered : List ReorderEntry)
  | buffered (sequence : UInt32)
  | duplicate (sequence : UInt32)
  | tooFarAhead (sequence : UInt32)

def RecvWindowDecision.entries : RecvWindowDecision → List ReorderEntry
  | .delivered _ entries => entries
  | _ => []

def RecvWindowDecision.sequences : RecvWindowDecision → List UInt32
  | .delivered _ entries => entries.map (·.sequence)
  | _ => []

theorem RecvWindowDecision.sequences_eq (decision : RecvWindowDecision) :
    decision.sequences = decision.entries.map (·.sequence) := by
  cases decision <;> rfl

structure RecvWindowPolicy where
  config : RecvWindowConfig
  reorder : ExtTreeMap UInt32 ReorderEntry
  nextExpected : UInt32
  deliveredCount : Nat
  highestReceived : Option UInt32

namespace RecvWindowPolicy

def new (config : RecvWindowConfig) : RecvWindowPolicy :=
  ⟨config, ∅, firstExpectedApplicationSequence, 0, none⟩

def fromStreamingConfig (config : StreamingConfig) : RecvWindowPolicy :=
  new (.fromConfig config)

def noteAcceptedSequence (w : RecvWindowPolicy) (sequence : UInt32) : RecvWindowPolicy :=
  { w with highestReceived := some (match w.highestReceived with
      | some highest => max highest sequence
      | none => sequence) }

/-- `next_expected` is advanced with `wrapping_add`, the counter saturates. -/
def advance (w : RecvWindowPolicy) : RecvWindowPolicy :=
  { w with
    nextExpected := w.nextExpected + 1
    deliveredCount := saturatingAdd w.deliveredCount 1 }

/-- The `while let` loop that removes contiguous entries; every turn removes one of them. -/
def drain : Nat → RecvWindowPolicy → List ReorderEntry → RecvWindowPolicy × List ReorderEntry
  | 0, w, delivered => (w, delivered)
  | fuel + 1, w, delivered =>
    match w.reorder[w.nextExpected]? with
    | none => (w, delivered)
    | some entry =>
      drain fuel (advance { w with reorder := w.reorder.erase w.nextExpected }) (delivered ++ [entry])

def maxSequence (w : RecvWindowPolicy) : Nat :=
  min (w.nextExpected.toNat + w.config.maxWindowPackets.toNat) (2 ^ 32 - 1)

def receive (w : RecvWindowPolicy) (sequence : UInt32) (payload : List UInt8) : RecvWindowPolicy × RecvWindowDecision :=
  if sequence < w.nextExpected then (w, .duplicate sequence)
  else if sequence = w.nextExpected then
    let r := drain w.reorder.size (w.noteAcceptedSequence sequence).advance [⟨sequence, payload⟩]
    (r.1, .delivered sequence r.2)
  else if w.maxSequence ≤ sequence.toNat then (w, .tooFarAhead sequence)
  else
    let w' := w.noteAcceptedSequence sequence
    ({ w' with reorder := w'.reorder.insert sequence ⟨sequence, payload⟩ }, .buffered sequence)

/-- The scan of `missing_sequences_bounded`, which runs for at most `ackThrough - seq` turns. -/
def missingFrom (w : RecvWindowPolicy) (ackThrough : UInt32) (limit : Nat) : Nat → UInt32 → List UInt32 → List UInt32
  | 0, _, missing => missing
  | fuel + 1, seq, missing =>
    if seq < ackThrough then
      if limit ≤ missing.length then missing
      else missingFrom w ackThrough limit fuel (seq + 1)
        (if seq ∈ w.reorder then missing else missing ++ [seq])
    else missing

def missingSequencesBounded (w : RecvWindowPolicy) (ackThrough : UInt32) (limit : Nat) : List UInt32 :=
  w.missingFrom ackThrough limit (ackThrough.toNat - w.nextExpected.toNat) w.nextExpected []

def ackView (w : RecvWindowPolicy) : UInt32 × List UInt32 :=
  match w.highestReceived with
  | none => (0, [])
  | some highest =>
    if highest < w.nextExpected then (if w.nextExpected = 0 then 0 else w.nextExpected - 1, [])
    else (highest, w.missingSequencesBounded highest maxNackCount)

/-- What a receive window keeps, next to the sequences it has handed out. The counter reads zero once it
has passed the last sequence number, and then everything but sequence zero has been delivered. -/
structure Consistent (w : RecvWindowPolicy) (delivered : List UInt32) : Prop where
  window_le : w.config.maxWindowPackets.toNat ≤ 128
  mem_delivered : ∀ q : UInt32, q ≠ 0 → q < w.nextExpected ∨ w.nextExpected = 0 → q ∈ delivered
  ahead : w.nextExpected ≠ 0 → ∀ q ∈ w.reorder,
    w.nextExpected ≤ q ∧ q.toNat < w.nextExpected.toNat + 128
  zero_notMem : (0 : UInt32) ∉ w.reorder
  keyed : ∀ q (entry : ReorderEntry), w.reorder[q]? = some entry → entry.sequence = q
  highest : ∀ h, w.highestReceived = some h → h < w.nextExpected ∨ w.nextExpected = 0 ∨ h ∈ w.reorder

/-- A sequence is accepted once it is delivered or waits in the reorder buffer. -/
def Accepted (w : RecvWindowPolicy) (delivered : List UInt32) (q : UInt32) : Prop :=
  q ∈ delivered ∨ q ∈ w.reorder

theorem new_consistent {config : RecvWindowConfig} (h : config.maxWindowPackets.toNat ≤ 128) :
    (new config).Consistent [] where
  window_le := h
  mem_delivered q hq hlt := by
    exfalso
    rcases hlt with hlt | h0
    · have : q.toNat < 1 := UInt32.lt_iff_toNat_lt.mp hlt
      exact hq (UInt32.toNat_inj.mp (by simpa using this))
    · exact absurd h0 (show (1 : UInt32) ≠ 0 by decide)
  ahead _ q hq := by simp [new] at hq
  zero_notMem := by simp [new]
  keyed q entry h := by simp [new] at h
  highest h hh := by simp [new] at hh

variable {w : RecvWindowPolicy} {delivered : List UInt32} {sequence q : UInt32}

theorem Consistent.advance (hw : w.Consistent delivered) (hne : w.nextExpected ≠ 0) (entry : ReorderEntry)
    (he : entry.sequence = w.nextExpected) (highest : Option UInt32)
    (hh : ∀ h, highest = some h → h = w.nextExpected ∨ w.highestReceived = some h) :
    (RecvWindowPolicy.advance { w with
        reorder := w.reorder.erase w.nextExpected
        highestReceived := highest }).Consistent (delivered ++ [entry.sequence]) where
  window_le := hw.window_le
  mem_delivered q hq hlt := by
    rcases Counter.lt_succ_or_wrap.mp hlt with h | rfl | hwrap
    · exact mem_append_left _ (hw.mem_delivered q hq (Or.inl h))
    · simp [he]
    · by_cases hqn : q = w.nextExpected
      · simp [he, hqn]
      · have hlt := (Counter.lt_or_eq_of_succ_eq_zero hwrap q).resolve_right hqn
        exact mem_append_left _ (hw.mem_delivered q hq (Or.inl hlt))
  ahead _ q hq := by
    obtain ⟨hne', hmem⟩ := mem_erase.mp hq
    obtain ⟨hle, hlt⟩ := hw.ahead hne q hmem
    have hlt' : w.nextExpected < q := by
      have : w.nextExpected ≠ q := by simpa using hne'
      grind
    have hnat := Counter.toNat_succ_of_lt hlt'
    have := UInt32.lt_iff_toNat_lt.mp hlt'
    constructor
    · rw [UInt32.le_iff_toNat_le]
      change (w.nextExpected + 1).toNat ≤ q.toNat
      omega
    · change q.toNat < (w.nextExpected + 1).toNat + 128
      omega
  zero_notMem h := hw.zero_notMem (mem_erase.mp h).2
  keyed q e h := by
    refine hw.keyed q e ?_
    exact TreeMap.getElem?_of_erase h
  highest h hs := by
    change h < w.nextExpected + 1 ∨ w.nextExpected + 1 = 0 ∨ h ∈ w.reorder.erase w.nextExpected
    rw [← or_assoc, Counter.lt_succ_or_wrap]
    by_cases hn : h = w.nextExpected
    · exact Or.inl (Or.inr (Or.inl hn))
    rcases hw.highest h ((hh h hs).resolve_left hn) with h1 | h2 | h3
    · exact Or.inl (Or.inl h1)
    · exact absurd h2 hne
    · exact Or.inr (mem_erase.mpr ⟨by simpa using Ne.symm hn, h3⟩)

section Rule

variable {I : RecvWindowPolicy → List ReorderEntry → Prop}
  (hturn : ∀ (v : RecvWindowPolicy) entries entry, I v entries → v.reorder[v.nextExpected]? = some entry →
    I (advance { v with reorder := v.reorder.erase v.nextExpected }) (entries ++ [entry]))
include hturn

/-- What holds of a window and of the entries it has handed out survives the loop if every turn keeps it. -/
theorem drain_rule {fuel : Nat} {entries : List ReorderEntry} (hfuel : w.reorder.size ≤ fuel) (h : I w entries) :
    I (drain fuel w entries).1 (drain fuel w entries).2 ∧
      (drain fuel w entries).1.nextExpected ∉ (drain fuel w entries).1.reorder := by
  induction fuel generalizing w entries with
  | zero =>
    have hempty : w.reorder = ∅ := by
      rw [eq_empty_iff_size_eq_zero]
      exact Nat.le_zero.mp hfuel
    exact ⟨h, by simp [drain, hempty]⟩
  | succ fuel ih =>
    unfold drain
    split
    next hnone => exact ⟨h, by rw [mem_iff_isSome_getElem?, hnone]; simp⟩
    next entry hsome =>
      have hmem : w.nextExpected ∈ w.reorder := mem_iff_isSome_getElem?.mpr (by simp [hsome])
      refine ih ?_ (hturn w entries entry h hsome)
      change (w.reorder.erase w.nextExpected).size ≤ fuel
      rw [size_erase, if_pos (mem_iff_contains.mp hmem)]
      omega

/-- The rule for `receive`: besides the turns of the loop, the expected packet and one that is buffered are to keep
what holds. Once the expected sequence is not waiting, it never is between two calls. -/
theorem receive_rule (sequence : UInt32) (payload : List UInt8) (h : I w [])
    (hfirst : sequence = w.nextExpected → I (w.noteAcceptedSequence sequence).advance [⟨sequence, payload⟩])
    (hbuffer : w.nextExpected < sequence → sequence.toNat < w.maxSequence →
      I { w.noteAcceptedSequence sequence with reorder := w.reorder.insert sequence ⟨sequence, payload⟩ } []) :
    I (w.receive sequence payload).1 (w.receive sequence payload).2.entries ∧
      (w.nextExpected ∉ w.reorder → (w.receive sequence payload).1.nextExpected ∉ (w.receive sequence payload).1.reorder) := by
  unfold receive
  split
  · exact ⟨h, id⟩
  next hge =>
    split
    next heq =>
      obtain ⟨hafter, hrest⟩ := drain_rule hturn (Nat.le_refl (w.noteAcceptedSequence sequence).advance.reorder.size) (hfirst heq)
      exact ⟨hafter, fun _ => hrest⟩
    next hne =>
      split
      · exact ⟨h, id⟩
      next hlt =>
        refine ⟨hbuffer (by grind) (Nat.not_le.mp hlt), fun hrest hmem => ?_⟩
        rcases TreeMap.mem_insert.mp hmem with hkey | hmem
        · exact hne hkey.symm
        · exact hrest hmem

end Rule

theorem noteAcceptedSequence_highestReceived {h : UInt32}
    (hh : (w.noteAcceptedSequence sequence).highestReceived = some h) :
    h = sequence ∨ w.highestReceived = some h := by
  unfold noteAcceptedSequence at hh
  rcases hr : w.highestReceived with - | old
  · simp only [hr, Option.some.injEq] at hh
    exact Or.inl hh.symm
  · simp only [hr, Option.some.injEq] at hh
    have hmax : max old sequence = if old ≤ sequence then sequence else old := rfl
    rw [hmax] at hh
    split at hh
    · exact Or.inl hh.symm
    · exact Or.inr (by rw [hh])

theorem Consistent.buffer (hw : w.Consistent delivered) (hs : sequence ≠ 0) (hgt : w.nextExpected < sequence)
    (hbound : sequence.toNat < w.nextExpected.toNat + 128) (payload : List UInt8) :
    { w.noteAcceptedSequence sequence with
        reorder := w.reorder.insert sequence ⟨sequence, payload⟩ : RecvWindowPolicy }.Consistent
      delivered where
  window_le := hw.window_le
  mem_delivered := hw.mem_delivered
  ahead hne q hq := by
    rcases TreeMap.mem_insert.mp hq with rfl | h
    · refine ⟨?_, hbound⟩
      change w.nextExpected ≤ q
      grind
    · exact hw.ahead hne q h
  zero_notMem h := by
    rcases TreeMap.mem_insert.mp h with h | h
    · exact hs h.symm
    · exact hw.zero_notMem h
  keyed q e h := by
    change (w.reorder.insert sequence ⟨sequence, payload⟩)[q]? = some e at h
    rw [TreeMap.getElem?_insert] at h
    split at h
    next hq => rw [← Option.some.inj h, hq]
    · exact hw.keyed q e h
  highest h hh := by
    change h < w.nextExpected ∨ w.nextExpected = 0 ∨ h ∈ w.reorder.insert sequence ⟨sequence, payload⟩
    rw [mem_insert]
    rcases noteAcceptedSequence_highestReceived hh with rfl | hold
    · simp
    · rcases hw.highest h hold with h1 | h1 | h1
      · exact Or.inl h1
      · exact Or.inr (Or.inl h1)
      · exact Or.inr (Or.inr (Or.inr h1))

theorem Accepted.advance (h : w.Accepted delivered q) (highest : Option UInt32) : (RecvWindowPolicy.advance { w with
        reorder := w.reorder.erase w.nextExpected
        highestReceived := highest }).Accepted (delivered ++ [w.nextExpected]) q := by
  rcases h with h | h
  · exact Or.inl (mem_append_left _ h)
  · by_cases hq : q = w.nextExpected
    · exact Or.inl (by simp [hq])
    · exact Or.inr (mem_erase.mpr ⟨by simpa using Ne.symm hq, h⟩)

theorem receive_spec (hw : w.Consistent delivered)
    (hn : w.nextExpected ∉ w.reorder) (hs : sequence ≠ 0) (payload : List UInt8) :
    (w.receive sequence payload).1.Consistent (delivered ++ (w.receive sequence payload).2.sequences) ∧
      (w.receive sequence payload).1.nextExpected ∉ (w.receive sequence payload).1.reorder ∧
      ∀ q, w.Accepted delivered q → (w.receive sequence payload).1.Accepted
        (delivered ++ (w.receive sequence payload).2.sequences) q := by
  have hrule := receive_rule (w := w) (I := fun v entries => v.Consistent (delivered ++ entries.map (·.sequence)) ∧
    ∀ q, w.Accepted delivered q → v.Accepted (delivered ++ entries.map (·.sequence)) q) ?_ sequence payload ?_ ?_ ?_
  · rw [RecvWindowDecision.sequences_eq]
    exact ⟨hrule.1.1, hrule.2 hn, hrule.1.2⟩
  · rintro v entries entry ⟨hv, hkept⟩ hsome
    have hmem : v.nextExpected ∈ v.reorder := mem_iff_isSome_getElem?.mpr (by simp [hsome])
    have hkey : entry.sequence = v.nextExpected := hv.keyed _ _ hsome
    rw [map_append, ← append_assoc, map_singleton]
    refine ⟨hv.advance (fun h => hv.zero_notMem (h ▸ hmem)) entry hkey v.highestReceived fun h hh => Or.inr hh, ?_⟩
    intro q hq
    rw [hkey]
    exact (hkept q hq).advance v.highestReceived
  · simpa using hw
  · intro heq
    have hstep := hw.advance (heq ▸ hs) ⟨sequence, payload⟩ heq (w.noteAcceptedSequence sequence).highestReceived
      fun h hh => heq ▸ noteAcceptedSequence_highestReceived hh
    have hkept := fun q (hq : w.Accepted delivered q) => hq.advance (w.noteAcceptedSequence sequence).highestReceived
    rw [TreeMap.erase_of_notMem hn] at hstep hkept
    exact ⟨hstep, heq ▸ hkept⟩
  · intro hgt hlt
    have hbound : sequence.toNat < w.nextExpected.toNat + 128 := by
      have := hw.window_le
      unfold maxSequence at hlt
      omega
    rw [map_nil, append_nil]
    refine ⟨hw.buffer hs hgt hbound payload, ?_⟩
    rintro q (hq | hq)
    · exact Or.inl hq
    · exact Or.inr (mem_insert.mpr (Or.inr hq))

theorem missingFrom_subset {ackThrough : UInt32} {limit fuel : Nat} {seq : UInt32}
    {missing : List UInt32} (hq : q ∈ missing) :
    q ∈ w.missingFrom ackThrough limit fuel seq missing := by
  induction fuel generalizing seq missing with
  | zero => exact hq
  | succ fuel ih =>
    unfold missingFrom
    split
    · split
      · exact hq
      apply ih
      split
      · exact hq
      · exact mem_append_left _ hq
    · exact hq

/-- The NACK scan is complete as long as the gap it covers fits under the limit. -/
theorem mem_missingFrom {ackThrough : UInt32} {limit : Nat} (fuel : Nat) {seq : UInt32}
    {missing : List UInt32} (hfuel : ackThrough.toNat - seq.toNat ≤ fuel)
    (hroom : missing.length + (ackThrough.toNat - seq.toNat) ≤ limit) (hle : seq ≤ q)
    (hlt : q < ackThrough) (hq : q ∉ w.reorder) : q ∈ w.missingFrom ackThrough limit fuel seq missing := by
  have hlo := UInt32.le_iff_toNat_le.mp hle
  have hhi := UInt32.lt_iff_toNat_lt.mp hlt
  induction fuel generalizing seq missing with
  | zero => omega
  | succ fuel ih =>
    have hseq : seq < ackThrough := UInt32.lt_iff_toNat_lt.mpr (by omega)
    have hsucc := Counter.toNat_succ_of_lt hseq
    unfold missingFrom
    rw [if_pos hseq, if_neg (by omega)]
    by_cases heq : q = seq
    · apply missingFrom_subset
      rw [if_neg (heq ▸ hq)]
      simp [heq]
    · have hne : q.toNat ≠ seq.toNat := fun h => heq (UInt32.toNat_inj.mp h)
      refine ih ?_ ?_ ?_ ?_
      · omega
      · split
        · omega
        · rw [length_append, length_singleton]
          omega
      · exact UInt32.le_iff_toNat_le.mpr (by omega)
      · omega

/-- An acknowledgement view covers only accepted sequences, its NACK list apart: the list is never cut
short, since the reorder window is smaller than the limit. -/
theorem ackView_spec (hw : w.Consistent delivered) (hq : q ≠ 0) (hle : q ≤ w.ackView.1)
    (hnack : ¬(q ∈ w.ackView.2 ∧ q < w.ackView.1)) :
    w.Accepted delivered q := by
  by_cases hdel : q < w.nextExpected ∨ w.nextExpected = 0
  · exact Or.inl (hw.mem_delivered q hq hdel)
  obtain ⟨hge, hne⟩ := not_or.mp hdel
  have hgeNat : w.nextExpected.toNat ≤ q.toNat := Nat.not_lt.mp fun h => hge (UInt32.lt_iff_toNat_lt.mpr h)
  unfold ackView at hle hnack
  rcases hh : w.highestReceived with - | highest
  · simp only [hh] at hle
    have : q.toNat ≤ 0 := UInt32.le_iff_toNat_le.mp hle
    exact absurd (UInt32.toNat_inj.mp (Nat.le_zero.mp this)) hq
  · simp only [hh] at hle hnack
    split at hle
    next hlt =>
      have hpos : 1 ≤ w.nextExpected := UInt32.le_iff_toNat_le.mpr
        (Nat.one_le_iff_ne_zero.mpr fun h => hne (UInt32.toNat_inj.mp h))
      have hsub := UInt32.toNat_sub_of_le _ _ hpos
      have hle' : q.toNat ≤ (w.nextExpected - 1).toNat := UInt32.le_iff_toNat_le.mp hle
      have h1 : (1 : UInt32).toNat = 1 := rfl
      have := UInt32.le_iff_toNat_le.mp hpos
      omega
    next hlt =>
      rw [if_neg hlt] at hnack
      have hmem : highest ∈ w.reorder := ((hw.highest highest hh).resolve_left hlt).resolve_left hne
      by_cases heq : q = highest
      · exact Or.inr (heq ▸ hmem)
      have hltq : q < highest := by grind
      by_contra hacc
      have hnot : q ∉ w.reorder := fun h => hacc (Or.inr h)
      have hgap := (hw.ahead hne highest hmem).2
      refine hnack ⟨mem_missingFrom _ le_rfl ?_ (UInt32.le_iff_toNat_le.mpr hgeNat) hltq hnot, hltq⟩
      simp only [length_nil, maxNackCount]
      omega

end RecvWindowPolicy

end I2pr

import I2pr.RecvWindow

namespace I2pr.RecvWindowPolicy

open Std List

def receiveAll (config : RecvWindowConfig) (calls : List (UInt32 × List UInt8)) : RecvWindowPolicy × List ReorderEntry :=
  calls.foldl (fun run call => ((run.1.receive call.1 call.2).1, run.2 ++ (run.1.receive call.1 call.2).2.entries))
    (new config, [])

/-- What is delivered counts up from one to the expected sequence; what waits lies in the window above it. -/
structure Ordered (calls : List (UInt32 × List UInt8)) (w : RecvWindowPolicy) (delivered : List ReorderEntry) : Prop where
  positive : 1 ≤ w.nextExpected.toNat
  sequences : delivered.map (·.sequence.toNat) = List.range' 1 (w.nextExpected.toNat - 1)
  count : w.deliveredCount = w.nextExpected.toNat - 1
  known : ∀ entry ∈ delivered, (entry.sequence, entry.payload) ∈ calls
  held : ∀ (q : UInt32) (entry : ReorderEntry), w.reorder[q]? = some entry → entry.sequence = q ∧
    (q, entry.payload) ∈ calls ∧ w.nextExpected.toNat ≤ q.toNat ∧
      q.toNat < w.nextExpected.toNat + w.config.maxWindowPackets.toNat ∧ q.toNat < 2 ^ 32 - 1

variable {config : RecvWindowConfig} {calls : List (UInt32 × List UInt8)} {w : RecvWindowPolicy}
  {delivered : List ReorderEntry}

theorem Ordered.advance (hw : Ordered calls w delivered) (hmax : w.nextExpected.toNat < 2 ^ 32 - 1) {entry : ReorderEntry}
    (he : entry.sequence = w.nextExpected) (hcall : (entry.sequence, entry.payload) ∈ calls) (highest : Option UInt32) :
    Ordered calls (RecvWindowPolicy.advance { w with
      reorder := w.reorder.erase w.nextExpected
      highestReceived := highest }) (delivered ++ [entry]) := by
  have hpos := hw.positive
  have hnext : (w.nextExpected + 1).toNat = w.nextExpected.toNat + 1 := by
    apply Counter.toNat_succ
    intro h0
    have := Counter.toNat_of_succ_eq_zero h0
    omega
  refine ⟨?_, ?_, ?_, ?_, ?_⟩
  · show 1 ≤ (w.nextExpected + 1).toNat
    omega
  · show (delivered ++ [entry]).map (·.sequence.toNat) = range' 1 ((w.nextExpected + 1).toNat - 1)
    have hlast : w.nextExpected.toNat + 1 - 1 = w.nextExpected.toNat - 1 + 1 := by omega
    rw [map_append, hw.sequences, hnext, hlast, range'_1_concat, map_singleton, he,
      Nat.add_sub_cancel' hpos]
  · show saturatingAdd w.deliveredCount 1 = (w.nextExpected + 1).toNat - 1
    rw [hw.count, saturatingAdd, hnext]
    omega
  · exact forall_mem_append.mpr ⟨hw.known, by simpa using hcall⟩
  · intro q e hq
    change (w.reorder.erase w.nextExpected)[q]? = some e at hq
    obtain ⟨hkey, hin, hlow, hhigh, hlast⟩ := hw.held q e (TreeMap.getElem?_of_erase hq)
    have hne : q.toNat ≠ w.nextExpected.toNat := by
      intro h
      rw [UInt32.toNat_inj.mp h, ExtTreeMap.getElem?_erase_self] at hq
      cases hq
    refine ⟨hkey, hin, ?_, ?_, hlast⟩
    · show (w.nextExpected + 1).toNat ≤ q.toNat
      omega
    · show q.toNat < (w.nextExpected + 1).toNat + w.config.maxWindowPackets.toNat
      omega

theorem Ordered.receive (hw : Ordered calls w delivered) (hrest : w.nextExpected ∉ w.reorder)
    (hmax : w.nextExpected.toNat < 2 ^ 32 - 1) {call : UInt32 × List UInt8} (hcall : call ∈ calls) :
    (Ordered calls (w.receive call.1 call.2).1 (delivered ++ (w.receive call.1 call.2).2.entries) ∧
      (w.receive call.1 call.2).1.config = w.config) ∧
      (w.receive call.1 call.2).1.nextExpected ∉ (w.receive call.1 call.2).1.reorder := by
  have hrule := receive_rule (w := w) (I := fun v entries => Ordered calls v (delivered ++ entries) ∧ v.config = w.config)
    ?_ call.1 call.2 ?_ ?_ ?_
  · exact ⟨hrule.1, hrule.2 hrest⟩
  · rintro v entries entry ⟨hv, hconfig⟩ hsome
    obtain ⟨hkey, hin, -, -, hlast⟩ := hv.held _ entry hsome
    rw [← append_assoc]
    exact ⟨hv.advance hlast hkey (hkey ▸ hin) v.highestReceived, hconfig⟩
  · exact ⟨by rwa [append_nil], rfl⟩
  · intro heq
    have hstep := @Ordered.advance calls w delivered hw hmax ⟨call.1, call.2⟩ heq hcall
      (w.noteAcceptedSequence call.1).highestReceived
    rw [TreeMap.erase_of_notMem hrest] at hstep
    exact ⟨hstep, rfl⟩
  · intro hgt hlt
    rw [maxSequence] at hlt
    have hgt := UInt32.lt_iff_toNat_lt.mp hgt
    rw [append_nil]
    refine ⟨⟨hw.positive, hw.sequences, hw.count, hw.known, ?_⟩, rfl⟩
    intro q e hq
    change (w.reorder.insert call.1 ⟨call.1, call.2⟩)[q]? = some e at hq
    rw [TreeMap.getElem?_insert] at hq
    split at hq
    next hkey =>
      cases hq
      subst hkey
      refine ⟨rfl, hcall, Nat.le_of_lt hgt, ?_, by omega⟩
      show call.1.toNat < w.nextExpected.toNat + w.config.maxWindowPackets.toNat
      omega
    · exact hw.held q e hq

theorem receiveAll_ordered {earlier : List (UInt32 × List UInt8)} (hcalls : ∀ call ∈ earlier, call ∈ calls)
    (hmax : ∀ first, first <+: earlier → (receiveAll config first).1.nextExpected ≠ 4294967295) :
    (Ordered calls (receiveAll config earlier).1 (receiveAll config earlier).2 ∧
      (receiveAll config earlier).1.config = config) ∧
      (receiveAll config earlier).1.nextExpected ∉ (receiveAll config earlier).1.reorder := by
  induction earlier using reverseRecOn with
  | nil =>
    refine ⟨⟨⟨Nat.le_refl 1, rfl, rfl, by simp [receiveAll], ?_⟩, rfl⟩, by simp [receiveAll, new]⟩
    intro q entry hq
    simp [receiveAll, new] at hq
  | append_singleton earlier call ih =>
    have hsub := prefix_append earlier [call]
    obtain ⟨⟨hw, hconfig⟩, hrest⟩ := ih (fun c hc => hcalls c (mem_append_left _ hc))
      fun first hfirst => hmax first (hfirst.trans hsub)
    have hlt := (receiveAll config earlier).1.nextExpected.toNat_lt
    have hne : (receiveAll config earlier).1.nextExpected.toNat ≠ 4294967295 :=
      fun h => hmax earlier hsub (UInt32.toNat_inj.mp h)
    obtain ⟨⟨hafter, hsame⟩, hrest⟩ := hw.receive hrest (by omega) (hcalls call (by simp))
    rw [receiveAll, foldl_append]
    exact ⟨⟨hafter, hsame.trans hconfig⟩, hrest⟩

/-- As long as the expected sequence stays below its maximum, the entries delivered over a run are those of sequences
one up to the expected one, each once and with the payload it came with; whatever waits lies inside the window. -/
theorem receiveAll_inOrder (hsame : ∀ a ∈ calls, ∀ b ∈ calls, a.1 = b.1 → a.2 = b.2)
    (hmax : ∀ earlier, earlier <+: calls → (receiveAll config earlier).1.nextExpected ≠ 4294967295) :
    (receiveAll config calls).2.map (·.sequence.toNat) =
        List.range' 1 ((receiveAll config calls).1.nextExpected.toNat - 1) ∧
      (∀ entry ∈ (receiveAll config calls).2, (entry.sequence, entry.payload) ∈ calls ∧
        ∀ call ∈ calls, call.1 = entry.sequence → call.2 = entry.payload) ∧
      (receiveAll config calls).1.deliveredCount = (receiveAll config calls).1.nextExpected.toNat - 1 ∧
      ∀ q ∈ (receiveAll config calls).1.reorder, (receiveAll config calls).1.nextExpected < q ∧
        q.toNat < (receiveAll config calls).1.nextExpected.toNat + config.maxWindowPackets.toNat := by
  obtain ⟨⟨hw, hconfig⟩, hrest⟩ := @receiveAll_ordered config calls calls (fun call hcall => hcall) hmax
  refine ⟨hw.sequences, ?_, hw.count, ?_⟩
  · intro entry hentry
    have hcall := hw.known entry hentry
    exact ⟨hcall, fun call hmem hkey => hsame call hmem _ hcall hkey⟩
  · intro q hq
    obtain ⟨entry, hentry⟩ := Option.isSome_iff_exists.mp (ExtTreeMap.mem_iff_isSome_getElem?.mp hq)
    obtain ⟨-, -, hlow, hhigh, -⟩ := hw.held q entry hentry
    rw [hconfig] at hhigh
    have hne : (receiveAll config calls).1.nextExpected.toNat ≠ q.toNat :=
      fun h => hrest (UInt32.toNat_inj.mp h ▸ hq)
    exact ⟨UInt32.lt_iff_toNat_lt.mpr (by omega), hhigh⟩

def reorderedCalls : List (UInt32 × List UInt8) := [(2, [7]), (1, [8])]

theorem receiveAll_inOrder_reordered : (receiveAll ⟨4⟩ reorderedCalls).2.map (·.sequence.toNat) =
      List.range' 1 ((receiveAll ⟨4⟩ reorderedCalls).1.nextExpected.toNat - 1) := by
  have hmax : ∀ earlier ∈ reorderedCalls.inits, (receiveAll ⟨4⟩ earlier).1.nextExpected ≠ 4294967295 := by
    decide +kernel
  exact (receiveAll_inOrder (by decide) fun earlier hearlier => hmax earlier ((mem_inits _ _).mpr hearlier)).1

end I2pr.RecvWindowPolicy

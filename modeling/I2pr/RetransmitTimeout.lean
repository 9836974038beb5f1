import I2pr.StreamingConnection

namespace I2pr

structure RttSample where
  rttMs : Nat
  sequence : UInt32
  wasRetransmit : Bool

/-- A result in `u64`; outside it the arithmetic overflows. -/
def u64 (n : Nat) : Option Nat := if n < 2 ^ 64 then some n else none

theorem u64_of_lt {n : Nat} (h : n < 2 ^ 64) : u64 n = some n := if_pos h

namespace RetransmitPolicy

variable (policy : RetransmitPolicy)

def recordRttSample (sample : RttSample) : Option RetransmitPolicy :=
  if sample.wasRetransmit then some policy
  else do
    let kept ← u64 (policy.smoothedRttMs * 7)
    let sum ← u64 (kept + sample.rttMs)
    let smoothed := sum / 8
    let diff := (sample.rttMs - smoothed) + (smoothed - sample.rttMs)
    let kept ← u64 (policy.rttVarianceMs * 3)
    let sum ← u64 (kept + diff)
    let variance := sum / 4
    let backoff ← u64 (4 * variance)
    some { policy with
      smoothedRttMs := smoothed
      rttVarianceMs := variance
      currentRtoMs := min (max (saturatingAdd smoothed backoff) policy.config.minRtoMs) policy.config.maxRtoMs }

def rtoForRetransmit (retransmitCount : Nat) : Nat :=
  max ((fun rto => min (min (rto * 2) (2 ^ 64 - 1)) policy.config.maxRtoMs)^[retransmitCount] policy.currentRtoMs)
    policy.config.minRtoMs

/-- What is said of the timeouts of a configuration, whatever is sampled. -/
def KeepsBounds (config : StreamingConfig) : Prop :=
  ∀ samples : List RttSample, (∀ sample ∈ samples, sample.rttMs ≤ 2 ^ 60) →
    ∃ policy, samples.foldlM recordRttSample (new (.fromConfig config)) = some policy ∧
      minRtoMillis ≤ policy.currentRtoMs ∧ policy.currentRtoMs ≤ maxRtoMillis ∧ Monotone policy.rtoForRetransmit ∧
      ∀ count, policy.rtoForRetransmit count ≤ (RetransmitConfig.fromConfig config).maxRtoMs

structure Estimated (config : StreamingConfig) : Prop where
  config : policy.config = .fromConfig config
  smoothed : policy.smoothedRttMs ≤ 2 ^ 60
  variance : policy.rttVarianceMs ≤ 2 ^ 60
  min_le : minRtoMillis ≤ policy.currentRtoMs
  le_max : policy.currentRtoMs ≤ policy.config.maxRtoMs

variable {policy} {config : StreamingConfig}

theorem Estimated.recordRttSample (h : policy.Estimated config) {sample : RttSample} (hrtt : sample.rttMs ≤ 2 ^ 60) :
    ∃ policy', policy.recordRttSample sample = some policy' ∧ policy'.Estimated config := by
  obtain ⟨hconfig, hsmoothed, hvariance, hmin, hmax⟩ := h
  unfold RetransmitPolicy.recordRttSample
  split
  · exact ⟨policy, rfl, hconfig, hsmoothed, hvariance, hmin, hmax⟩
  · have hmax := hmin.trans hmax
    have hlow : policy.config.minRtoMs = minRtoMillis := by rw [hconfig]; rfl
    -- weighted means of values up to `2 ^ 60` stay there
    simp (disch := omega) only [u64_of_lt, Option.bind_eq_bind, Option.bind_some]
    refine ⟨_, rfl, hconfig, ?_, ?_, ?_, min_le_right _ _⟩
    · dsimp only
      omega
    · dsimp only
      omega
    · exact le_min (hlow ▸ le_max_right _ _) hmax

theorem Estimated.foldlM {samples : List RttSample} (h : policy.Estimated config)
    (hsamples : ∀ sample ∈ samples, sample.rttMs ≤ 2 ^ 60) :
    ∃ policy', samples.foldlM RetransmitPolicy.recordRttSample policy = some policy' ∧ policy'.Estimated config := by
  induction samples generalizing policy with
  | nil => exact ⟨policy, rfl, h⟩
  | cons sample samples ih =>
    obtain ⟨hsample, hsamples⟩ := List.forall_mem_cons.mp hsamples
    obtain ⟨next, hnext, h⟩ := h.recordRttSample hsample
    obtain ⟨last, hlast, h⟩ := ih h hsamples
    exact ⟨last, by rw [List.foldlM_cons, hnext]; exact hlast, h⟩

theorem Estimated.rtoForRetransmit (h : policy.Estimated config) :
    Monotone policy.rtoForRetransmit ∧ ∀ count, policy.rtoForRetransmit count ≤ policy.config.maxRtoMs := by
  have hlow : policy.config.minRtoMs ≤ policy.config.maxRtoMs := by
    have := h.min_le.trans h.le_max
    rwa [h.config] at this ⊢
  have hword : policy.config.maxRtoMs < 2 ^ 64 := by
    have : policy.config.maxRtoMs ≤ maxRtoMillis := h.config ▸ min_le_left _ _
    exact this.trans_lt (by decide)
  have hle (count : Nat) :
      (fun rto => min (min (rto * 2) (2 ^ 64 - 1)) policy.config.maxRtoMs)^[count] policy.currentRtoMs ≤
        policy.config.maxRtoMs := by
    cases count with
    | zero => exact h.le_max
    | succ count =>
      rw [Function.iterate_succ_apply']
      exact min_le_right _ _
  refine ⟨monotone_nat_of_le_succ fun count => max_le_max_right _ ?_, fun count => max_le (hle count) hlow⟩
  rw [Function.iterate_succ_apply']
  have := hle count
  omega

/-- The initial timeout has to fit under half the close timeout. -/
theorem KeepsBounds.closeTimeoutMs (h : KeepsBounds config) : 10000 ≤ config.closeTimeoutMs := by
  obtain ⟨_, ⟨⟩, -, -, -, hle⟩ := h [] (List.forall_mem_nil _)
  have hinitial : 5000 ≤ min maxRtoMillis (config.closeTimeoutMs / 2) := hle 0
  omega

theorem keepsBounds_iff (config : StreamingConfig) : KeepsBounds config ↔ 10000 ≤ config.closeTimeoutMs := by
  constructor
  · exact KeepsBounds.closeTimeoutMs
  · intro hclose samples hsamples
    have hnew : (new (.fromConfig config)).Estimated config := by
      have hhalf : 5000 ≤ config.closeTimeoutMs / 2 := by omega
      exact ⟨rfl, (by decide : 5000 ≤ 2 ^ 60), (by decide : 5000 / 2 ≤ 2 ^ 60), (by decide : 100 ≤ 5000),
        le_min (by decide : 5000 ≤ 60000) hhalf⟩
    obtain ⟨policy, hpolicy, h⟩ := hnew.foldlM hsamples
    obtain ⟨hmono, hle⟩ := h.rtoForRetransmit
    exact ⟨policy, hpolicy, h.min_le, h.le_max.trans (h.config ▸ min_le_left _ _), hmono, h.config ▸ hle⟩

def shortClose : StreamingConfig := { StreamingConfig.balanced with closeTimeoutMs := 100 }

/-- The maximum lies below the minimum: a sample leaves the timeout under 100 ms, and the first retransmission is sent
earlier than the packet was. -/
theorem not_keepsBounds_shortClose : shortClose.tryNew = .ok shortClose ∧ ¬ KeepsBounds shortClose ∧
    ((new (.fromConfig shortClose)).recordRttSample ⟨30, 1, false⟩).map (·.currentRtoMs) = some 50 ∧
    (new (.fromConfig shortClose)).rtoForRetransmit 1 < (new (.fromConfig shortClose)).rtoForRetransmit 0 := by
  exact ⟨by decide, fun h => absurd h.closeTimeoutMs (by decide), by decide, by decide⟩

end RetransmitPolicy

end I2pr

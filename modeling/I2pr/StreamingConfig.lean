import Mathlib

namespace I2pr

def saturatingAdd (a b : Nat) : Nat := min (a + b) (2 ^ 64 - 1)

def maxPacketPayloadBytes : Nat := 2048
def maxInboundPendingStreams : Nat := 64
def maxOutboundPendingStreams : Nat := 64
def maxStreamsPerDestinationLimit : Nat := 256
def maxListenerBacklog : Nat := 64
def maxSendWindowPackets : Nat := 128
def maxRecvWindowPackets : Nat := 128
def maxUnackedPackets : Nat := 256
def maxRetransmitCount : Nat := 16
def maxPreSynBuffer : Nat := 8
def maxDelayedAckMs : Nat := 60000

inductive StreamingConfigError where
  | zeroMaxStreamsPerDestination
  | maxStreamsExceedsLimit (actual maximum : UInt16)
  | zeroMaxInboundPending
  | inboundPendingExceedsLimit (actual maximum : UInt16)
  | zeroMaxOutboundPending
  | outboundPendingExceedsLimit (actual maximum : UInt16)
  | listenerBacklogExceedsLimit (actual maximum : UInt16)
  | zeroSendWindow
  | sendWindowExceedsLimit (actual maximum : UInt16)
  | zeroRecvWindow
  | recvWindowExceedsLimit (actual maximum : UInt16)
  | zeroMaxUnacked
  | unackedExceedsLimit (actual maximum : UInt16)
  | zeroMaxRetransmit
  | retransmitExceedsLimit (actual maximum : UInt8)
  | zeroSetupTimeout
  | zeroIdleTimeout
  | zeroCloseTimeout
  | zeroDelayedAck
  | delayedAckExceedsLimit (actual maximum : Nat)
  | preSynBufferExceedsLimit (actual maximum : UInt16)
deriving DecidableEq, Repr

structure StreamingConfig where
  maxStreamsPerDestination : UInt16
  maxInboundPending : UInt16
  maxOutboundPending : UInt16
  maxListenerBacklog : UInt16
  maxSendWindowPackets : UInt16
  maxRecvWindowPackets : UInt16
  maxUnackedPackets : UInt16
  maxRetransmitCount : UInt8
  setupTimeoutMs : Nat
  idleTimeoutMs : Nat
  closeTimeoutMs : Nat
  delayedAckMs : Nat
  maxPreSynBuffer : UInt16
deriving DecidableEq, Repr

/-- The ceilings in the order in which `try_new` applies them, each with the error it returns. -/
def StreamingConfig.checks (c : StreamingConfig) : List (Bool × StreamingConfigError) :=
  [(c.maxStreamsPerDestination == 0, .zeroMaxStreamsPerDestination),
    (maxStreamsPerDestinationLimit < c.maxStreamsPerDestination.toNat,
      .maxStreamsExceedsLimit c.maxStreamsPerDestination (.ofNat maxStreamsPerDestinationLimit)),
    (c.maxInboundPending == 0, .zeroMaxInboundPending),
    (maxInboundPendingStreams < c.maxInboundPending.toNat,
      .inboundPendingExceedsLimit c.maxInboundPending (.ofNat maxInboundPendingStreams)),
    (c.maxOutboundPending == 0, .zeroMaxOutboundPending),
    (maxOutboundPendingStreams < c.maxOutboundPending.toNat,
      .outboundPendingExceedsLimit c.maxOutboundPending (.ofNat maxOutboundPendingStreams)),
    (I2pr.maxListenerBacklog < c.maxListenerBacklog.toNat,
      .listenerBacklogExceedsLimit c.maxListenerBacklog (.ofNat I2pr.maxListenerBacklog)),
    (c.maxSendWindowPackets == 0, .zeroSendWindow),
    (I2pr.maxSendWindowPackets < c.maxSendWindowPackets.toNat,
      .sendWindowExceedsLimit c.maxSendWindowPackets (.ofNat I2pr.maxSendWindowPackets)),
    (c.maxRecvWindowPackets == 0, .zeroRecvWindow),
    (I2pr.maxRecvWindowPackets < c.maxRecvWindowPackets.toNat,
      .recvWindowExceedsLimit c.maxRecvWindowPackets (.ofNat I2pr.maxRecvWindowPackets)),
    (c.maxUnackedPackets == 0, .zeroMaxUnacked),
    (I2pr.maxUnackedPackets < c.maxUnackedPackets.toNat,
      .unackedExceedsLimit c.maxUnackedPackets (.ofNat I2pr.maxUnackedPackets)),
    (c.maxRetransmitCount == 0, .zeroMaxRetransmit),
    (I2pr.maxRetransmitCount < c.maxRetransmitCount.toNat,
      .retransmitExceedsLimit c.maxRetransmitCount (.ofNat I2pr.maxRetransmitCount)),
    (c.setupTimeoutMs == 0, .zeroSetupTimeout),
    (c.idleTimeoutMs == 0, .zeroIdleTimeout),
    (c.closeTimeoutMs == 0, .zeroCloseTimeout),
    (c.delayedAckMs == 0, .zeroDelayedAck),
    (maxDelayedAckMs < c.delayedAckMs, .delayedAckExceedsLimit c.delayedAckMs maxDelayedAckMs),
    (I2pr.maxPreSynBuffer < c.maxPreSynBuffer.toNat,
      .preSynBufferExceedsLimit c.maxPreSynBuffer (.ofNat I2pr.maxPreSynBuffer))]

def StreamingConfig.tryNew (c : StreamingConfig) : Except StreamingConfigError StreamingConfig :=
  match c.checks.find? (·.1) with
  | some (_, error) => .error error
  | none => .ok c

/-- The `balanced` profile, the default configuration. -/
def StreamingConfig.balanced : StreamingConfig :=
  ⟨64, 32, 32, 16, 64, 64, 128, 8, 30000, 300000, 10000, 750, 4⟩

theorem StreamingConfig.tryNew_eq_ok {c d : StreamingConfig} (h : c.tryNew = .ok d) :
    d = c ∧ ∀ check ∈ c.checks, check.1 = false := by
  unfold StreamingConfig.tryNew at h
  split at h
  · cases h
  next hf => exact ⟨(Except.ok.inj h).symm, by simpa using hf⟩

theorem StreamingConfig.tryNew_windows {c d : StreamingConfig} (h : c.tryNew = .ok d) :
    0 < d.maxRecvWindowPackets.toNat ∧ d.maxRecvWindowPackets.toNat ≤ 128 ∧
      0 < d.maxSendWindowPackets.toNat ∧ d.maxSendWindowPackets.toNat ≤ 128 := by
  obtain ⟨rfl, hc⟩ := StreamingConfig.tryNew_eq_ok h
  have pos : ∀ x : UInt16, (x == 0) = false → 0 < x.toNat := by
    intro x hx
    refine Nat.pos_of_ne_zero fun h0 => ?_
    have : x = 0 := UInt16.toNat_inj.mp (by simpa using h0)
    simp [this] at hx
  have hr := hc (d.maxRecvWindowPackets == 0, .zeroRecvWindow) (by simp [StreamingConfig.checks])
  have hr' := hc (decide (I2pr.maxRecvWindowPackets < d.maxRecvWindowPackets.toNat),
    .recvWindowExceedsLimit d.maxRecvWindowPackets (.ofNat I2pr.maxRecvWindowPackets))
    (by simp [StreamingConfig.checks])
  have hs := hc (d.maxSendWindowPackets == 0, .zeroSendWindow) (by simp [StreamingConfig.checks])
  have hs' := hc (decide (I2pr.maxSendWindowPackets < d.maxSendWindowPackets.toNat),
    .sendWindowExceedsLimit d.maxSendWindowPackets (.ofNat I2pr.maxSendWindowPackets))
    (by simp [StreamingConfig.checks])
  exact ⟨pos _ hr, not_lt.mp (of_decide_eq_false hr'), pos _ hs, not_lt.mp (of_decide_eq_false hs')⟩

example : StreamingConfig.balanced.tryNew = .ok StreamingConfig.balanced := by decide

end I2pr

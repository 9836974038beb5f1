import I2pr.EciesExchange
import I2pr.EciesRefusals

namespace I2pr.Ecies.EciesSessionManager

variable {σ : Type} (c : EciesCrypto) (rng : CryptoRng σ) (m : EciesSessionManager)

/-- The remote on whose session a call sent a message, or which it paired. The receipt of an Existing Session is not
among them: it leaves the time of the last use as it is. -/
def used : ManagerCall σ → Option Key
  | .encryptToRemote secret remote payload nowSeconds s =>
    (m.encryptToRemote c rng secret remote payload nowSeconds s).2.toOption.bind fun sent => sent.1.sentOn remote
  | .sealNewSessionReplyFor secret remote payload nowSeconds s =>
    (m.sealNewSessionReplyFor c rng secret remote payload nowSeconds s).2.toOption.map fun _ => remote
  | .acceptNewSessionReply secret reply nowSeconds =>
    (m.acceptNewSessionReply c secret reply nowSeconds).2.toOption.map (·.remoteStaticPublic)
  | _ => none

/-- What a fresh handshake needs beside room for it. -/
def CanStart (secret remote : Key) (payload : List UInt8) (s : σ) : Prop :=
  ∃ ephemeral s' message sender, EciesEphemeralKeypair.generate c rng s = .ok (ephemeral, s') ∧
    sealBoundNewSession c secret ephemeral remote payload = .ok (message, sender) ∧
      (installReplyTags c m.freeSlot m.config.maxTagLookAhead (sender.replyTagSet c) m.pendingReplyTags).2 = .ok ()

/-- What `encrypt_to_remote` needs beside room for a peer and a handshake. A live session needs a tag it has not
issued; for the other forms the peer's session does not matter. -/
def CanSeal (secret remote : Key) (payload : List UInt8) (nowSeconds : Nat) (s : σ) : Prop :=
  match m.plannedOutboundForm remote nowSeconds with
  | .newSessionReply => ∃ provisional message tagSets s' inbound,
    m.provisionalResponders[remote]? = some provisional ∧
      sealNewSessionReply c rng provisional.responder secret payload s = .ok (message, tagSets, s') ∧
      InboundTagWindow.new c tagSets.inbound m.config.maxTagLookAhead = .ok inbound
  | .existingSession => payload.length ≤ maxNewSessionCiphertext ∧
    ∀ session ∈ m.sessions[remote]?, session.outbound.nextIndex < maxTagSetIndex - 1
  | .boundNewSession => m.CanStart c rng secret remote payload s

def AllSending : Prop :=
  ∀ remote : Key, ∀ session ∈ m.sessions[remote]?, ∃ root n, Sending c root session.outbound n

theorem step_used (call : ManagerCall σ) : m.Used c call.time (m.used c rng call) (m.step c rng call) := by
  cases call with
  | encryptToRemote => exact (encryptToRemote_touched rfl).toUsed
  | sealNewSessionReplyFor => exact (sealNewSessionReplyFor_touched rfl).toUsed
  | acceptNewSession =>
    simp only [step, acceptNewSession]
    repeat' split
    all_goals exact ⟨fun _ => .kept, by simp [used]⟩
  | acceptNewSessionReply => exact (acceptNewSessionReply_touched rfl).toUsed
  | acceptExistingSession => exact acceptExistingSession_touched.toUsed
  | dropProvisionalResponder => exact ⟨fun _ => .kept, by simp [used]⟩
  | advanceTime nowSeconds =>
    refine ⟨fun remote => ?_, by simp [used]⟩
    simp only [step, advanceTime, Std.ExtTreeMap.getElem?_filter]
    cases m.sessions[remote]? with
    | none => exact .kept
    | some session =>
      rw [Option.pfilter_some]
      split
      · exact .kept
      next hidle => exact .expired rfl (Nat.not_le.mp fun hlive => hidle (decide_eq_true hlive))

variable {c rng m}

section Step

variable {idleSeconds : Nat} {time : Option Nat} {before after : Option PairedSession} {session : PairedSession}

theorem SessionStep.lasts (h : SessionStep c idleSeconds time (some session) after)
    (hlive : ∀ nowSeconds ∈ time, nowSeconds - session.lastUsedSeconds ≤ idleSeconds) :
    ∃ session', after = some session' ∧
      (session'.lastUsedSeconds = session.lastUsedSeconds ∨ session'.lastUsedSeconds ∈ time) := by
  cases h with
  | kept | received => exact ⟨_, rfl, .inl rfl⟩
  | paired _ hnow | sealed hnow => exact ⟨_, rfl, .inr hnow⟩
  | expired hnow hidle => exact absurd (hlive _ hnow) (Nat.not_le.mpr hidle)

theorem SessionStep.sending (h : SessionStep c idleSeconds time before (some session))
    (hsending : ∀ earlier ∈ before, ∃ root n, Sending c root earlier.outbound n) :
    ∃ root n, Sending c root session.outbound n := by
  cases h with
  | kept => exact hsending _ rfl
  | paired hfresh => exact ⟨_, 0, .fresh hfresh⟩
  | @sealed session payload =>
    obtain ⟨root, n, hsent⟩ := hsending _ rfl
    cases hseal : sealExistingSession c session.outbound payload with
    | mk outbound answer =>
      obtain ⟨-, hsent', -⟩ | ⟨-, rfl, -⟩ := hsent.sealed hseal
      · exact ⟨root, n + 1, hsent'⟩
      · exact ⟨root, n, hsent⟩
  | received =>
    obtain ⟨root, n, hsent⟩ := hsending _ rfl
    exact ⟨root, n, hsent⟩

end Step

theorem run_allSending (hsending : m.AllSending c) (calls : List (ManagerCall σ)) :
    (m.run c rng calls).AllSending c := by
  induction calls generalizing m with
  | nil => exact hsending
  | cons call rest ih =>
    refine ih fun remote session hsession => ?_
    have hstep := (m.step_used c rng call).sessions remote
    rw [hsession] at hstep
    exact hstep.sending (hsending remote)

theorem run_config (calls : List (ManagerCall σ)) : (m.run c rng calls).config = m.config := by
  induction calls generalizing m with
  | nil => rfl
  | cons call rest ih => exact ih.trans (step_cache c rng m call).1

/-- A session stays while the calls come between `since` and the time it would be idle if last used then. -/
theorem run_lasts {since : Nat} {calls : List (ManagerCall σ)} {remote : Key} {session : PairedSession}
    (hsession : m.sessions[remote]? = some session) (hsince : since ≤ session.lastUsedSeconds)
    (htimes : ∀ call ∈ calls, ∀ nowSeconds ∈ call.time,
      since ≤ nowSeconds ∧ nowSeconds ≤ since + m.config.idleSeconds) :
    remote ∈ (m.run c rng calls).sessions := by
  induction calls generalizing m session with
  | nil => exact TreeMap.mem_of_getElem? hsession
  | cons call rest ih =>
    have hcall := htimes call List.mem_cons_self
    have hstep := (m.step_used c rng call).sessions remote
    rw [hsession] at hstep
    obtain ⟨session', hsession', hlast⟩ := hstep.lasts fun nowSeconds hnow => by
      have := hcall nowSeconds hnow
      omega
    refine ih hsession' ?_ ?_
    · rcases hlast with hsame | hnow
      · rwa [hsame]
      · exact (hcall _ hnow).1
    · rw [(step_cache c rng m call).1]
      exact fun later hlater => htimes later (List.mem_cons_of_mem _ hlater)

section Encrypt

variable {secret remote : Key} {payload : List UInt8} {nowSeconds : Nat} {s : σ}

theorem startNewSession_ok_iff (hpending : m.pendingHandshakeCount < m.config.maxPendingHandshakes)
    (hpeers : m.sessions.size < m.config.maxPeers) :
    (∃ sent, (m.startNewSession c rng secret remote payload nowSeconds s).2 = .ok sent) ↔
      m.CanStart c rng secret remote payload s := by
  rw [startNewSession, if_neg (by omega), if_neg (by omega), CanStart]
  cases EciesEphemeralKeypair.generate c rng s with
  | error e => simp
  | ok drawn =>
    obtain ⟨ephemeral, s'⟩ := drawn
    cases hseal : sealBoundNewSession c secret ephemeral remote payload with
    | error e => simp [hseal]
    | ok sealed =>
      obtain ⟨message, sender⟩ := sealed
      rcases hinstall : installReplyTags c m.freeSlot m.config.maxTagLookAhead (sender.replyTagSet c)
        m.pendingReplyTags with ⟨tags, _ | _⟩ <;> simp [hseal, installPending, hinstall]

theorem encryptToRemote_ok_iff (hsending : m.AllSending c)
    (hpending : m.pendingHandshakeCount < m.config.maxPendingHandshakes) (hpeers : m.sessions.size < m.config.maxPeers) :
    (∃ sent, (m.encryptToRemote c rng secret remote payload nowSeconds s).2 = .ok sent) ↔
      m.CanSeal c rng secret remote payload nowSeconds s := by
  unfold encryptToRemote CanSeal plannedOutboundForm
  by_cases hprovisional : m.provisionalResponders.contains remote = true
  · rw [if_pos hprovisional, if_pos hprovisional, sealNewSessionReplyFor, if_neg (by simp; omega)]
    cases hget : m.provisionalResponders[remote]? with
    | none => simp
    | some provisional =>
      cases hseal : sealNewSessionReply c rng provisional.responder secret payload s with
      | error e => simp [hseal]
      | ok sealed =>
        obtain ⟨message, tagSets, s'⟩ := sealed
        cases hinbound : InboundTagWindow.new c tagSets.inbound m.config.maxTagLookAhead <;> simp [hseal, hinbound]
  rw [if_neg hprovisional, if_neg hprovisional]
  cases hsession : m.sessions[remote]? with
  | none => exact startNewSession_ok_iff hpending hpeers
  | some session =>
    by_cases hlive : nowSeconds - session.lastUsedSeconds ≤ m.config.idleSeconds
    · obtain ⟨root, n, hsent⟩ := hsending _ _ hsession
      have hnext := hsent.nextIndex
      simp only [if_pos hlive, Option.mem_some, forall_eq', hnext]
      cases hseal : sealExistingSession c session.outbound payload with
      | mk outbound answer =>
        obtain ⟨rfl, -, hroom, hsize⟩ | ⟨⟨e, rfl⟩, rfl, hfull⟩ := hsent.sealed hseal
        · exact iff_of_true ⟨_, rfl⟩ ⟨hsize, hroom⟩
        · exact iff_of_false nofun fun ⟨hsize, hroom⟩ => absurd (hfull hsize) (Nat.not_le.mpr hroom)
    · simp only [if_neg hlive]
      exact startNewSession_ok_iff (m := { m with sessions := m.sessions.erase remote }) hpending
        (lt_of_le_of_lt Std.ExtTreeMap.size_erase_le hpeers)

end Encrypt

def samplePaired : List (ManagerCall Nat) :=
  [.acceptNewSession (sampleSecret 2) (samplePublic 2) sampleNewSession 0,
    .sealNewSessionReplyFor (sampleSecret 2) (samplePublic 1) [6] 0 8, .advanceTime 500]

/-- A message of the initiator's paired session. -/
def sampleExisting : ExistingSessionMessage :=
  match ((sampleInitiator.acceptNewSessionReply .plain (sampleSecret 1) sampleReply 1).1.encryptToRemote .plain
    countingRng (sampleSecret 1) (samplePublic 2) [7] 1 9).2 with
  | .ok (.existing message, _) => message
  | _ => ⟨.replicate 8 0, []⟩

end I2pr.Ecies.EciesSessionManager

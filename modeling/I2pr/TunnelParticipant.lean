import I2pr.TunnelEndpoints

namespace I2pr

/-- The errors of a tunnel role that its participants return. -/
inductive TunnelParticipantError where
  | tunnelUnavailable
  | duplicateCell
  | receiveTunnelMismatch (actual expected : TunnelId)
  | previousPeerMismatch
  | duplicateWindow (error : DuplicateWindowError)
  | zeroTunnelId
  | missingNextHop

structure EstablishedNextHop where
  router : Hash
  tunnel : TunnelId

structure ParticipantState where
  receiveTunnel : TunnelId
  next : EstablishedNextHop
  layerKeys : LayerKeys
  lockedPreviousPeer : Option Hash
  duplicates : DuplicateWindow
  expiresAtMs : Nat

namespace ParticipantState

/-- `next` is the next hop that the established hop carries, if it does. -/
def new (hop : EstablishedHop) (next : Option EstablishedNextHop) (duplicates : DuplicateWindow) (expiresAtMs : Nat) :
    Except TunnelParticipantError ParticipantState :=
  match next with
  | none => .error .missingNextHop
  | some next => .ok ⟨hop.receiveTunnel, next, hop.layerKeys, none, duplicates, expiresAtMs⟩

/-- The arguments of a call of `process`. -/
structure Arrival where
  previousPeer : Hash
  cell : TunnelDataMessage
  nowMs : Nat

def Arrival.token (arrival : Arrival) : DuplicateToken := .compute (splitCell arrival.cell)

variable (cipher : TunnelCipher) (state : ParticipantState)

/-- The checks of `process` up to the previous peer, before anything changes. -/
def precheck (arrival : Arrival) : Except TunnelParticipantError Unit :=
  if state.expiresAtMs ≤ arrival.nowMs then .error .tunnelUnavailable
  else if hzero : arrival.cell.tunnelId = 0 then .error .zeroTunnelId
  else if (⟨arrival.cell.tunnelId, hzero⟩ : TunnelId) ≠ state.receiveTunnel then
    .error (.receiveTunnelMismatch ⟨arrival.cell.tunnelId, hzero⟩ state.receiveTunnel)
  else if state.lockedPreviousPeer.any (· ≠ arrival.previousPeer) then .error .previousPeerMismatch
  else .ok ()

/-- The previous peer stays locked whatever the window answers. -/
def process (arrival : Arrival) : ParticipantState × Except TunnelParticipantError TunnelDataMessage :=
  match state.precheck arrival with
  | .error error => (state, .error error)
  | .ok () =>
    let state := { state with lockedPreviousPeer := some arrival.previousPeer }
    match state.duplicates.observe arrival.token with
    | (duplicates, .error error) => ({ state with duplicates }, .error (.duplicateWindow error))
    | (duplicates, .ok false) => ({ state with duplicates }, .error .duplicateCell)
    | (duplicates, .ok true) => ({ state with duplicates },
      .ok (joinCell state.next.tunnel.value (participantForward cipher state.layerKeys (splitCell arrival.cell))))

def forwarded (state : ParticipantState) : List Arrival → List Arrival
  | [] => []
  | arrival :: arrivals =>
    match state.process cipher arrival with
    | (state, .ok _) => arrival :: forwarded state arrivals
    | (state, .error _) => forwarded state arrivals

variable {state} {arrival : Arrival}

theorem precheck_eq_ok (h : state.precheck arrival = .ok ()) :
    arrival.nowMs < state.expiresAtMs ∧ arrival.cell.tunnelId = state.receiveTunnel.value ∧
      ∀ peer, state.lockedPreviousPeer = some peer → peer = arrival.previousPeer := by
  obtain ⟨hlive, h⟩ := Fallible.ite_error_eq_ok.mp h
  split at h
  · cases h
  next hzero =>
    obtain ⟨haddressed, h⟩ := Fallible.ite_error_eq_ok.mp h
    obtain ⟨hpeer, -⟩ := Fallible.ite_error_eq_ok.mp h
    refine ⟨Nat.not_le.mp hlive, congrArg TunnelId.value (not_not.mp haddressed), ?_⟩
    intro peer hsome
    rw [hsome] at hpeer
    exact not_not.mp fun hne => hpeer (decide_eq_true hne)

/-- What the cells that are forwarded from a state on have in common. -/
structure Safe (state : ParticipantState) (arrivals : List Arrival) : Prop where
  onePeer : ∃ peer, (∀ locked, state.lockedPreviousPeer = some locked → locked = peer) ∧
    ∀ arrival ∈ arrivals, arrival.previousPeer = peer
  admitted : ∀ arrival ∈ arrivals, arrival.cell.tunnelId = state.receiveTunnel.value ∧ arrival.nowMs < state.expiresAtMs
  tokens : (arrivals.map Arrival.token).Nodup
  fresh : ∀ arrival ∈ arrivals, arrival.token ∉ state.duplicates.tokens
  bounded : state.duplicates.tokens.card + arrivals.length ≤ state.duplicates.capacity

theorem Safe.of_locked {arrivals : List Arrival} (hchecked : state.precheck arrival = .ok ())
    (h : { state with lockedPreviousPeer := some arrival.previousPeer }.Safe arrivals) : state.Safe arrivals := by
  obtain ⟨peer, hpeer, hpeers⟩ := h.onePeer
  refine ⟨⟨peer, ?_, hpeers⟩, h.admitted, h.tokens, h.fresh, h.bounded⟩
  intro locked hlocked
  exact ((precheck_eq_ok hchecked).2.2 locked hlocked).trans (hpeer _ rfl)

theorem Safe.cons {arrivals : List Arrival} (hchecked : state.precheck arrival = .ok ())
    (hfresh : arrival.token ∉ state.duplicates.tokens) (h : { state with
      lockedPreviousPeer := some arrival.previousPeer
      duplicates := { state.duplicates with tokens := insert arrival.token state.duplicates.tokens } }.Safe arrivals) :
    state.Safe (arrival :: arrivals) := by
  obtain ⟨hlive, haddressed, hlocked⟩ := precheck_eq_ok hchecked
  obtain ⟨peer, hpeer, hpeers⟩ := h.onePeer
  have hothers : ∀ other ∈ arrivals, other.token ≠ arrival.token ∧ other.token ∉ state.duplicates.tokens := by
    intro other hother
    have hnot := h.fresh other hother
    rwa [Finset.mem_insert, not_or] at hnot
  refine ⟨⟨peer, ?_, List.forall_mem_cons.mpr ⟨hpeer _ rfl, hpeers⟩⟩,
    List.forall_mem_cons.mpr ⟨⟨haddressed, hlive⟩, h.admitted⟩, List.nodup_cons.mpr ⟨?_, h.tokens⟩,
    List.forall_mem_cons.mpr ⟨hfresh, fun other hother => (hothers other hother).2⟩, ?_⟩
  · intro locked hsome
    exact (hlocked locked hsome).trans (hpeer _ rfl)
  · intro hmem
    obtain ⟨other, hother, htoken⟩ := List.mem_map.mp hmem
    exact (hothers other hother).1 htoken
  · have hbounded : (insert arrival.token state.duplicates.tokens).card + arrivals.length ≤ state.duplicates.capacity :=
      h.bounded
    rw [Finset.card_insert_of_notMem hfresh] at hbounded
    rw [List.length_cons]
    omega

theorem forwarded_safe (arrivals : List Arrival) (hroom : state.duplicates.tokens.card ≤ state.duplicates.capacity) :
    state.Safe (forwarded cipher state arrivals) := by
  induction arrivals generalizing state with
  | nil =>
    refine ⟨⟨state.lockedPreviousPeer.getD zeroRouter, ?_, by simp [forwarded]⟩, by simp [forwarded], .nil,
      by simp [forwarded], hroom⟩
    intro locked hlocked
    rw [hlocked, Option.getD_some]
  | cons arrival arrivals ih =>
    rw [forwarded, process]
    cases hchecked : state.precheck arrival with
    | error error => exact ih hroom
    | ok =>
      dsimp only
      by_cases hseen : arrival.token ∈ state.duplicates.tokens
      · rw [DuplicateWindow.observe, if_pos hseen]
        exact Safe.of_locked hchecked (ih (by exact hroom))
      by_cases hfull : state.duplicates.capacity ≤ state.duplicates.tokens.card
      · rw [DuplicateWindow.observe, if_neg hseen, if_pos hfull]
        exact Safe.of_locked hchecked (ih (by exact hroom))
      rw [DuplicateWindow.observe, if_neg hseen, if_neg hfull]
      refine Safe.cons hchecked hseen (ih ?_)
      rw [Finset.card_insert_of_notMem hseen]
      exact Nat.not_le.mp hfull

/-- In every run from a fresh state the cells forwarded come from one peer, are addressed to the receive tunnel, come
before the expiry, and are told apart by their tokens; so none is forwarded twice, and the window bounds their number. -/
theorem forwarded_of_fresh {hop : EstablishedHop} {next : Option EstablishedNextHop} {capacity expiresAtMs : Nat}
    (hnew : new hop next (.new capacity) expiresAtMs = .ok state) (arrivals : List Arrival) :
    (∃ peer, ∀ arrival ∈ forwarded cipher state arrivals, arrival.previousPeer = peer) ∧
      (∀ arrival ∈ forwarded cipher state arrivals, arrival.cell.tunnelId = hop.receiveTunnel.value ∧
        arrival.nowMs < expiresAtMs) ∧
      ((forwarded cipher state arrivals).map Arrival.token).Nodup ∧
      ((forwarded cipher state arrivals).map Arrival.cell).Nodup ∧
      (forwarded cipher state arrivals).length ≤ (DuplicateWindow.new capacity).capacity := by
  cases next with
  | none => cases hnew
  | some next =>
    cases hnew
    have h := @forwarded_safe cipher ⟨hop.receiveTunnel, next, hop.layerKeys, none, .new capacity, expiresAtMs⟩ arrivals
      (Nat.zero_le _)
    obtain ⟨peer, -, hpeers⟩ := h.onePeer
    refine ⟨⟨peer, hpeers⟩, h.admitted, h.tokens, ?_, (Nat.zero_add _).symm.le.trans h.bounded⟩
    refine List.Nodup.of_map (fun cell => DuplicateToken.compute (splitCell cell)) ?_
    rw [List.map_map]
    exact h.tokens

def sampleHop : EstablishedHop := ⟨.replicate 32 1, ⟨5, five_ne⟩, ⟨.replicate 32 3, .replicate 32 4⟩⟩

def sampleArrival : Arrival := ⟨.replicate 32 9, joinCell 5 (.replicate 16 1, .replicate 1008 2), 0⟩

theorem forwarded_of_fresh_replayed :
    ∃ state, new sampleHop (some ⟨.replicate 32 2, ⟨6, by decide⟩⟩) (.new 8) 100 = .ok state ∧
      ((forwarded OutboundGatewayRole.shiftCipher state [sampleArrival, sampleArrival]).map Arrival.cell).Nodup := by
  have hnew : new sampleHop (some ⟨.replicate 32 2, ⟨6, by decide⟩⟩) (.new 8) 100 = .ok _ := rfl
  exact ⟨_, hnew, (forwarded_of_fresh OutboundGatewayRole.shiftCipher hnew _).2.2.2.1⟩

end ParticipantState

end I2pr

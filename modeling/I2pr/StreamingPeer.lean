import I2pr.StreamingSafety

namespace I2pr

open Call

variable {D : Type}

namespace StreamingConnection

theorem takePacket_state (conn : StreamingConnection D) (packet : StreamingPacket D) (nowMs : Nat) :
    (conn.takePacket packet nowMs).1.state = conn.state := by
  obtain ⟨_, _, _, _, heq⟩ := conn.takePacket_eq packet nowMs
  rw [heq]

theorem applyControl_state {conn : StreamingConnection D} (h : conn.state = .outboundSynSent)
    (packet : StreamingPacket D) (nowMs : Nat) : (conn.applyControl packet nowMs).state ≠ .established := by
  have hclose : (if packet.flags.close then conn.applyClose nowMs else conn) = conn := by
    split
    · rw [applyClose, h]
    · rfl
  rw [applyControl, hclose]
  split
  · rw [reset, if_neg (by rw [h]; decide)]
    simp [orSame]
  · rw [h]
    decide

end StreamingConnection

namespace StreamingManager

/-- No outbound connection has completed its handshake. -/
def Quiet (m m' : StreamingManager D) : Prop :=
  ∀ (id : ConnectionId) (conn conn' : StreamingConnection D), m.connections[id]? = some conn →
    conn.state = .outboundSynSent → m'.connections[id]? = some conn' → conn'.state ≠ .established

variable {m m' : StreamingManager D}

theorem quiet_of_eq (h : m'.connections = m.connections) : m.Quiet m' := by
  intro id conn conn' hconn hstate hconn'
  rw [h, hconn] at hconn'
  cases hconn'
  rw [hstate]
  decide

theorem quiet_setConnection {id : ConnectionId} {replaced : StreamingConnection D}
    (h : m'.connections = (m.setConnection id replaced).connections)
    (hstate : ∀ conn, m.connections[id]? = some conn → conn.state = .outboundSynSent → replaced.state ≠ .established) :
    m.Quiet m' := by
  intro k conn conn' hconn hsent hconn'
  rw [h, getElem?_setConnection] at hconn'
  split at hconn'
  next heq =>
    cases hconn'
    exact hstate conn (heq ▸ hconn) hsent
  · rw [hconn] at hconn'
    cases hconn'
    rw [hsent]
    decide

variable {prim : StreamingPrimitives D} {wireBytes : List UInt8}

/-- A packet completes a handshake only with a signature under the key of its own FROM destination. -/
theorem Change.quiet_or_verified
    {fromDestinationHash : DestinationHash} {toDestination : DestinationIdentity D} {sourcePort destinationPort : UInt16}
    {nowMs : Nat}
    (h : Change prim m (.call (.processInboundPacket wireBytes fromDestinationHash toDestination sourcePort destinationPort
      nowMs)) m') :
    m.Quiet m' ∨ ∃ packet location destination, decodeHandshake prim wireBytes = .ok (packet, location) ∧
      verifyFrom prim packet location wireBytes = .ok destination := by
  cases h with
  | counted => exact .inl (quiet_of_eq rfl)
  | entered _ _ hbytes hsyn | refused _ _ hbytes hsyn =>
    cases hbytes
    obtain ⟨_, location, _, _, hdecode, hverified⟩ := hsyn
    exact .inr ⟨_, location, _, hdecode, hverified⟩
  | answered hbytes hdecode hverified =>
    cases hbytes
    exact .inr ⟨_, _, _, hdecode, hverified⟩
  | @took _ _ packet id conn nowMs _ hdata =>
    obtain ⟨_, _, _, _, _, hconn, _⟩ := hdata
    obtain ⟨_, heq, -⟩ := m.takeData_eq packet id conn nowMs
    rw [heq]
    refine .inl (quiet_setConnection rfl fun found hfound hsent => ?_)
    obtain rfl : conn = found := Option.some.inj (hconn.symm.trans hfound)
    rw [StreamingConnection.takePacket_state]
    exact StreamingConnection.applyControl_state hsent packet nowMs

def fromKey (prim : StreamingPrimitives D) (wireBytes : List UInt8) : Option SigningPublicKey :=
  match decodeHandshake prim wireBytes with
  | .ok (packet, _) => packet.options.fromDestination.map prim.signingKey
  | .error _ => none

def signedUnder (prim : StreamingPrimitives D) (key : SigningPublicKey) (wireBytes : List UInt8) : Bool :=
  match decodeHandshake prim wireBytes with
  | .ok (packet, some location) =>
    match packet.options.signature.bind (SignatureValue.new key.keyType) with
    | some value => prim.verifySignature key (buildSignaturePreimage wireBytes location) value
    | none => false
  | _ => false

theorem signedUnder_of_verifyFrom {packet : StreamingPacket D}
    {signatureLocation : Option SignatureLocation} {destination : D} {key : SigningPublicKey}
    (hdecode : decodeHandshake prim wireBytes = .ok (packet, signatureLocation))
    (hverified : verifyFrom prim packet signatureLocation wireBytes = .ok destination)
    (hkey : fromKey prim wireBytes = some key) : signedUnder prim key wireBytes = true := by
  unfold fromKey at hkey
  rw [hdecode] at hkey
  obtain ⟨sender, hsender, rfl⟩ := Option.map_eq_some_iff.mp hkey
  unfold verifyFrom at hverified
  rw [hsender] at hverified
  dsimp only at hverified
  unfold signedUnder
  rw [hdecode]
  rcases signatureLocation with - | location
  · cases hverified
  · rcases hsignature : packet.options.signature with - | signature
    · rw [hsignature] at hverified
      cases hverified
    · rw [hsignature] at hverified
      dsimp only at hverified ⊢
      rw [hsignature, Option.bind_some]
      rcases hvalue : SignatureValue.new (prim.signingKey sender).keyType signature with - | value
      · rw [hvalue] at hverified
        cases hverified
      · rw [hvalue] at hverified
        dsimp only at hverified ⊢
        split at hverified
        next hvalid => exact hvalid
        · cases hverified

/-- An outbound handshake completed by a packet whose FROM has the key of the peer is signed by the peer `connect` was
given. -/
theorem established_signedUnder {prim : StreamingPrimitives D} {config : StreamingConfig} {m m' : StreamingManager D}
    {opened : ConnectionId → Option SigningPublicKey} (h : Reachable prim config m opened) {id : ConnectionId}
    {conn conn' : StreamingConnection D} (hconn : m.connections[id]? = some conn) (hout : conn.direction = .outbound)
    (hsent : conn.state = .outboundSynSent) {wireBytes : List UInt8} {fromDestinationHash : DestinationHash}
    {toDestination : DestinationIdentity D} {sourcePort destinationPort : UInt16} {nowMs : Nat}
    {r : Except StreamingManagerError WirePacketObservation}
    (hrun : processInboundPacket prim wireBytes fromDestinationHash toDestination sourcePort destinationPort nowMs m =
      some (r, m'))
    (hconn' : m'.connections[id]? = some conn') (hestablished : conn'.state = .established)
    (hfrom : fromKey prim wireBytes = some conn.peerSigningKey) :
    ∃ key, opened id = some key ∧ conn.peerSigningKey = key ∧ signedUnder prim key wireBytes = true := by
  refine ⟨conn.peerSigningKey, h.invariant.peer id conn hconn hout, rfl, ?_⟩
  have hout : Outcome prim m (.call (.processInboundPacket wireBytes fromDestinationHash toDestination sourcePort
    destinationPort nowMs)) r m' := processInboundPacket_outcome rfl r m' hrun
  obtain ⟨changed, hchange, htidies⟩ := hout.change
  rcases hchange.quiet_or_verified with hquiet | ⟨packet, location, destination, hdecode, hverified⟩
  · exact absurd hestablished (hquiet id conn conn' hconn hsent (htidies.connections ▸ hconn'))
  · exact signedUnder_of_verifyFrom hdecode hverified hfrom

set_option maxRecDepth 4000 in
/-- The answer of the destination the stream was opened to. -/
theorem established_sampleResponse :
    ∃ key, afterConnect (fun _ => none) (sampleRemote true) (.ok (.synSent 1 0 0x80000000)) 1 = some key ∧
      signedUnder samplePrimitives key (sampleResponse true 9) = true := by
  have hsent : Reachable samplePrimitives .balanced _ _ :=
    .connect (sampleIdentity false) (sampleRemote true) 0 0 1812 [] 0 .new rfl
  obtain ⟨key, hopened, -, hsigned⟩ :=
    @established_signedUnder _ _ _ _ _ _ hsent 1 _ _ rfl rfl rfl (sampleResponse true 9) (.replicate 32 0)
      (sampleIdentity false) 0 0 0 _ rfl rfl rfl rfl
  exact ⟨key, hopened, hsigned⟩

set_option maxRecDepth 4000 in
theorem established_not_signedUnder :
    ∃ (m m' : StreamingManager Bool) (opened : ConnectionId → Option SigningPublicKey) (conn conn' : StreamingConnection Bool)
      (r : WirePacketObservation), Reachable samplePrimitives .balanced m opened ∧
      m.connections[(1 : ConnectionId)]? = some conn ∧ conn.direction = .outbound ∧ conn.state = .outboundSynSent ∧
      sampleProcess (sampleResponse false 9) m = some (.ok r, m') ∧
      m'.connections[(1 : ConnectionId)]? = some conn' ∧ conn'.state = .established ∧
      opened 1 = some (sampleKey true) ∧ conn.peerSigningKey = sampleKey true ∧
      signedUnder samplePrimitives (sampleKey true) (sampleResponse false 9) = false := by
  have hsent : Reachable samplePrimitives .balanced _ _ :=
    .connect (sampleIdentity false) (sampleRemote true) 0 0 1812 [] 0 .new rfl
  exact ⟨_, _, _, _, _, _, hsent, rfl, rfl, rfl, rfl, rfl, rfl, rfl, rfl, by decide +kernel⟩

end StreamingManager

end I2pr

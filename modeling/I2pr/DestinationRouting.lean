import I2pr.EciesReplay
import I2pr.I2npEnvelope

namespace I2pr

open Ecies

structure RngCore (σ : Type) extends CryptoRng σ where
  nextU32 : σ → UInt32 × σ

def maxLeaseSafetyMarginSeconds : Nat := 600
def maxBundledDataCloves : Nat := 4

structure SelectedLease where
  destinationHash : Hash
  gatewayRouterHash : Hash
  tunnelId : UInt32
  leaseExpirationSeconds : UInt32
  leaseSet2PublishedSeconds : UInt32
deriving DecidableEq

inductive LeaseSelectionError where
  | noUsableLeases
  | zeroTunnelId
  | destinationMismatch
deriving DecidableEq, Repr

inductive RoutingSessionError where
  | pendingHandshakeCapacity (maximum : Nat)
  | protocol (message : String)
deriving DecidableEq, Repr

inductive SendError where
  | leaseSet2LookupPending
  | noUsableLease (e : LeaseSelectionError)
  | session (e : RoutingSessionError)
  | payload (e : CodecError)
  | dataCodec (e : CodecError)
  | tunnelRole (e : TunnelRoleError)
  | missingBundledLeaseSet2
deriving DecidableEq, Repr

inductive BundleError where
  | policyDisabled
  | emptyBundle
  | tooManyCloves (actual maximum : Nat)
  | bundleOversize (actual maximum : Nat)
  | formNotBundlable (planned : String)
  | composition (e : SendError)
deriving DecidableEq, Repr

structure ReplyBundling where
  enabled : Bool
  maxCloves : Nat

def ReplyBundling.disabledPolicy : ReplyBundling := ⟨false, 1⟩
def ReplyBundling.enabledPolicy : ReplyBundling := ⟨true, maxBundledDataCloves⟩

def leaseUsable (lease : Lease2) (safetyMarginSeconds nowSeconds : Nat) : Bool :=
  if lease.tunnelId = 0 then false
  else if lease.endDate.toNat ≤ nowSeconds then false
  else nowSeconds < lease.endDate.toNat - safetyMarginSeconds

section Selection

variable {σ : Type} (rng : RngCore σ)

def selectWithRng (ls2 : LeaseSet2) (destinationHash : Hash) (safetyMarginSeconds nowSeconds : Nat) (s : σ) :
    Except LeaseSelectionError (SelectedLease × σ) :=
  match ls2.destinationHash with
  | .error _ => .error .destinationMismatch
  | .ok hash =>
    if hash ≠ destinationHash then .error .destinationMismatch
    else
      match ls2.leases.filter (leaseUsable · safetyMarginSeconds nowSeconds) with
      | [] => .error .noUsableLeases
      | first :: rest =>
        let (lease, s) := if rest.isEmpty then (first, s)
          else let (word, s) := rng.nextU32 s
            ((first :: rest).getD (word.toNat % (rest.length + 1)) first, s)
        if lease.tunnelId = 0 then .error .zeroTunnelId
        else .ok (⟨hash, lease.tunnelGateway, lease.tunnelId, lease.endDate, ls2.publishedSeconds⟩, s)

end Selection

structure RemoteState where
  validated : LeaseSet2
  staticPublic : Key

/-- The part of the routing state the composers read. -/
structure DestinationRouting where
  leaseSafetyMarginSeconds : Nat
  activeRemotes : Std.ExtTreeMap Hash RemoteState

namespace DestinationRouting

def remoteStaticPublicKey (routing : DestinationRouting) (remote : Hash) : Except SendError Key :=
  match routing.activeRemotes[remote]? with
  | none => .error .leaseSet2LookupPending
  | some state => .ok state.staticPublic

def selectLease {σ : Type} (rng : RngCore σ) (routing : DestinationRouting) (remote : Hash) (nowSeconds : Nat) (s : σ) :
    Except SendError (SelectedLease × σ) :=
  match routing.activeRemotes[remote]? with
  | none => .error .leaseSet2LookupPending
  | some state =>
    if maxLeaseSafetyMarginSeconds < routing.leaseSafetyMarginSeconds then .error (.noUsableLease .zeroTunnelId)
    else (selectWithRng rng state.validated remote routing.leaseSafetyMarginSeconds nowSeconds s).mapError .noUsableLease

end DestinationRouting

structure OutboundRequest where
  innerEnvelope : I2npMessage
  bundledLeaseSet2 : Option LeaseSet2

inductive EncryptedOutbound where
  | newSession (message : List UInt8)
  | newSessionReply (message : List UInt8)
  | existing (message : List UInt8)
deriving DecidableEq

def EncryptedOutbound.messageBytes : EncryptedOutbound → List UInt8
  | .newSession message | .newSessionReply message | .existing message => message

structure OutboundDeliveryPlan where
  selectedLease : SelectedLease
  innerEnvelopeBytes : List UInt8
  encryptedMessage : EncryptedOutbound
  garlicI2npBytes : List UInt8
  cells : List OBGWRouterDelivery
deriving DecidableEq

def formNameOfPlanned : PlannedOutboundForm → String
  | .boundNewSession => "new-session"
  | .newSessionReply => "new-session-reply"
  | .existingSession => "existing-session"

def mapSessionError : EciesSessionError → SendError
  | .ecies _ => .session (.protocol "ECIES primitive error")
  | .pendingHandshakeCapacity maximum => .session (.pendingHandshakeCapacity maximum)
  | .peerCapacity maximum => .session (.pendingHandshakeCapacity maximum)
  | .noPendingHandshake | .noProvisionalResponder | .unknownSessionTag | .duplicateNewSession =>
    .session (.protocol "ECIES session state violation")
  | .replyTagCollision => .session (.protocol "reply-window tag collision across pending handshakes")

/-- An encoding past the ceiling is replaced by no bytes at all. -/
def boundedBytes (bytes : List UInt8) : List UInt8 :=
  if maxI2npPayloadSize < bytes.length then [] else bytes

def encodeEncryptedOutbound : EciesOutboundMessage → EncryptedOutbound
  | .newSession message => .newSession (boundedBytes message.encode)
  | .newSessionReply message => .newSessionReply (boundedBytes message.encode)
  | .existing message => .existing (boundedBytes message.encode)

def buildGarlicEnvelope (encryptedBytes : List UInt8) (messageId : UInt32) (expirationMs : UInt64) :
    Except SendError I2npMessage :=
  if maxI2npPayloadSize < encryptedBytes.length then
    .error (.dataCodec (.lengthExceeded 0 encryptedBytes.length maxI2npPayloadSize "deferred I2NP payload"))
  else (I2npMessage.newStandard messageId expirationMs (.garlic encryptedBytes)).mapError .dataCodec

def dataCloveFor (remoteHash : Hash) (request : OutboundRequest) :
    Except SendError (GarlicCloveBlock × List UInt8) := do
  let innerEnvelopeBytes ←
    (request.innerEnvelope.encodeShortTransportToVec maxI2npPayloadSize).mapError .dataCodec
  .ok (⟨.destination remoteHash, innerEnvelopeBytes⟩, innerEnvelopeBytes)

def encodeDatabaseStoreClove (ls2 : LeaseSet2) : Except SendError (List UInt8) := do
  let key ← ls2.destinationHash.mapError .dataCodec
  let envelope ← (I2npMessage.newShortTransport 0 0 (.databaseStore key ls2)).mapError .dataCodec
  (envelope.encodeShortTransportToVec maxI2npPayloadSize).mapError .dataCodec

variable (nowSeconds : UInt32)

/-- The payload encoders: a DateTime block and the cloves. -/
def encodeCloves (cloves : List GarlicCloveBlock) : Except CodecError (List UInt8) := do
  let blocks ← pushBlocks [] (.dateTime nowSeconds :: cloves.map .garlicClove)
  encodePayloadSequence blocks maxDestinationPayloadBytes

def encodeNewSessionPayload (clove : GarlicCloveBlock) : Except CodecError (List UInt8) :=
  encodeCloves nowSeconds [clove]

def encodeTwoCloveNewSession (dataClove databaseStoreClove : GarlicCloveBlock) : Except CodecError (List UInt8) :=
  encodeCloves nowSeconds [databaseStoreClove, dataClove]

def encodeBundledReplyPayload (cloves : List GarlicCloveBlock) (maxCloves : Nat) : Except BundleError (List UInt8) :=
  if cloves.isEmpty then .error .emptyBundle
  else if maxCloves < cloves.length then .error (.tooManyCloves cloves.length maxCloves)
  else (encodeCloves nowSeconds cloves).mapError fun _ =>
    .bundleOversize (cloves.map (·.message.length)).sum maxDestinationPayloadBytes

section Compose

variable {σ : Type} (c : EciesCrypto) (rng : RngCore σ) (cipher : TunnelCipher)

/-- A failed draw leaves the buffer zero. -/
def outboundMessageMessageId (s : σ) : UInt32 × σ :=
  match rng.tryFillBytes 4 s with
  | none => (1, s)
  | some (bytes, s) => (max (UInt32.ofNat (BigEndian.decode bytes.toList.reverse)) 1, s)

structure Composed (σ : Type) where
  remoteStatic : Key
  payloadBytes : List UInt8
  innerEnvelopeBytes : List UInt8
  selected : SelectedLease
  rngState : σ

/-- What follows the seal: the Garlic carrier and the tunnel cells. -/
def wrapAndForward (role : OutboundGatewayRole) (message : EciesOutboundMessage) (innerEnvelopeBytes : List UInt8)
    (selected : SelectedLease) (nowSeconds : UInt32) (nowMs : Nat) (s : σ) :
    Except SendError (OutboundDeliveryPlan × σ) := do
  let encrypted := encodeEncryptedOutbound message
  let wireExpirationMs := UInt64.ofNat (nowSeconds.toNat * 1000)
  let (messageId, s) := outboundMessageMessageId rng s
  let garlicEnvelope ← buildGarlicEnvelope encrypted.messageBytes messageId wireExpirationMs
  let garlicI2npBytes ← (garlicEnvelope.encodeStandardToVec c.sha256 maxI2npPayloadSize).mapError .dataCodec
  let (word, s) := rng.nextU32 s
  let header : TunnelPayloadHeader := ⟨.tunnel selected.tunnelId selected.gatewayRouterHash, max word 1⟩
  let (cells, s) ← (role.forwardCells rng.toCryptoRng cipher c.sha256 header garlicI2npBytes s nowMs).mapError .tunnelRole
  .ok (⟨selected, innerEnvelopeBytes, encrypted, garlicI2npBytes, cells⟩, s)

def sealWrapAndForward (m : EciesSessionManager) (role : OutboundGatewayRole) (localStaticSecret : Key)
    (composed : Composed σ) (nowSeconds : UInt32) (nowMs : Nat) :
    EciesSessionManager × Except (Failure SendError) (OutboundDeliveryPlan × σ) :=
  match m.encryptToRemote c rng.toCryptoRng localStaticSecret composed.remoteStatic composed.payloadBytes
      nowSeconds.toNat composed.rngState with
  | (m, .error .panicked) => (m, .error .panicked)
  | (m, .error (.error e)) => (m, .error (.error (mapSessionError e)))
  | (m, .ok (message, s)) =>
    (m, (wrapAndForward c rng cipher role message composed.innerEnvelopeBytes composed.selected nowSeconds nowMs
      s).mapError .error)

variable (routing : DestinationRouting)

/-- The first part of `compose_outbound_delivery`, which only reads the session. -/
def composePayload (m : EciesSessionManager) (remoteHash : Hash)
    (request : OutboundRequest) (nowSeconds : UInt32) (s : σ) : Except SendError (Composed σ) := do
  let remoteStatic ← routing.remoteStaticPublicKey remoteHash
  let (selected, s) ← routing.selectLease rng remoteHash nowSeconds.toNat s
  let (dataClove, innerEnvelopeBytes) ← dataCloveFor remoteHash request
  let payloadBytes ← match m.plannedOutboundForm remoteStatic nowSeconds.toNat with
    | .boundNewSession =>
      match request.bundledLeaseSet2 with
      | none => .error .missingBundledLeaseSet2
      | some ls2 => do
        let databaseStoreBytes ← encodeDatabaseStoreClove ls2
        (encodeTwoCloveNewSession nowSeconds dataClove ⟨.destination remoteHash, databaseStoreBytes⟩).mapError .payload
    | .newSessionReply | .existingSession => (encodeNewSessionPayload nowSeconds dataClove).mapError .payload
  .ok ⟨remoteStatic, payloadBytes, innerEnvelopeBytes, selected, s⟩

def composeOutboundDelivery (m : EciesSessionManager) (role : OutboundGatewayRole)
    (localStaticSecret : Key) (remoteHash : Hash) (request : OutboundRequest) (nowSeconds : UInt32) (nowMs : Nat)
    (s : σ) : EciesSessionManager × Except (Failure SendError) (OutboundDeliveryPlan × σ) :=
  match composePayload rng routing m remoteHash request nowSeconds s with
  | .error e => (m, .error (.error e))
  | .ok composed => sealWrapAndForward c rng cipher m role localStaticSecret composed nowSeconds nowMs

/-- The first part of `compose_bundled_reply_delivery`. -/
def composeBundledPayload (m : EciesSessionManager) (remoteHash : Hash)
    (requests : List OutboundRequest) (bundling : ReplyBundling) (nowSeconds : UInt32) (s : σ) :
    Except BundleError (Composed σ) :=
  if !bundling.enabled then .error .policyDisabled
  else if requests.isEmpty then .error .emptyBundle
  else if bundling.maxCloves < requests.length then .error (.tooManyCloves requests.length bundling.maxCloves)
  else do
    let remoteStatic ← (routing.remoteStaticPublicKey remoteHash).mapError .composition
    let (selected, s) ← (routing.selectLease rng remoteHash nowSeconds.toNat s).mapError .composition
    let form := m.plannedOutboundForm remoteStatic nowSeconds.toNat
    if form ≠ .newSessionReply then .error (.formNotBundlable (formNameOfPlanned form))
    else do
      let cloves ← (requests.mapM (dataCloveFor remoteHash)).mapError .composition
      let payloadBytes ← encodeBundledReplyPayload nowSeconds (cloves.map (·.1)) bundling.maxCloves
      .ok ⟨remoteStatic, payloadBytes, ((cloves.map (·.2)).head?).getD [], selected, s⟩

def composeBundledReplyDelivery (m : EciesSessionManager) (role : OutboundGatewayRole)
    (localStaticSecret : Key) (remoteHash : Hash) (requests : List OutboundRequest) (bundling : ReplyBundling)
    (nowSeconds : UInt32) (nowMs : Nat) (s : σ) :
    EciesSessionManager × Except (Failure BundleError) (OutboundDeliveryPlan × σ) :=
  match composeBundledPayload rng routing m remoteHash requests bundling nowSeconds s with
  | .error e => (m, .error (.error e))
  | .ok composed =>
    match sealWrapAndForward c rng cipher m role localStaticSecret composed nowSeconds nowMs with
    | (m, .ok plan) => (m, .ok plan)
    | (m, .error .panicked) => (m, .error .panicked)
    | (m, .error (.error e)) => (m, .error (.error (.composition e)))

end Compose

end I2pr

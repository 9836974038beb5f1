import I2pr.TunnelSoundness
import I2pr.Reassembler
import I2pr.Lib.LastYield

namespace I2pr

open LastYield

def maxDuplicateWindow : Nat := 1024

abbrev DuplicateToken := List.Vector UInt8 16

/-- The received IV against the first block of the received data. -/
def DuplicateToken.compute (received : TunnelIv × TunnelPayload) : DuplicateToken :=
  .ofFn fun i => received.1.get i ^^^ received.2.get (i.castLE (by decide))

inductive DuplicateWindowError where
  | capacityExceeded (capacity : Nat)
deriving DecidableEq, Repr

structure DuplicateWindow where
  capacity : Nat
  tokens : Finset DuplicateToken

namespace DuplicateWindow

def new (capacity : Nat) : DuplicateWindow :=
  ⟨min capacity maxDuplicateWindow, ∅⟩

def observe (w : DuplicateWindow) (token : DuplicateToken) : DuplicateWindow × Except DuplicateWindowError Bool :=
  if token ∈ w.tokens then (w, .ok false)
  else if w.capacity ≤ w.tokens.card then (w, .error (.capacityExceeded w.capacity))
  else ({ w with tokens := insert token w.tokens }, .ok true)

end DuplicateWindow

inductive RouterDeliveryKind where
  | localDelivery
  | router
  | tunnelGateway
deriving DecidableEq, Repr

structure RouterDeliveryAction where
  targetRouter : Hash
  kind : RouterDeliveryKind
  tunnelId : Option TunnelId
  message : List UInt8
  messageId : UInt32
  expirationMs : Nat
deriving DecidableEq

/-- The errors of a tunnel role that its endpoints return. -/
inductive TunnelEndpointError where
  | tunnelUnavailable
  | duplicateCell
  | receiveTunnelMismatch (actual expected : TunnelId)
  | duplicateWindow (error : DuplicateWindowError)
  | reassembly (error : ReassemblyError)
  | tunnelMessage (error : TunnelMessageError)
  | zeroTunnelId
  | unsupportedDeliveryInstruction
  | localInboundNonLocalDelivery
  | unspecifiedDeliveryInstruction (messageId : UInt32)
deriving DecidableEq

inductive TransitDataFatalError where
  | duplicateWindowAtCapacity (capacity : Nat)
  | reassembly (error : ReassemblyError)
  | unspecifiedDeliveryInstruction (messageId : UInt32)
deriving DecidableEq

def zeroRouter : Hash := .replicate 32 0

def actionFromDelivery (delivery : DeliveryInstruction) (message : List UInt8) (messageId : UInt32)
    (expirationMs : Nat) : Except TunnelEndpointError RouterDeliveryAction :=
  match delivery with
  | .localDelivery => .ok ⟨zeroRouter, .localDelivery, none, message, messageId, expirationMs⟩
  | .router router => .ok ⟨router, .router, none, message, messageId, expirationMs⟩
  | .tunnel tunnelId gateway =>
    if h : tunnelId = 0 then .error .zeroTunnelId
    else .ok ⟨gateway, .tunnelGateway, some ⟨tunnelId, h⟩, message, messageId, expirationMs⟩

def buildRouterDeliveryAction (delivery : DeliveryInstruction) (body : List UInt8) (messageId : UInt32)
    (expirationMs : Nat) : RouterDeliveryAction :=
  match delivery with
  | .localDelivery => ⟨zeroRouter, .localDelivery, none, body, messageId, expirationMs⟩
  | .router router => ⟨router, .router, none, body, messageId, expirationMs⟩
  | .tunnel tunnelId gateway =>
    ⟨gateway, .tunnelGateway, if h : tunnelId = 0 then none else some ⟨tunnelId, h⟩, body, messageId, expirationMs⟩

/-- Where the record loops of the two outbound endpoints differ. -/
structure RecordLoop (E : Type) where
  missingDelivery : UInt32 → E
  unspecifiedDelivery : UInt32 → E
  reassembly : ReassemblyError → E
  action : DeliveryInstruction → List UInt8 → UInt32 → Nat → Except E RouterDeliveryAction

namespace RecordLoop

variable {E : Type}

/-- What the loop does with the answer of the reassembler, given the delivery to fall back on. -/
def complete (loop : RecordLoop E) (messageId : UInt32) (fallback : Option DeliveryInstruction) :
    Except ReassemblyError (Option ReassembledFragment) → Except E (Option RouterDeliveryAction)
  | .error error => .error (loop.reassembly error)
  | .ok none => .ok none
  | .ok (some reassembled) =>
    match reassembled.delivery.or fallback with
    | none => .error (loop.unspecifiedDelivery messageId)
    | some delivery => (loop.action delivery reassembled.message messageId 0).map some

/-- One turn: the action of the message that the record completes, if it does. -/
def turn (loop : RecordLoop E) (contextId : UInt32) (r : BoundedReassembler) (record : FragmentDelivery) :
    BoundedReassembler × Except E (Option RouterDeliveryAction) :=
  let messageId := record.fragment.messageId.getD 0
  match record.fragment, record.delivery with
  | .unfragmented _, none => (r, .error (loop.missingDelivery messageId))
  | .unfragmented body, some delivery => (r, (loop.action delivery body messageId 0).map some)
  | .first _ _, none => (r, .error (loop.missingDelivery messageId))
  | .first _ _, some delivery =>
    let (r, outcome) := r.insertWithDelivery ⟨contextId, messageId⟩ record.fragment (some delivery)
    (r, loop.complete messageId (some delivery) outcome)
  | .followOn _ _ _ _, delivery =>
    let (r, outcome) := r.insertWithDelivery ⟨contextId, messageId⟩ record.fragment delivery
    (r, loop.complete messageId none outcome)

end RecordLoop

def outboundLoop : RecordLoop TunnelEndpointError where
  missingDelivery _ := .unsupportedDeliveryInstruction
  unspecifiedDelivery := .unspecifiedDeliveryInstruction
  reassembly := .reassembly
  action := actionFromDelivery

def transitLoop : RecordLoop TransitDataFatalError where
  missingDelivery := .unspecifiedDeliveryInstruction
  unspecifiedDelivery := .unspecifiedDeliveryInstruction
  reassembly := .reassembly
  action delivery body messageId expirationMs := .ok (buildRouterDeliveryAction delivery body messageId expirationMs)

section Endpoints

variable (cipher : TunnelCipher) (sha256 : List UInt8 → Hash)

structure OutboundEndpointRole where
  receiveTunnel : TunnelId
  layerKeys : LayerKeys
  duplicates : DuplicateWindow
  expiresAtMs : Nat
  reassembler : BoundedReassembler
  lastAction : Option RouterDeliveryAction

namespace OutboundEndpointRole

def new (hop : EstablishedHop) (duplicates : DuplicateWindow)
    (reassemblerCapacity reassemblerAggregateBytes reassemblerExpiryMs expiresAtMs nowMs : Nat) : OutboundEndpointRole where
  receiveTunnel := hop.receiveTunnel
  layerKeys := hop.layerKeys
  duplicates := duplicates
  expiresAtMs := expiresAtMs
  reassembler := .new reassemblerCapacity reassemblerAggregateBytes reassemblerExpiryMs nowMs
  lastAction := none

variable (role : OutboundEndpointRole)

def isUsable (nowMs : Nat) : Bool :=
  decide (nowMs < role.expiresAtMs)

/-- `process` up to the record loop: the records of a cell that is let in. -/
def openCell (cell : TunnelDataMessage) (nowMs : Nat) :
    OutboundEndpointRole × Except TunnelEndpointError (List FragmentDelivery) :=
  if !role.isUsable nowMs then (role, .error .tunnelUnavailable)
  else if h : cell.tunnelId = 0 then (role, .error .zeroTunnelId)
  else
    let cellTunnelId : TunnelId := ⟨cell.tunnelId, h⟩
    if cellTunnelId ≠ role.receiveTunnel then
      (role, .error (.receiveTunnelMismatch cellTunnelId role.receiveTunnel))
    else
      let (duplicates, observed) := role.duplicates.observe (.compute (splitCell cell))
      let role := { role with duplicates }
      match observed with
      | .error error => (role, .error (.duplicateWindow error))
      | .ok false => (role, .error .duplicateCell)
      | .ok true =>
        let (nextIv, plaintext) := participantForward cipher role.layerKeys (splitCell cell)
        (role, (parse sha256 nextIv plaintext).mapError .tunnelMessage)

/-- The source keeps `last_action` beside `completed` and sets both to the same action. -/
def assembleActions (records : List FragmentDelivery) (nowMs : Nat) :
    OutboundEndpointRole × Except TunnelEndpointError (Option RouterDeliveryAction) :=
  match LastYield.run (outboundLoop.turn role.receiveTunnel.value) (role.reassembler.setNow nowMs) none records with
  | (reassembler, .error error) => ({ role with reassembler }, .error error)
  | (reassembler, .ok completed) => ({ role with reassembler, lastAction := completed }, .ok completed)

/-- The previous peer is not looked at. -/
def process (_previousPeer : Hash) (cell : TunnelDataMessage) (nowMs : Nat) :
    OutboundEndpointRole × Except TunnelEndpointError (Option RouterDeliveryAction) :=
  match role.openCell cipher sha256 cell nowMs with
  | (role, .error error) => (role, .error error)
  | (role, .ok records) => role.assembleActions records nowMs

def completions (cell : TunnelDataMessage) (nowMs : Nat) : List RouterDeliveryAction :=
  match role.openCell cipher sha256 cell nowMs with
  | (_, .error _) => []
  | (role, .ok records) =>
    LastYield.yielded (outboundLoop.turn role.receiveTunnel.value) (role.reassembler.setNow nowMs) records

/-- No record of the cell completes a message or is rejected after one that completes a message. -/
def CompletesLast (cell : TunnelDataMessage) (nowMs : Nat) : Prop :=
  match role.openCell cipher sha256 cell nowMs with
  | (_, .error _) => True
  | (role, .ok records) =>
    LastYield.YieldsLast (outboundLoop.turn role.receiveTunnel.value) (role.reassembler.setNow nowMs) records

end OutboundEndpointRole

inductive TunnelDirection where
  | inbound
  | outbound
deriving DecidableEq, Repr

/-- The established tunnel with the fields that the local endpoint reads. -/
structure LocalInboundEndpointRole where
  established : EstablishedTunnel
  direction : TunnelDirection
  localReceiveTunnel : TunnelId
  reassembler : BoundedReassembler
  expiresAtMs : Nat

namespace LocalInboundEndpointRole

def new (established : EstablishedTunnel) (direction : TunnelDirection) (localReceiveTunnel : TunnelId)
    (reassemblerCapacity reassemblerAggregateBytes reassemblyExpiryMs nowMs expiresAtMs : Nat) :
    LocalInboundEndpointRole where
  established := established
  direction := direction
  localReceiveTunnel := localReceiveTunnel
  reassembler := .new reassemblerCapacity reassemblerAggregateBytes reassemblyExpiryMs nowMs
  expiresAtMs := expiresAtMs

variable (role : LocalInboundEndpointRole)

def isUsable (nowMs : Nat) : Bool :=
  decide (nowMs < role.expiresAtMs ∧ role.direction = .inbound)

/-- One turn of the record loop: only local delivery is taken, on the record and on what is completed. -/
def turn (contextId : UInt32) (r : BoundedReassembler) (record : FragmentDelivery) :
    BoundedReassembler × Except TunnelEndpointError (Option (List UInt8)) :=
  match record.delivery with
  | some (.router _) => (r, .error .localInboundNonLocalDelivery)
  | some (.tunnel _ _) => (r, .error .localInboundNonLocalDelivery)
  | delivery =>
    let messageId := record.fragment.messageId.getD 0
    let (r, outcome) := r.insertWithDelivery ⟨contextId, messageId⟩ record.fragment delivery
    (r, match outcome with
      | .error error => .error (.reassembly error)
      | .ok none => .ok none
      | .ok (some reassembled) =>
        match reassembled.delivery with
        | some .localDelivery => .ok (some reassembled.message)
        | some _ => .error .localInboundNonLocalDelivery
        | none => .error (.unspecifiedDeliveryInstruction messageId))

/-- `process` up to the record loop. -/
def openCell (cell : TunnelDataMessage) (nowMs : Nat) : Except TunnelEndpointError (List FragmentDelivery) :=
  if !role.isUsable nowMs then .error .tunnelUnavailable
  else if h : cell.tunnelId = 0 then .error .zeroTunnelId
  else
    let cellTunnelId : TunnelId := ⟨cell.tunnelId, h⟩
    if cellTunnelId ≠ role.localReceiveTunnel then
      .error (.receiveTunnelMismatch cellTunnelId role.localReceiveTunnel)
    else
      let hopsReverse := (role.established.hops.map (·.layerKeys)).reverse
      let (recoveredIv, plaintext) := outboundPreprocess cipher hopsReverse (splitCell cell)
      (parse sha256 recoveredIv plaintext).mapError .tunnelMessage

def process (_previousPeer : Hash) (cell : TunnelDataMessage) (nowMs : Nat) :
    LocalInboundEndpointRole × Except TunnelEndpointError (Option (List UInt8)) :=
  match role.openCell cipher sha256 cell nowMs with
  | .error error => (role, .error error)
  | .ok records =>
    if records.isEmpty then (role, .ok none)
    else
      let (reassembler, result) :=
        LastYield.run (turn role.localReceiveTunnel.value) (role.reassembler.setNow nowMs) none records
      ({ role with reassembler }, result)

def completions (cell : TunnelDataMessage) (nowMs : Nat) : List (List UInt8) :=
  match role.openCell cipher sha256 cell nowMs with
  | .error _ => []
  | .ok records => LastYield.yielded (turn role.localReceiveTunnel.value) (role.reassembler.setNow nowMs) records

def CompletesLast (cell : TunnelDataMessage) (nowMs : Nat) : Prop :=
  match role.openCell cipher sha256 cell nowMs with
  | .error _ => True
  | .ok records => LastYield.YieldsLast (turn role.localReceiveTunnel.value) (role.reassembler.setNow nowMs) records

end LocalInboundEndpointRole

/-- What a transit registration answers as an outbound endpoint. -/
inductive TransitDataOutcome where
  | deliver (action : RouterDeliveryAction)
  | duplicateOrReplay
  | previousPeerMismatch
  | expired
  | zeroTunnelId
  | fragment
  | tunnelMessageRejected
deriving DecidableEq

namespace TransitDataOutcome

def actions : Except TransitDataFatalError TransitDataOutcome → List RouterDeliveryAction
  | .ok (.deliver action) => [action]
  | _ => []

end TransitDataOutcome

/-- A transit registration in the role of an outbound endpoint, with its data plane. -/
structure TransitEndpointRegistration where
  previousPeer : Hash
  layerKeys : LayerKeys
  expiresAtSeconds : Nat
  duplicates : DuplicateWindow
  reassembler : BoundedReassembler

namespace TransitEndpointRegistration

def processObepRecords (reassembler : BoundedReassembler) (records : List FragmentDelivery) (nowMs : Nat)
    (contextId : UInt32) : BoundedReassembler × Except TransitDataFatalError (Option RouterDeliveryAction) :=
  LastYield.run (transitLoop.turn contextId) (reassembler.setNow nowMs) none records

variable (registration : TransitEndpointRegistration)

/-- `process_tunnel_data` up to the record loop; an error is an early return. -/
def openCell (cell : TunnelDataMessage) (previousPeer : Hash) (nowMs : Nat) :
    TransitEndpointRegistration × Except (Except TransitDataFatalError TransitDataOutcome) (List FragmentDelivery) :=
  if registration.expiresAtSeconds ≤ nowMs / 1000 then (registration, .error (.ok .expired))
  else if cell.tunnelId = 0 then (registration, .error (.ok .zeroTunnelId))
  else if registration.previousPeer ≠ previousPeer then (registration, .error (.ok .previousPeerMismatch))
  else
    let (duplicates, observed) := registration.duplicates.observe (.compute (splitCell cell))
    let registration := { registration with duplicates }
    match observed with
    | .error (.capacityExceeded capacity) => (registration, .error (.error (.duplicateWindowAtCapacity capacity)))
    | .ok false => (registration, .error (.ok .duplicateOrReplay))
    | .ok true =>
      let (nextIv, plaintext) := participantForward cipher registration.layerKeys (splitCell cell)
      (registration, (parse sha256 nextIv plaintext).mapError fun _ => .ok .tunnelMessageRejected)

def processTunnelData (cell : TunnelDataMessage) (previousPeer : Hash)
    (nowMs : Nat) : TransitEndpointRegistration × Except TransitDataFatalError TransitDataOutcome :=
  match registration.openCell cipher sha256 cell previousPeer nowMs with
  | (registration, .error early) => (registration, early)
  | (registration, .ok records) =>
    match processObepRecords registration.reassembler records nowMs cell.tunnelId with
    | (reassembler, .error error) => ({ registration with reassembler }, .error error)
    | (reassembler, .ok (some action)) => ({ registration with reassembler }, .ok (.deliver action))
    | (reassembler, .ok none) => ({ registration with reassembler }, .ok .fragment)

def completions (cell : TunnelDataMessage) (previousPeer : Hash) (nowMs : Nat) : List RouterDeliveryAction :=
  match registration.openCell cipher sha256 cell previousPeer nowMs with
  | (_, .error _) => []
  | (registration, .ok records) =>
    LastYield.yielded (transitLoop.turn cell.tunnelId) (registration.reassembler.setNow nowMs) records

def CompletesLast (cell : TunnelDataMessage) (previousPeer : Hash) (nowMs : Nat) : Prop :=
  match registration.openCell cipher sha256 cell previousPeer nowMs with
  | (_, .error _) => True
  | (registration, .ok records) =>
    LastYield.YieldsLast (transitLoop.turn cell.tunnelId) (registration.reassembler.setNow nowMs) records

end TransitEndpointRegistration

theorem OutboundEndpointRole.handedBack_process_iff (role : OutboundEndpointRole) (previousPeer : Hash)
    (cell : TunnelDataMessage) (nowMs : Nat) :
    handedBack (role.process cipher sha256 previousPeer cell nowMs).2 = role.completions cipher sha256 cell nowMs ↔
      role.CompletesLast cipher sha256 cell nowMs := by
  unfold process completions CompletesLast
  rcases role.openCell cipher sha256 cell nowMs with ⟨opened, error | records⟩
  · simp [handedBack]
  · have hrun := handedBack_run_iff (outboundLoop.turn opened.receiveTunnel.value)
      (opened.reassembler.setNow nowMs) records
    dsimp only
    rw [← hrun, assembleActions]
    split
    next h => rw [h]
    next h => rw [h]

theorem LocalInboundEndpointRole.handedBack_process_iff (role : LocalInboundEndpointRole) (previousPeer : Hash)
    (cell : TunnelDataMessage) (nowMs : Nat) :
    handedBack (role.process cipher sha256 previousPeer cell nowMs).2 = role.completions cipher sha256 cell nowMs ↔
      role.CompletesLast cipher sha256 cell nowMs := by
  unfold process completions CompletesLast
  rcases role.openCell cipher sha256 cell nowMs with error | records
  · simp [handedBack]
  · have hrun := handedBack_run_iff (turn role.localReceiveTunnel.value) (role.reassembler.setNow nowMs) records
    dsimp only
    cases records with
    | nil => simp [handedBack, yielded, LastYield.YieldsLast]
    | cons record records => exact hrun

theorem TransitEndpointRegistration.actions_of_openCell {registration opened : TransitEndpointRegistration}
    {cell : TunnelDataMessage} {previousPeer : Hash} {nowMs : Nat} {early : Except TransitDataFatalError TransitDataOutcome}
    (h : registration.openCell cipher sha256 cell previousPeer nowMs = (opened, .error early)) :
    TransitDataOutcome.actions early = [] := by
  unfold openCell at h
  split at h
  · cases h; rfl
  split at h
  · cases h; rfl
  split at h
  · cases h; rfl
  dsimp only at h
  split at h
  · cases h; rfl
  · cases h; rfl
  · cases hparse : parse sha256 (participantForward cipher registration.layerKeys (splitCell cell)).1
        (participantForward cipher registration.layerKeys (splitCell cell)).2 with
    | error error =>
      rw [hparse] at h
      cases h
      rfl
    | ok records =>
      rw [hparse] at h
      cases h

theorem TransitEndpointRegistration.actions_processTunnelData_iff (registration : TransitEndpointRegistration)
    (cell : TunnelDataMessage) (previousPeer : Hash) (nowMs : Nat) :
    TransitDataOutcome.actions (registration.processTunnelData cipher sha256 cell previousPeer nowMs).2 =
        registration.completions cipher sha256 cell previousPeer nowMs ↔
      registration.CompletesLast cipher sha256 cell previousPeer nowMs := by
  unfold processTunnelData completions CompletesLast
  rcases hopen : registration.openCell cipher sha256 cell previousPeer nowMs with ⟨opened, early | records⟩
  · simp [actions_of_openCell cipher sha256 hopen]
  · have hrun := handedBack_run_iff (transitLoop.turn cell.tunnelId) (opened.reassembler.setNow nowMs) records
    dsimp only
    rw [← hrun, processObepRecords]
    rcases run (transitLoop.turn cell.tunnelId) (opened.reassembler.setNow nowMs) none records with
      ⟨reassembler, error | - | action⟩
    · rfl
    · rfl
    · rfl

end Endpoints

section Sample

def plainCipher : TunnelCipher where
  ecbEncrypt _ block := block
  ecbDecrypt _ block := block
  cbcEncrypt _ _ data := data
  cbcDecrypt _ _ data := data
  ecb_decrypt_encrypt _ _ := rfl
  cbc_decrypt_encrypt _ _ _ := rfl

def plainCell (iv : UInt8) (padding : Nat) (bytes : List UInt8) (h : padding + bytes.length = 1003) : TunnelDataMessage :=
  joinCell 5 (.replicate 16 iv, ⟨List.replicate 4 0 ++ (List.replicate padding 1 ++ 0 :: bytes), by
    rw [List.length_append, List.length_append, List.length_cons, List.length_replicate, List.length_replicate]
    omega⟩)

def firstCell (messageId : UInt8) : TunnelDataMessage :=
  plainCell messageId 995 [0x08, 0, 0, 0, messageId, 0, 1, 10] rfl

def middleCell : TunnelDataMessage :=
  plainCell 3 995 [0x82, 0, 0, 0, 2, 0, 1, 99] rfl

def lastCell : TunnelDataMessage :=
  plainCell 4 987 [0x83, 0, 0, 0, 1, 0, 1, 11, 0x83, 0, 0, 0, 2, 0, 1, 21] rfl

def sampleHop : EstablishedHop := ⟨zeroRouter, ⟨5, five_ne⟩, ⟨.replicate 32 0, .replicate 32 0⟩⟩

def sampleOutbound : OutboundEndpointRole := .new sampleHop (.new 8) 8 1000 60000 60000 0

def sampleInbound : LocalInboundEndpointRole :=
  .new ⟨[sampleHop], by simp⟩ .inbound ⟨5, by decide⟩ 8 1000 60000 0 60000

def sampleTransit : TransitEndpointRegistration :=
  ⟨zeroRouter, sampleHop.layerKeys, 60, .new 8, .new 8 1000 60000 0⟩

def sampleAction (message : List UInt8) (messageId : UInt32) : RouterDeliveryAction :=
  ⟨zeroRouter, .localDelivery, none, message, messageId, 0⟩

def OutboundEndpointRole.after (role : OutboundEndpointRole) (cells : List TunnelDataMessage) : OutboundEndpointRole :=
  cells.foldl (fun role cell => (role.process plainCipher zeroHash zeroRouter cell 1).1) role

def LocalInboundEndpointRole.after (role : LocalInboundEndpointRole) (cells : List TunnelDataMessage) :
    LocalInboundEndpointRole :=
  cells.foldl (fun role cell => (role.process plainCipher zeroHash zeroRouter cell 1).1) role

def TransitEndpointRegistration.after (registration : TransitEndpointRegistration) (cells : List TunnelDataMessage) :
    TransitEndpointRegistration :=
  cells.foldl (fun registration cell => (registration.processTunnelData plainCipher zeroHash cell zeroRouter 1).1) registration

end Sample

end I2pr

import I2pr.TunnelBuilder
import I2pr.Lib.Layering

namespace I2pr

structure LayerKeys where
  layerKey : List.Vector UInt8 32
  ivKey : List.Vector UInt8 32

/-- AES-256 on one block and in CBC mode over a whole payload, with the law that decryption undoes
encryption under the same key and initialisation vector. -/
structure TunnelCipher where
  ecbEncrypt : List.Vector UInt8 32 → TunnelIv → TunnelIv
  ecbDecrypt : List.Vector UInt8 32 → TunnelIv → TunnelIv
  cbcEncrypt : List.Vector UInt8 32 → TunnelIv → TunnelPayload → TunnelPayload
  cbcDecrypt : List.Vector UInt8 32 → TunnelIv → TunnelPayload → TunnelPayload
  ecb_decrypt_encrypt : ∀ key block, ecbDecrypt key (ecbEncrypt key block) = block
  cbc_decrypt_encrypt : ∀ key iv data, cbcDecrypt key iv (cbcEncrypt key iv data) = data

namespace TunnelCipher

theorem ecb_encrypt_decrypt (c : TunnelCipher) (key : List.Vector UInt8 32) (block : TunnelIv) :
    c.ecbEncrypt key (c.ecbDecrypt key block) = block :=
  Layering.apply_strip_of_finite (c.ecb_decrypt_encrypt key) block

theorem cbc_encrypt_decrypt (c : TunnelCipher) (key : List.Vector UInt8 32) (iv : TunnelIv)
    (data : TunnelPayload) : c.cbcEncrypt key iv (c.cbcDecrypt key iv data) = data :=
  Layering.apply_strip_of_finite (c.cbc_decrypt_encrypt key iv) data

end TunnelCipher

variable (c : TunnelCipher)

def participantForward (layerKeys : LayerKeys) (received : TunnelIv × TunnelPayload) : TunnelIv × TunnelPayload :=
  let workingIv := c.ecbEncrypt layerKeys.ivKey received.1
  let newData := c.cbcEncrypt layerKeys.layerKey workingIv received.2
  let nextIv := c.ecbEncrypt layerKeys.ivKey workingIv
  (nextIv, newData)

def creatorInverseOneHop (layerKeys : LayerKeys) (received : TunnelIv × TunnelPayload) : TunnelIv × TunnelPayload :=
  let workingIv := c.ecbDecrypt layerKeys.ivKey received.1
  let newData := c.cbcDecrypt layerKeys.layerKey workingIv received.2
  let prevIv := c.ecbDecrypt layerKeys.ivKey workingIv
  (prevIv, newData)

def outboundPreprocess (hopsReverse : List LayerKeys) (cell : TunnelIv × TunnelPayload) : TunnelIv × TunnelPayload :=
  hopsReverse.foldl (fun current keys => creatorInverseOneHop c keys current) cell

theorem participantForward_creatorInverseOneHop (keys : LayerKeys) (cell : TunnelIv × TunnelPayload) :
    participantForward c keys (creatorInverseOneHop c keys cell) = cell := by
  simp only [participantForward, creatorInverseOneHop, c.ecb_encrypt_decrypt, c.cbc_encrypt_decrypt]

/-- The participants' layers, in path order, take off what the gateway put on in reverse order. -/
theorem participants_outboundPreprocess (hops : List LayerKeys) (cell : TunnelIv × TunnelPayload) :
    hops.foldl (fun current keys => participantForward c keys current)
      (outboundPreprocess c hops.reverse cell) = cell := by
  unfold outboundPreprocess
  rw [List.foldl_reverse]
  exact Layering.foldl_foldr_cancel (participantForward_creatorInverseOneHop c) hops cell

@[ext]
structure TunnelId where
  value : UInt32
  nonzero : value ≠ 0

instance : DecidableEq TunnelId := fun _ _ => decidable_of_iff _ TunnelId.ext_iff.symm

structure EstablishedHop where
  peer : Hash
  receiveTunnel : TunnelId
  layerKeys : LayerKeys

structure EstablishedTunnel where
  hops : List EstablishedHop
  nonempty : hops ≠ []

namespace EstablishedTunnel

def firstHopRouter (t : EstablishedTunnel) : Hash :=
  (t.hops.head t.nonempty).peer

def firstHopReceiveTunnel (t : EstablishedTunnel) : TunnelId :=
  (t.hops.head t.nonempty).receiveTunnel

end EstablishedTunnel

structure TunnelDataMessage where
  tunnelId : UInt32
  data : List.Vector UInt8 1024
deriving DecidableEq

def splitCell (cell : TunnelDataMessage) : TunnelIv × TunnelPayload :=
  (⟨cell.data.toList.take 16, by simp⟩, ⟨cell.data.toList.drop 16, by simp⟩)

def joinCell (tunnelId : UInt32) (cell : TunnelIv × TunnelPayload) : TunnelDataMessage :=
  ⟨tunnelId, ⟨cell.1.toList ++ cell.2.toList, by simp⟩⟩

theorem splitCell_joinCell (tunnelId : UInt32) (cell : TunnelIv × TunnelPayload) :
    splitCell (joinCell tunnelId cell) = cell := by
  obtain ⟨iv, payload⟩ := cell
  apply Prod.ext
  · exact Subtype.ext (List.take_left' iv.2)
  · exact Subtype.ext (List.drop_left' iv.2)

inductive TunnelRoleError where
  | tunnelUnavailable
  | unsupportedDeliveryInstruction
  | tunnelMessage (error : TunnelMessageError)
deriving DecidableEq, Repr

structure TunnelPayloadHeader where
  delivery : DeliveryInstruction
  messageId : UInt32

structure OBGWRouterDelivery where
  targetRouter : Hash
  receiveTunnel : TunnelId
  cell : TunnelDataMessage
deriving DecidableEq

structure OutboundGatewayRole where
  established : EstablishedTunnel
  expiresAtMs : Nat

theorem five_ne : (5 : UInt32) ≠ 0 := by decide

namespace OutboundGatewayRole

variable {σ : Type} (rng : CryptoRng σ) (cipher : TunnelCipher) (sha256 : List UInt8 → Hash)

variable (role : OutboundGatewayRole)

def isUsable (nowMs : Nat) : Bool :=
  decide (nowMs < role.expiresAtMs)

/-- A packed payload with the hops' layers taken off in reverse, addressed to the first hop. -/
def addressCell (cell : TunnelIv × TunnelPayload) : OBGWRouterDelivery :=
  let hopsReverse := (role.established.hops.map (·.layerKeys)).reverse
  let receiveTunnel := role.established.firstHopReceiveTunnel
  ⟨role.established.firstHopRouter, receiveTunnel,
    joinCell receiveTunnel.value (outboundPreprocess cipher hopsReverse cell)⟩

/-- The loop of `forward_cells` over the fragments: a fresh IV, the packed payload, the layers. -/
def forwardFragments (role : OutboundGatewayRole) :
    List FragmentDelivery → σ → Except TunnelRoleError (List OBGWRouterDelivery × σ)
  | [], s => .ok ([], s)
  | fragment :: fragments, s =>
    match rng.tryFillBytes 16 s with
    | none => .error (.tunnelMessage .randomnessUnavailable)
    | some (iv, s) => do
      let (plaintext, s) ← (packPayload rng sha256 fragment iv s).mapError .tunnelMessage
      let (cells, s) ← forwardFragments role fragments s
      .ok (role.addressCell cipher (iv, plaintext) :: cells, s)

def forwardCells (header : TunnelPayloadHeader) (completeMessage : List UInt8)
    (s : σ) (nowMs : Nat) : Except TunnelRoleError (List OBGWRouterDelivery × σ) :=
  if !role.isUsable nowMs then .error .tunnelUnavailable
  else if header.delivery = .localDelivery then .error .unsupportedDeliveryInstruction
  else do
    let fragments ← (fragmentCompleteMessage header.delivery header.messageId completeMessage).mapError
      .tunnelMessage
    role.forwardFragments rng cipher sha256 fragments s

/-- What the endpoint at the end of the path reads from a cell the gateway sent. -/
def received (delivery : OBGWRouterDelivery) : Except TunnelMessageError (List FragmentDelivery) :=
  let cell := role.established.hops.foldl (fun current hop => participantForward cipher hop.layerKeys current)
    (splitCell delivery.cell)
  parse sha256 cell.1 cell.2

variable {rng}

theorem forwardFragments_received (hr : rng.Reliable) (role : OutboundGatewayRole)
    {fragments : List FragmentDelivery} (hw : ∀ f ∈ fragments, f.WellFormed ∧ f.Admissible (false, 0) ∧
      f.fragment.body.length + f.overhead ≤ cellBodyBudget) (s : σ) :
    ∃ cells s', role.forwardFragments rng cipher sha256 fragments s = .ok (cells, s') ∧
      List.Forall₂ (fun f d => role.received cipher sha256 d = .ok [f]) fragments cells := by
  induction fragments generalizing s with
  | nil => exact ⟨[], s, rfl, .nil⟩
  | cons f fragments ih =>
    obtain ⟨hf, ho, hfit⟩ := hw f (by simp)
    obtain ⟨iv, s₁, hiv⟩ := hr.fills 16 s
    obtain ⟨plaintext, s₂, hpack, hparse⟩ := parse_packPayload hr sha256 hf ho hfit iv s₁
    obtain ⟨cells, s₃, hcells, hall⟩ := ih (fun g hg => hw g (by simp [hg])) s₂
    refine ⟨role.addressCell cipher (iv, plaintext) :: cells, s₃, ?_, .cons ?_ hall⟩
    · simp only [forwardFragments, hiv, hpack, hcells, bind, Except.bind, Except.mapError]
    · have hlayers := participants_outboundPreprocess cipher (role.established.hops.map (·.layerKeys)) (iv, plaintext)
      rw [List.foldl_map] at hlayers
      simp only [received, addressCell, splitCell_joinCell, hlayers, hparse]

/-- End to end: the gateway's cells, taken through every hop in path order, parse to the fragment records
of the message, one record a cell and in order. -/
theorem forwardCells_received (hr : rng.Reliable) (role : OutboundGatewayRole) (header : TunnelPayloadHeader)
    (hlocal : header.delivery ≠ .localDelivery) (hd : validateDelivery header.delivery = .ok ())
    (hid : header.messageId ≠ 0) {message : List UInt8} (hpos : 1 ≤ message.length)
    (hlen : message.length ≤ maxTunnelMessagePayloadBytes) {nowMs : Nat} (hnow : nowMs < role.expiresAtMs) (s : σ) :
    ∃ fragments cells s',
      fragmentCompleteMessage header.delivery header.messageId message = .ok fragments ∧
      role.forwardCells rng cipher sha256 header message s nowMs = .ok (cells, s') ∧
      List.Forall₂ (fun f d => role.received cipher sha256 d = .ok [f]) fragments cells := by
  obtain ⟨fragments, hfrag, hw⟩ := fragmentCompleteMessage_wellFormed hd hid
    (List.ne_nil_of_length_pos hpos) hlen
  obtain ⟨cells, s', hcells, hall⟩ := forwardFragments_received cipher sha256 hr role hw s
  refine ⟨fragments, cells, s', hfrag, ?_, hall⟩
  simp [forwardCells, isUsable, hnow, hlocal, hfrag, hcells, Except.mapError, bind, Except.bind]

/-- A toy cipher that adds the first key and IV bytes to every byte. -/
def shiftCipher : TunnelCipher where
  ecbEncrypt key block := block.map (· + key.head)
  ecbDecrypt key block := block.map (· - key.head)
  cbcEncrypt key iv data := data.map (· + (key.head + iv.head))
  cbcDecrypt key iv data := data.map (· - (key.head + iv.head))
  ecb_decrypt_encrypt key block := by
    apply List.Vector.toList_injective
    simp [List.Vector.toList_map]
  cbc_decrypt_encrypt key iv data := by
    apply List.Vector.toList_injective
    simp [List.Vector.toList_map]

def onesRng : CryptoRng Unit where
  tryFillBytes n s := some (.replicate n 1, s)

theorem onesRng_reliable : onesRng.Reliable where
  fills n s := ⟨_, _, rfl⟩
  nonzero s := ⟨.replicate 1 1, s, rfl, Or.inl (show (1 : UInt8) ≠ 0 by decide)⟩

def twoHopRole : OutboundGatewayRole where
  established :=
    { hops :=
        [⟨.replicate 32 1, ⟨5, five_ne⟩, ⟨.replicate 32 3, .replicate 32 4⟩⟩,
          ⟨.replicate 32 2, ⟨6, by decide⟩, ⟨.replicate 32 8, .replicate 32 9⟩⟩]
      nonempty := by simp }
  expiresAtMs := 600000

theorem forwardCells_received_two_hops : ∃ fragments cells s',
      fragmentCompleteMessage (.router (.replicate 32 9)) 77 (List.replicate 2000 7) = .ok fragments ∧
      twoHopRole.forwardCells onesRng shiftCipher (fun _ => .replicate 32 0) ⟨.router (.replicate 32 9), 77⟩
        (List.replicate 2000 7) () 0 = .ok (cells, s') ∧
      List.Forall₂ (fun f d => twoHopRole.received shiftCipher (fun _ => .replicate 32 0) d = .ok [f])
        fragments cells :=
  forwardCells_received shiftCipher _ onesRng_reliable twoHopRole ⟨.router (.replicate 32 9), 77⟩
    (by simp) rfl (by simp) (by rw [List.length_replicate]; norm_num)
    (by rw [List.length_replicate, maxTunnelMessagePayloadBytes]; norm_num) (by simp [twoHopRole]) ()

end OutboundGatewayRole

end I2pr

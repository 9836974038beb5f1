import I2pr.EciesCrypto
import I2pr.Lib.XorMask
import I2pr.Lib.Fallible
import I2pr.Lib.Noise

namespace I2pr.Ntcp2

open Noise (Key CipherState)

abbrev Block := Bytes 16

def protocolName : List UInt8 :=
  [0x4e, 0x6f, 0x69, 0x73, 0x65, 0x5f, 0x58, 0x4b, 0x61, 0x65, 0x73, 0x6f, 0x62, 0x66, 0x73, 0x65, 0x2b, 0x68, 0x73,
    0x32, 0x2b, 0x68, 0x73, 0x33, 0x5f, 0x32, 0x35, 0x35, 0x31, 0x39, 0x5f, 0x43, 0x68, 0x61, 0x43, 0x68, 0x61, 0x50,
    0x6f, 0x6c, 0x79, 0x5f, 0x53, 0x48, 0x41, 0x32, 0x35, 0x36]
def prologue : List UInt8 := []

def askLabel : List UInt8 := [0x61, 0x73, 0x6b]
def siphashLabel : List UInt8 := [0x73, 0x69, 0x70, 0x68, 0x61, 0x73, 0x68]

def keyLength : Nat := 32
def authTagLength : Nat := 16
def optionBlockLength : Nat := 16
def maxFrameLength : Nat := 65535
def maxFramePlaintext : Nat := maxFrameLength - authTagLength
def maxSessionConfirmedPart2 : Nat := 65487
def maxSessionConfirmedPart2Plaintext : Nat := 65471
def handshakeOptionsFrameLength : Nat := optionBlockLength + authTagLength
def minHandshakeMessageLength : Nat := keyLength + handshakeOptionsFrameLength
def sessionConfirmedPart1Length : Nat := keyLength + authTagLength
def maxHandshakeMessageLength : Nat := maxFrameLength
def maxSessionConfirmedLength : Nat := maxFrameLength
def maxRouterInfoPayload : Nat := 64 * 1024
def maxConfirmedOptions : Nat := 4 * 1024
def maxHandshakeBufferedInput : Nat := maxSessionConfirmedLength
def maxSessionRequestPadding : Nat := 880
def maxSessionCreatedPadding : Nat := 848
def maxNonce : Nat := 2 ^ 64 - 2

/-- The primitives of NTCP2: those of its Noise pattern, and AES-256 on single blocks, which is a permutation for
each key. -/
structure Ntcp2Crypto extends Noise.Primitives where
  aesEncrypt : Key → Block → Block
  aesDecrypt : Key → Block → Block
  aesDecrypt_encrypt : ∀ key block, aesDecrypt key (aesEncrypt key block) = block
  aesEncrypt_decrypt : ∀ key block, aesEncrypt key (aesDecrypt key block) = block

inductive Role where
  | initiator
  | responder
deriving DecidableEq, Repr

/-- The failures of encryption and of the KDF wrapper cannot occur at the lengths used and are left out. -/
inductive Ntcp2CryptoError where
  | invalidPublicKey
  | fieldTooLarge
  | nonceExhausted
  | authenticationFailed
  | invalidState
  | wrongRole
  | peerStaticMismatch
deriving DecidableEq, Repr

def publicKeyBytes (bytes : Key) : Except Ntcp2CryptoError Key :=
  if allZero bytes then .error .invalidPublicKey else .ok bytes

section Cipher

variable (c : Ntcp2Crypto)

def CipherState.seal (cipher : CipherState) (plaintext associated : List UInt8) :
    Except Ntcp2CryptoError (CipherState × List UInt8) :=
  if maxFramePlaintext < plaintext.length then .error .fieldTooLarge
  else if maxNonce < cipher.number then .error .nonceExhausted
  else .ok (cipher.next, c.encrypt cipher.key cipher.number plaintext associated)

def CipherState.open (cipher : CipherState) (ciphertext associated : List UInt8) :
    Except Ntcp2CryptoError (CipherState × List UInt8) :=
  if ciphertext.length < authTagLength ∨ maxFrameLength < ciphertext.length then .error .fieldTooLarge
  else if maxNonce < cipher.number then .error .nonceExhausted
  else match c.decrypt cipher.key cipher.number ciphertext associated with
    | none => .error .authenticationFailed
    | some plaintext => .ok (cipher.next, plaintext)

end Cipher

structure AesObfuscationState where
  key : Key
  chain : Block

def xorBlock (a b : Block) : Block :=
  ⟨XorMask.apply a.toList b.toList, by simp [XorMask.apply]⟩

theorem xorBlock_xorBlock (a b : Block) : xorBlock (xorBlock a b) b = a :=
  Subtype.ext (XorMask.apply_apply (by simp))

def firstBlock (bytes : Key) : Block := ⟨bytes.toList.take 16, by simp⟩

def secondBlock (bytes : Key) : Block := ⟨bytes.toList.drop 16, by simp⟩

def ofBlocks (first second : Block) : Key := ⟨first.toList ++ second.toList, by simp⟩

@[simp] theorem firstBlock_ofBlocks (first second : Block) : firstBlock (ofBlocks first second) = first :=
  Subtype.ext (List.take_left' first.toList_length)

@[simp] theorem secondBlock_ofBlocks (first second : Block) : secondBlock (ofBlocks first second) = second :=
  Subtype.ext (List.drop_left' first.toList_length)

@[simp] theorem ofBlocks_blocks (bytes : Key) : ofBlocks (firstBlock bytes) (secondBlock bytes) = bytes :=
  Subtype.ext (List.take_append_drop ..)

namespace AesObfuscationState

variable (c : Ntcp2Crypto)

variable (state : AesObfuscationState)

def encrypt (plaintext : Key) : AesObfuscationState × Key :=
  let first := c.aesEncrypt state.key (xorBlock (firstBlock plaintext) state.chain)
  let second := c.aesEncrypt state.key (xorBlock (secondBlock plaintext) first)
  (⟨state.key, second⟩, ofBlocks first second)

/-- The bytes of `decrypt` before they are checked, with the state it leaves. -/
def decryptBlocks (ciphertext : Key) : AesObfuscationState × Key :=
  let first := xorBlock (c.aesDecrypt state.key (firstBlock ciphertext)) state.chain
  let second := xorBlock (c.aesDecrypt state.key (secondBlock ciphertext)) (firstBlock ciphertext)
  (⟨state.key, secondBlock ciphertext⟩, ofBlocks first second)

def decrypt (ciphertext : Key) : Except Ntcp2CryptoError (AesObfuscationState × Key) :=
  let (next, plaintext) := decryptBlocks c state ciphertext
  (publicKeyBytes plaintext).map (next, ·)

variable {c}

/-- Two states in step: what one encrypts the other decrypts, and they stay in step. -/
theorem decryptBlocks_encrypt (plaintext : Key) :
    decryptBlocks c state (encrypt c state plaintext).2 = ((encrypt c state plaintext).1, plaintext) := by
  simp only [encrypt, decryptBlocks, firstBlock_ofBlocks, secondBlock_ofBlocks, c.aesDecrypt_encrypt,
    xorBlock_xorBlock, ofBlocks_blocks]

theorem encrypt_decryptBlocks (ciphertext : Key) :
    encrypt c state (decryptBlocks c state ciphertext).2 = ((decryptBlocks c state ciphertext).1, ciphertext) := by
  simp only [encrypt, decryptBlocks, firstBlock_ofBlocks, secondBlock_ofBlocks, xorBlock_xorBlock,
    c.aesEncrypt_decrypt, ofBlocks_blocks]

end AesObfuscationState

/-- The keys and the IV of a SipHash-2-4 length mask. -/
structure SipHashState where
  key1 : UInt64
  key2 : UInt64
  iv : Bytes 8

def u64FromLeBytes (bytes : List UInt8) : UInt64 :=
  UInt64.ofNat (BigEndian.decode bytes.reverse)

def SipHashState.new (material : Key) : SipHashState where
  key1 := u64FromLeBytes (BigEndian.slice material.toList 0 8)
  key2 := u64FromLeBytes (BigEndian.slice material.toList 8 8)
  iv := ⟨BigEndian.slice material.toList 16 8, by simp [BigEndian.slice]⟩

structure SplitKeys where
  transmit : CipherState
  receive : CipherState
  transmitLengths : SipHashState
  receiveLengths : SipHashState

inductive TranscriptStage where
  | initial
  | message1Complete
  | message1Padded
  | message2Complete
  | message2Padded
  | staticEncrypted
  | confirmed
deriving DecidableEq, Repr

structure Transcript extends Noise.SymmetricState where
  role : Role
  peerStatic : Key
  stage : TranscriptStage

namespace Transcript

variable (c : Ntcp2Crypto)

def initialHash (responderStatic : Key) : Key :=
  Noise.absorb c.toPrimitives (Noise.absorb c.toPrimitives (c.hash protocolName) prologue) responderStatic.toList

def new (role : Role) (responderStatic : Key) : Transcript :=
  ⟨⟨initialHash c responderStatic, c.hash protocolName, none⟩, role, responderStatic, .initial⟩

def mixHash (t : Transcript) (bytes : List UInt8) : Transcript :=
  { t with toSymmetricState := t.toSymmetricState.mixHash c.toPrimitives bytes }

def mixKey (t : Transcript) (sharedSecret : Key) : Transcript :=
  { t with toSymmetricState := t.toSymmetricState.mixKey c.toPrimitives sharedSecret }

variable (t : Transcript)

def mixEphemeral (ephemeralPublic : Key) : Transcript :=
  t.mixHash c ephemeralPublic.toList

def encryptAndHash (plaintext : List UInt8) : Except Ntcp2CryptoError (Transcript × List UInt8) :=
  match t.cipher with
  | none => .error .invalidState
  | some cipher => do
    let (cipher, ciphertext) ← CipherState.seal c cipher plaintext t.hash.toList
    .ok (mixHash c { t with cipher := some cipher } ciphertext, ciphertext)

def decryptAndHash (ciphertext : List UInt8) : Except Ntcp2CryptoError (Transcript × List UInt8) :=
  match t.cipher with
  | none => .error .invalidState
  | some cipher => do
    let (cipher, plaintext) ← CipherState.open c cipher ciphertext t.hash.toList
    .ok (mixHash c { t with cipher := some cipher } ciphertext, plaintext)

/-- The check at the head of each operation. -/
def gate (role : Role) (stage : TranscriptStage) : Except Ntcp2CryptoError Unit :=
  if t.role ≠ role then .error .wrongRole
  else if t.stage ≠ stage then .error .invalidState
  else .ok ()

def mixPadding (padding : List UInt8) : Except Ntcp2CryptoError Transcript :=
  if max maxSessionRequestPadding maxSessionCreatedPadding < padding.length then .error .fieldTooLarge
  else
    let mixed := if padding.isEmpty then t else t.mixHash c padding
    match t.stage with
    | .message1Complete => .ok { mixed with stage := .message1Padded }
    | .message2Complete => .ok { mixed with stage := .message2Padded }
    | _ => .error .invalidState

/-- An ephemeral key and its agreement are mixed in, then the options are sealed. -/
def sealOptions (role : Role) (before after : TranscriptStage) (t : Transcript) (ephemeralPublic sharedSecret : Key)
    (options : List UInt8) : Except Ntcp2CryptoError (Transcript × List UInt8) := do
  t.gate role before
  let (t, ciphertext) ← ((t.mixEphemeral c ephemeralPublic).mixKey c sharedSecret).encryptAndHash c options
  .ok ({ t with stage := after }, ciphertext)

/-- The other side of `sealOptions`. -/
def openOptions (role : Role) (before after : TranscriptStage) (t : Transcript) (ephemeralPublic sharedSecret : Key)
    (ciphertext : List UInt8) : Except Ntcp2CryptoError (Transcript × List UInt8) := do
  t.gate role before
  let (t, plaintext) ← ((t.mixEphemeral c ephemeralPublic).mixKey c sharedSecret).decryptAndHash c ciphertext
  .ok ({ t with stage := after }, plaintext)

def sessionRequest := sealOptions c .initiator .initial .message1Complete

def acceptSessionRequest := openOptions c .responder .initial .message1Complete

def sessionCreated := sealOptions c .responder .message1Padded .message2Complete

def acceptSessionCreated := openOptions c .initiator .message1Padded .message2Complete

def encryptStatic (staticPublic sharedSecret : Key) : Except Ntcp2CryptoError (Transcript × List UInt8) := do
  t.gate .initiator .message2Padded
  let (t, ciphertext) ← t.encryptAndHash c staticPublic.toList
  .ok ({ t.mixKey c sharedSecret with stage := .staticEncrypted }, ciphertext)

def staticPublicOf (plaintext : List UInt8) : Except Ntcp2CryptoError Key :=
  if h : plaintext.length = 32 then publicKeyBytes ⟨plaintext, h⟩ else .error .invalidPublicKey

def decryptStaticUnchecked (ciphertext : List UInt8) : Except Ntcp2CryptoError (Transcript × Key) := do
  t.gate .responder .message2Padded
  let (t, plaintext) ← t.decryptAndHash c ciphertext
  let staticPublic ← staticPublicOf plaintext
  .ok (t, staticPublic)

def mixStaticSecret (sharedSecret : Key) : Except Ntcp2CryptoError Transcript := do
  t.gate .responder .message2Padded
  .ok { t.mixKey c sharedSecret with stage := .staticEncrypted }

def encryptConfirmedPayload (payload : List UInt8) : Except Ntcp2CryptoError (Transcript × List UInt8) := do
  t.gate .initiator .staticEncrypted
  let (t, ciphertext) ← t.encryptAndHash c payload
  .ok ({ t with stage := .confirmed }, ciphertext)

def decryptConfirmedPayload (ciphertext : List UInt8) : Except Ntcp2CryptoError (Transcript × List UInt8) := do
  t.gate .responder .staticEncrypted
  let (t, plaintext) ← t.decryptAndHash c ciphertext
  .ok ({ t with stage := .confirmed }, plaintext)

/-- The keys and the length masks of the two directions, from the initiator first. -/
def directions (hash chainingKey : Key) : (CipherState × SipHashState) × (CipherState × SipHashState) :=
  let tempKey := c.mac chainingKey []
  let kAb := c.mac tempKey [1]
  let kBa := c.mac tempKey (kAb.toList ++ [2])
  let askMaster := c.mac tempKey (askLabel ++ [1])
  let sipTemp := c.mac askMaster (hash.toList ++ siphashLabel)
  let sipMaster := c.mac sipTemp [1]
  let sipTemp := c.mac sipMaster []
  let sipAb := c.mac sipTemp [1]
  let sipBa := c.mac sipTemp (sipAb.toList ++ [2])
  ((⟨kAb, 0⟩, .new sipAb), (⟨kBa, 0⟩, .new sipBa))

def split : Except Ntcp2CryptoError SplitKeys :=
  if t.stage ≠ .confirmed ∨ t.cipher.isNone then .error .invalidState
  else
    let (ab, ba) := directions c t.hash t.chainingKey
    match t.role with
    | .initiator => .ok ⟨ab.1, ba.1, ab.2, ba.2⟩
    | .responder => .ok ⟨ba.1, ab.1, ba.2, ab.2⟩

end Transcript

end I2pr.Ntcp2

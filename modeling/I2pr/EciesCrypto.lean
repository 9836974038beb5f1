import I2pr.TunnelBuilder

namespace I2pr

/-- Byte arrays of a fixed length, ordered as Rust orders them. -/
abbrev Bytes (n : Nat) := List.Vector UInt8 n

instance (n : Nat) : Ord (Bytes n) := ⟨fun a b => compare a.toList b.toList⟩

instance (n : Nat) : Std.TransOrd (Bytes n) :=
  inferInstanceAs (Std.TransCmp (compareOn List.Vector.toList))

instance (n : Nat) : Std.LawfulEqOrd (Bytes n) where
  eq_of_compare h := List.Vector.toList_injective (Std.LawfulEqOrd.eq_of_compare h)
  compare_self := Std.ReflOrd.compare_self (α := List UInt8)

def allZero {n : Nat} (bytes : Bytes n) : Bool :=
  bytes.toList.all (· = 0)

namespace Ecies

abbrev Key := Bytes 32
abbrev Tag := Bytes 8

instance : Std.TransOrd Key := inferInstance

instance : Std.TransOrd Tag := inferInstance

instance neZero_key : NeZero 32 := inferInstance

def representativeLength : Nat := 32
def staticPublicLength : Nat := 32
def sessionTagLength : Nat := 8
def aeadTagLen : Nat := 16
def boundNewSessionMinLength : Nat := representativeLength + staticPublicLength + aeadTagLen + aeadTagLen
def newSessionReplyMinLength : Nat := sessionTagLength + representativeLength + aeadTagLen + aeadTagLen
def existingSessionMinLength : Nat := sessionTagLength + aeadTagLen
def maxNewSessionCiphertext : Nat := 65507
def maxTagSetIndex : Nat := 65535
def maxTagSetRetainedKeys : Nat := 4096

/-- The HKDF and encryption failures of the source cannot occur at the lengths it uses and are left out. -/
inductive EciesError where
  | elligatorDecode
  | allZeroKey
  | invalidSharedSecret
  | authenticationFailed
  | ciphertextTooLarge (actual maximum : Nat)
  | ciphertextTooShort (actual minimum : Nat)
  | unboundNewSessionNotSupported
  | tagSetExhausted
  | tagSetIndexBeyondCeiling (index maximum : Nat)
  | randomnessUnavailable
deriving DecidableEq, Repr

def clampX25519Seed (seed : Key) : Key :=
  let low := seed.set 0 (seed.get 0 &&& 248)
  low.set 31 ((low.get 31 &&& 127) ||| 64)

def maskRepresentative (bytes : Key) : Key :=
  bytes.set 31 (bytes.get 31 &&& 0x3f)

/-- The primitives: SHA-256, the two halves of a 64-byte HKDF output, X25519, ChaCha20-Poly1305 under a message
number, and the Elligator2 maps. A secret acts through its clamped form, agreement is symmetric and never
all-zero between honest keys, a ciphertext opens exactly to what it was sealed from, and an encoded point is
decoded back. -/
structure EciesCrypto where
  sha256 : List UInt8 → Key
  hkdf : Key → List UInt8 → List UInt8 → Key × Key
  x25519Public : Key → Key
  x25519 : Key → Key → Key
  encrypt : Key → Nat → List UInt8 → List UInt8 → List UInt8
  decrypt : Key → Nat → List UInt8 → List UInt8 → Option (List UInt8)
  toRepresentative : Key → UInt8 → Option Key
  fromRepresentative : Key → Key
  public_clamp : ∀ secret, x25519Public (clampX25519Seed secret) = x25519Public secret
  public_ne_zero : ∀ secret, allZero (x25519Public secret) = false
  x25519_comm : ∀ a b, x25519 a (x25519Public b) = x25519 b (x25519Public a)
  x25519_ne_zero : ∀ a b, allZero (x25519 a (x25519Public b)) = false
  length_encrypt : ∀ key index plaintext aad, (encrypt key index plaintext aad).length = plaintext.length + aeadTagLen
  decrypt_eq_some : ∀ key index ciphertext aad plaintext,
    decrypt key index ciphertext aad = some plaintext ↔ ciphertext = encrypt key index plaintext aad
  from_to : ∀ point tweak representative, toRepresentative point tweak = some representative →
    fromRepresentative (maskRepresentative representative) = point

/-- `(p - 1) / 2` in little-endian bytes. -/
def elligatorCanonicalThresholdLe : List UInt8 :=
  0xf6 :: (List.replicate 30 0xff ++ [0x3f])

/-- The comparison loop over the bytes below `index`, from the most significant one down. -/
def isCanonicalBelow (masked : List UInt8) : Nat → Bool
  | 0 => false
  | index + 1 =>
    let byte := masked.getD index 0
    let bound := elligatorCanonicalThresholdLe.getD index 0
    if byte < bound then true
    else if bound < byte then false
    else isCanonicalBelow masked index

def isCanonicalElligatorRepresentative (masked : Key) : Bool :=
  isCanonicalBelow masked.toList representativeLength

namespace EciesCrypto

variable (c : EciesCrypto)

def decodeRepresentative (representative : Key) : Except EciesError Key :=
  if allZero representative then .error .elligatorDecode
  else
    let masked := maskRepresentative representative
    if !isCanonicalElligatorRepresentative masked then .error .elligatorDecode
    else
      let recovered := c.fromRepresentative masked
      if allZero recovered then .error .elligatorDecode else .ok recovered

def aeadDecrypt (key : Key) (index : Nat) (ciphertext aad : List UInt8) : Except EciesError (List UInt8) :=
  match c.decrypt key index ciphertext aad with
  | some plaintext => .ok plaintext
  | none => .error .authenticationFailed

theorem aeadDecrypt_encrypt (key : Key) (index : Nat) (plaintext aad : List UInt8) :
    c.aeadDecrypt key index (c.encrypt key index plaintext aad) aad = .ok plaintext := by
  rw [aeadDecrypt, (c.decrypt_eq_some _ _ _ _ plaintext).mpr rfl]

def diffieHellmanChecked (secret peerPublic : Key) : Except EciesError Key :=
  if allZero secret || allZero peerPublic then .error .allZeroKey
  else
    let shared := c.x25519 secret peerPublic
    if allZero shared then .error .invalidSharedSecret else .ok shared

end EciesCrypto

structure EciesEphemeralKeypair (c : EciesCrypto) where
  secretSeed : Key
  representative : Key
  decodes : c.fromRepresentative (maskRepresentative representative) = c.x25519Public secretSeed

theorem clampX25519Seed_mask (seed : Key) : clampX25519Seed (maskRepresentative seed) = clampX25519Seed seed := by
  have hbyte : ∀ b : UInt8, ((b &&& 0x3f) &&& 127) ||| 64 = (b &&& 127) ||| 64 := by decide +kernel
  have h031 : (0 : Fin 32) ≠ 31 := by decide
  apply List.Vector.ext
  intro i
  simp only [clampX25519Seed, maskRepresentative]
  by_cases h31 : (31 : Fin 32) = i
  · subst h31
    simp only [List.Vector.get_set_same, List.Vector.get_set_of_ne h031, hbyte]
  by_cases h0 : (0 : Fin 32) = i
  · subst h0
    simp only [List.Vector.get_set_same, List.Vector.get_set_of_ne h031.symm]
  · simp only [List.Vector.get_set_of_ne h31, List.Vector.get_set_of_ne h0]

namespace EciesEphemeralKeypair

variable (c : EciesCrypto)

/-- The seed that is kept lost its two high bits, which clamping overwrites. -/
def build (seed : Key) (tweak : UInt8) : Option (EciesEphemeralKeypair c) :=
  let publicPoint := c.x25519Public (clampX25519Seed seed)
  if allZero publicPoint then none
  else match h : c.toRepresentative publicPoint tweak with
    | none => none
    | some representative =>
      if allZero representative then none
      else some ⟨maskRepresentative seed, representative, by
        rw [c.from_to _ _ _ h, ← c.public_clamp (maskRepresentative seed), clampX25519Seed_mask]⟩

variable {σ : Type} (rng : CryptoRng σ)

/-- The attempts that are left: a seed and a tweak are drawn for each. -/
def generateFrom : Nat → σ → Except EciesError (EciesEphemeralKeypair c × σ)
  | 0, _ => .error .randomnessUnavailable
  | attempts + 1, s =>
    match rng.tryFillBytes 32 s with
    | none => .error .randomnessUnavailable
    | some (seed, s) =>
      match rng.tryFillBytes 1 s with
      | none => .error .randomnessUnavailable
      | some (tweak, s) =>
        match build c seed tweak.head with
        | some candidate => .ok (candidate, s)
        | none => generateFrom attempts s

def generate (s : σ) : Except EciesError (EciesEphemeralKeypair c × σ) :=
  generateFrom c rng 64 s

end EciesEphemeralKeypair

structure EciesNoiseState where
  chainingKey : Key
  transcriptHash : Key

/-- "Noise_IKelg2+hs2_25519_ChaChaPoly_SHA256". -/
def eciesNoiseProtocolName : List UInt8 :=
  [0x4e, 0x6f, 0x69, 0x73, 0x65, 0x5f, 0x49, 0x4b, 0x65, 0x6c, 0x67, 0x32, 0x2b, 0x68, 0x73, 0x32, 0x5f, 0x32, 0x35,
    0x35, 0x31, 0x39, 0x5f, 0x43, 0x68, 0x61, 0x43, 0x68, 0x61, 0x50, 0x6f, 0x6c, 0x79, 0x5f, 0x53, 0x48, 0x41, 0x32,
    0x35, 0x36]

namespace EciesNoiseState

variable (c : EciesCrypto)

def new : EciesNoiseState :=
  let h0 := c.sha256 eciesNoiseProtocolName
  ⟨h0, c.sha256 h0.toList⟩

def mixHash (state : EciesNoiseState) (data : List UInt8) : EciesNoiseState :=
  { state with transcriptHash := c.sha256 (state.transcriptHash.toList ++ data) }

/-- The state with the next chaining key, and the key for the AEAD operation that follows. -/
def mixKey (state : EciesNoiseState) (ikm : Key) : EciesNoiseState × Key :=
  let (nextCk, aeadKey) := c.hkdf state.chainingKey ikm.toList []
  ({ state with chainingKey := nextCk }, aeadKey)

end EciesNoiseState

end Ecies

end I2pr

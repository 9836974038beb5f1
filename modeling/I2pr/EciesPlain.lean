import I2pr.EciesTagWindow

namespace I2pr.Ecies

def plainHash (data : List UInt8) : Key :=
  data.foldl (fun (held : Key) byte => ⟨held.toList.drop 1 ++ [held.toList.headD 0 * 3 + byte + 7], by simp⟩)
    (.replicate 32 1)

def plainCountUp (key : Key) : Key :=
  ⟨BigEndian.encode 4 (BigEndian.decode (key.toList.take 4) + 1) ++ key.toList.drop 4, by simp⟩

def plainDerived (data : List UInt8) : Key :=
  ⟨List.replicate 4 0 ++ (plainHash data).toList.take 28, by simp⟩

def plainHkdf (salt : Key) (ikm info : List UInt8) : Key × Key :=
  if info = sessionTagKeyGen ∨ info = symmetricRatchet then (plainCountUp salt, salt)
  else (plainDerived (salt.toList ++ (ikm ++ (info ++ [1]))), plainDerived (salt.toList ++ (ikm ++ (info ++ [2]))))

def plainAgree (secret point : Key) : Key :=
  (List.Vector.map₂ (· + ·) (clampX25519Seed secret) point).set 0 1

def plainMac (key : Key) (index : Nat) (aad : List UInt8) : List UInt8 :=
  (plainHash (key.toList ++ (UInt8.ofNat index :: aad))).toList.take 16

def plainEncrypt (key : Key) (index : Nat) (plaintext aad : List UInt8) : List UInt8 :=
  plaintext ++ plainMac key index aad

def plainDecrypt (key : Key) (index : Nat) (ciphertext aad : List UInt8) : Option (List UInt8) :=
  if ciphertext = plainEncrypt key index (ciphertext.take (ciphertext.length - 16)) aad then
    some (ciphertext.take (ciphertext.length - 16))
  else none

/-- The two high bits of a clamped point are fixed, so that a representative has room for the tweak. -/
def plainToRepresentative (point : Key) (tweak : UInt8) : Option Key :=
  if point.get 31 &&& 0xc0 = 64 then some (point.set 31 (point.get 31 &&& 0x3f ||| tweak &&& 0xc0)) else none

def plainFromRepresentative (masked : Key) : Key :=
  masked.set 31 (masked.get 31 ||| 64)

theorem get_clamp (seed : Key) : (clampX25519Seed seed).get 31 = seed.get 31 &&& 127 ||| 64 := by
  have h031 : (0 : Fin 32) ≠ 31 := by decide
  simp only [clampX25519Seed, List.Vector.get_set_same, List.Vector.get_set_of_ne h031]

theorem allZero_eq_false {n : Nat} {bytes : Bytes n} {i : Fin n} (h : bytes.get i ≠ 0) : allZero bytes = false := by
  rw [allZero, List.all_eq_false]
  exact ⟨bytes.get i, List.Vector.get_mem i bytes, by simpa using h⟩

def EciesCrypto.plain : EciesCrypto where
  sha256 := plainHash
  hkdf := plainHkdf
  x25519Public := clampX25519Seed
  x25519 := plainAgree
  encrypt := plainEncrypt
  decrypt := plainDecrypt
  toRepresentative := plainToRepresentative
  fromRepresentative := plainFromRepresentative
  public_clamp seed := by
    have hlow : ∀ b : UInt8, b &&& 248 &&& 248 = b &&& 248 := by decide +kernel
    have hhigh : ∀ b : UInt8, (b &&& 127 ||| 64) &&& 127 ||| 64 = b &&& 127 ||| 64 := by decide +kernel
    have h031 : (0 : Fin 32) ≠ 31 := by decide
    apply List.Vector.ext
    intro i
    simp only [clampX25519Seed]
    by_cases h31 : (31 : Fin 32) = i
    · subst h31
      simp only [List.Vector.get_set_same, List.Vector.get_set_of_ne h031, hhigh]
    by_cases h0 : (0 : Fin 32) = i
    · subst h0
      simp only [List.Vector.get_set_same, List.Vector.get_set_of_ne h031.symm, hlow]
    · simp only [List.Vector.get_set_of_ne h31, List.Vector.get_set_of_ne h0]
  public_ne_zero secret := by
    have hbyte : ∀ b : UInt8, b &&& 127 ||| 64 ≠ 0 := by decide +kernel
    exact allZero_eq_false (i := 31) (by rw [get_clamp]; exact hbyte _)
  x25519_comm a b := by
    have : List.Vector.map₂ (· + ·) (clampX25519Seed a) (clampX25519Seed b) =
        List.Vector.map₂ (· + ·) (clampX25519Seed b) (clampX25519Seed a) := by
      apply List.Vector.ext
      intro i
      simp only [List.Vector.get_map₂, add_comm]
    simp only [plainAgree, this]
  x25519_ne_zero a b := allZero_eq_false (i := 0) (by rw [plainAgree, List.Vector.get_set_same]; decide)
  length_encrypt key index plaintext aad := by simp [plainEncrypt, plainMac, aeadTagLen]
  decrypt_eq_some key index ciphertext aad plaintext := by
    constructor
    · intro h
      unfold plainDecrypt at h
      split at h
      next heq =>
        cases h
        exact heq
      · cases h
    · rintro rfl
      have htake : (plainEncrypt key index plaintext aad).take ((plainEncrypt key index plaintext aad).length - 16) =
          plaintext := by simp [plainEncrypt, plainMac]
      simp only [plainDecrypt, htake, if_true]
  from_to point tweak representative h := by
    have hbyte : ∀ b t : UInt8, b &&& 0xc0 = 64 → (b &&& 0x3f ||| t &&& 0xc0) &&& 0x3f ||| 64 = b := by
      intro b t hb
      have hfree : t &&& 0xc0 &&& 0x3f = 0 := by
        rw [UInt8.and_assoc]
        exact UInt8.and_zero
      have hrest : ∀ b : UInt8, b &&& 0xc0 = 64 → b &&& 0x3f &&& 0x3f ||| 64 = b := by decide +kernel
      have hsplit : (b &&& 0x3f ||| t &&& 0xc0) &&& 0x3f = b &&& 0x3f &&& 0x3f ||| t &&& 0xc0 &&& 0x3f :=
        UInt8.toBitVec_inj.mp BitVec.and_or_distrib_right
      rw [hsplit, hfree, UInt8.or_zero]
      exact hrest b hb
    unfold plainToRepresentative at h
    split at h
    next htop =>
      cases h
      apply List.Vector.ext
      intro i
      simp only [plainFromRepresentative, maskRepresentative]
      by_cases h31 : (31 : Fin 32) = i
      · subst h31
        simp only [List.Vector.get_set_same, hbyte _ _ htop]
      · simp only [List.Vector.get_set_of_ne h31]
    · cases h

def countingRng : CryptoRng Nat where
  tryFillBytes n s := some (.replicate n (UInt8.ofNat s), s + 1)

open EciesTagSet

theorem toList_state_plain (tagConstant : Key) {key : Key} (hkey : key.toList.take 4 = BigEndian.encode 4 0) {n : Nat}
    (hn : n < 256 ^ 4) :
    (KeyChain.state (ratchetTag .plain tagConstant) key n).toList = BigEndian.encode 4 n ++ key.toList.drop 4 := by
  induction n with
  | zero =>
    rw [← hkey, List.take_append_drop]
    rfl
  | succ n ih =>
    have hlast := ih (by omega)
    change (plainCountUp (KeyChain.state (ratchetTag .plain tagConstant) key n)).toList = _
    unfold plainCountUp
    simp only [List.Vector.toList_mk, hlast]
    rw [List.take_left' (by simp), List.drop_left' (by simp), BigEndian.decode_encode (by omega)]

/-- The tags of a root whose chain key starts with a zero counter are numbered. -/
theorem tagsDistinct_plain {root : EciesTagSet} (hroot : root.tagChainKey.toList.take 4 = BigEndian.encode 4 0) :
    root.TagsDistinct .plain := by
  have hnumber (n : Nat) (hn : n < maxTagSetIndex - 1) :
      BigEndian.decode ((root.tagAt .plain n).toList.take 4) = n := by
    have hlt : n < 256 ^ 4 := by
      rw [maxTagSetIndex] at hn
      omega
    change BigEndian.decode
      (((KeyChain.state (ratchetTag .plain root.tagConstant) root.tagChainKey n).toList.take 8).take 4) = n
    rw [toList_state_plain _ hroot hlt, List.take_take, List.take_left' (by simp), BigEndian.decode_encode hlt]
  intro m n hm hn heq
  rw [← hnumber m hm, ← hnumber n hn, heq]

end I2pr.Ecies

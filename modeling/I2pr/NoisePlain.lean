import I2pr.EciesPlain
import I2pr.Ntcp2Crypto

namespace I2pr

open Ecies

/-- Primitives of a Noise handshake that run, and that satisfy the laws. -/
def plainPrimitives : Noise.Primitives where
  hash := plainHash
  mac key data := plainHash (key.toList ++ data)
  publicKey := clampX25519Seed
  agree := plainAgree
  encrypt := plainEncrypt
  decrypt := plainDecrypt
  publicKey_ne_zero := EciesCrypto.plain.public_ne_zero
  agree_comm := EciesCrypto.plain.x25519_comm
  agree_ne_zero := EciesCrypto.plain.x25519_ne_zero
  length_encrypt := EciesCrypto.plain.length_encrypt
  decrypt_eq_some := EciesCrypto.plain.decrypt_eq_some

/-- A block cipher that masks with the first half of its key. -/
def Ntcp2.Ntcp2Crypto.plain : Ntcp2Crypto where
  toPrimitives := plainPrimitives
  aesEncrypt key block := xorBlock block (firstBlock key)
  aesDecrypt key block := xorBlock block (firstBlock key)
  aesDecrypt_encrypt _ _ := xorBlock_xorBlock ..
  aesEncrypt_decrypt _ _ := xorBlock_xorBlock ..

end I2pr

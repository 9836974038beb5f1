import I2pr.Ssu2BlockParse
import I2pr.Lib.XorMask

namespace I2pr.Ssu2

open BigEndian List

def shortHeaderLength : Nat := 16
def minDatagramLength : Nat := 40
def minPostHeaderBytes : Nat := 24
def minHandshakePayloadBytes : Nat := 8
def authTagLength : Nat := 16

inductive HeaderError where
  | truncated
  | trailingBytes
  | unknownMessageType
  | wrongHeaderForm
  | invalidFlags

inductive DatagramLengthClass where
  | fitsBoth
  | ipv4Only

/-- `DatagramLengthClass::classify`; `none` is either of its errors. -/
def DatagramLengthClass.classify (length : Nat) : Option DatagramLengthClass :=
  if length < minDatagramLength then none
  else if maxDatagramIpv4Length < length then none
  else if maxDatagramIpv6Length < length then some ipv4Only
  else some fitsBoth

structure DataHeader where
  dstConnId : UInt64
  packetNumber : UInt32
  immediateAck : Bool

namespace DataHeader

def messageData : UInt8 := 6

def encode (h : DataHeader) : List UInt8 :=
  BigEndian.encode 8 h.dstConnId.toNat ++ (BigEndian.encode 4 h.packetNumber.toNat ++
    [messageData, if h.immediateAck then 1 else 0, 0, 0])

def decode (input : List UInt8) : Except HeaderError DataHeader :=
  if input.length < shortHeaderLength then .error .truncated
  else if shortHeaderLength < input.length then .error .trailingBytes
  else if byteAt input 12 ∉ ([0, 1, 2, 6, 7, 9, 10, 11] : List UInt8) then .error .unknownMessageType
  else if byteAt input 12 ≠ messageData then .error .wrongHeaderForm
  else if byteAt input 13 &&& 0xFE ≠ 0 then .error .invalidFlags
  else if u16At input 14 ≠ 0 then .error .invalidFlags
  else .ok ⟨u64At input 0, u32At input 8, byteAt input 13 &&& 0x01 != 0⟩

@[simp] theorem length_encode (h : DataHeader) : h.encode.length = shortHeaderLength := by
  simp [encode, shortHeaderLength]

theorem decode_encode (h : DataHeader) : decode h.encode = .ok h := by
  have htail : h.encode.drop 12 = [messageData, if h.immediateAck then 1 else 0, 0, 0] := by
    rw [encode, ← append_assoc]
    exact drop_left' (by simp)
  have hbyte (i : Nat) : byteAt h.encode (12 + i) = (h.encode.drop 12).getD i 0 := by
    simp [byteAt]
  have htype : byteAt h.encode 12 = messageData := by rw [hbyte 0, htail]; rfl
  have himm : byteAt h.encode 13 = if h.immediateAck then 1 else 0 := by rw [hbyte 1, htail]; rfl
  have hflags : u16At h.encode 14 = 0 := by
    have hdrop : h.encode.drop 14 = [0, 0] := by rw [← drop_drop (i := 2) (j := 12), htail]; rfl
    rw [u16At, slice, hdrop]
    rfl
  have hid : u64At h.encode 0 = h.dstConnId := by
    rw [u64At, encode, slice_zero_append (BigEndian.length_encode 8 _), decode_encode_u64]
  have hnumber : u32At h.encode 8 = h.packetNumber := by
    rw [u32At, encode, slice_append (BigEndian.length_encode 8 _) (BigEndian.length_encode 4 _), decode_encode_u32]
  have hclear : (if h.immediateAck then 1 else 0 : UInt8) &&& 0xFE = 0 := by cases h.immediateAck <;> decide
  have hset : ((if h.immediateAck then 1 else 0 : UInt8) &&& 0x01 != 0) = h.immediateAck := by
    cases h.immediateAck <;> decide
  rw [decode, if_neg (by simp), if_neg (by simp), htype, himm, hflags, hid, hnumber, hclear, hset]
  simp [messageData]

end DataHeader

abbrev Key := List.Vector UInt8 32

/-- ChaCha20-Poly1305 and the ChaCha20 header mask, with the laws the session relies on: payloads of
datagram size can be sealed, a tag is appended, and opening under the same number and header undoes
sealing. -/
structure DataCrypto where
  aeadSeal : Key → UInt32 → List UInt8 → List UInt8 → Option (List UInt8)
  aeadOpen : Key → UInt32 → List UInt8 → List UInt8 → Option (List UInt8)
  chachaMask : Key → List UInt8 → List UInt8
  seal_isSome : ∀ key number header plaintext, plaintext.length ≤ maxDatagramIpv4Length →
    (aeadSeal key number header plaintext).isSome
  seal_length : ∀ key number header plaintext sealed, aeadSeal key number header plaintext = some sealed →
    sealed.length = plaintext.length + authTagLength
  open_seal : ∀ key number header plaintext sealed, aeadSeal key number header plaintext = some sealed →
    aeadOpen key number header sealed = some plaintext
  mask_length : ∀ key iv, (chachaMask key iv).length = 8

/-- `apply_header_protection` of a short header, which has no third part: the masks of the two header
halves come from the last 24 bytes of the datagram. -/
def applyHeaderProtection (c : DataCrypto) (datagram : List UInt8) (kHeader1 kHeader2 : Key) : Option (List UInt8) :=
  if datagram.length < minDatagramLength then none
  else
    let tail := datagram.drop (datagram.length - 24)
    let mask1 := c.chachaMask kHeader1 (tail.take 12)
    let mask2 := c.chachaMask kHeader2 (slice tail 12 12)
    some (XorMask.apply (datagram.take 8) mask1 ++ (XorMask.apply (slice datagram 8 8) mask2 ++ datagram.drop 16))

/-- `remove_header_protection` of a short header, in the reverse order. -/
def removeHeaderProtection (c : DataCrypto) (datagram : List UInt8) (kHeader1 kHeader2 : Key) : Option (List UInt8) :=
  if datagram.length < minDatagramLength then none
  else
    let mask2 := c.chachaMask kHeader2 (datagram.drop (datagram.length - 12))
    let half := datagram.take 8 ++ (XorMask.apply (slice datagram 8 8) mask2 ++ datagram.drop 16)
    let mask1 := c.chachaMask kHeader1 (slice half (half.length - 24) 12)
    some (XorMask.apply (half.take 8) mask1 ++ half.drop 8)

theorem drop_halves {first second : List UInt8} (hfirst : first.length = 8) (hsecond : second.length = 8)
    (rest : List UInt8) (k : Nat) : (first ++ (second ++ rest)).drop (16 + k) = rest.drop k := by
  rw [← drop_drop, ← append_assoc, drop_left' (by simp [hfirst, hsecond])]

section Halves

variable (c : DataCrypto) {first second rest : List UInt8} (kHeader1 kHeader2 : Key)

def maskHalves (first second rest : List UInt8) : List UInt8 :=
  XorMask.apply first (c.chachaMask kHeader1 (slice rest (rest.length - 24) 12)) ++
    (XorMask.apply second (c.chachaMask kHeader2 (rest.drop (rest.length - 12))) ++ rest)

theorem applyHeaderProtection_append (hfirst : first.length = 8) (hsecond : second.length = 8)
    (hrest : 24 ≤ rest.length) : applyHeaderProtection c (first ++ (second ++ rest)) kHeader1 kHeader2 =
      some (maskHalves c kHeader1 kHeader2 first second rest) := by
  have hlength : (first ++ (second ++ rest)).length = 16 + rest.length := by
    simp only [length_append, hfirst, hsecond]
    omega
  have htail : (first ++ (second ++ rest)).drop (16 + rest.length - 24) = rest.drop (rest.length - 24) := by
    rw [← drop_halves hfirst hsecond rest (rest.length - 24)]
    congr 1
    omega
  have hiv2 : slice (rest.drop (rest.length - 24)) 12 12 = rest.drop (rest.length - 12) := by
    rw [slice, drop_drop, take_of_length_le (by simp; omega)]
    congr 1
    omega
  rw [applyHeaderProtection, if_neg (by rw [hlength, minDatagramLength]; omega)]
  simp only [hlength, htail, hiv2, maskHalves, take_left' hfirst, slice_append hfirst hsecond,
    drop_halves hfirst hsecond rest 0, drop_zero]
  rfl

theorem removeHeaderProtection_append (hfirst : first.length = 8) (hsecond : second.length = 8)
    (hrest : 24 ≤ rest.length) : removeHeaderProtection c (first ++ (second ++ rest)) kHeader1 kHeader2 =
      some (maskHalves c kHeader1 kHeader2 first second rest) := by
  have hdrop {middle : List UInt8} (hmiddle : middle.length = 8) {n : Nat} (hn : n ≤ 24) :
      (first ++ (middle ++ rest)).drop ((first ++ (middle ++ rest)).length - n) = rest.drop (rest.length - n) := by
    rw [← drop_halves hfirst hmiddle rest (rest.length - n)]
    congr 1
    simp only [length_append, hfirst, hmiddle]
    omega
  have hmasked (mask : List UInt8) (hmask : mask.length = 8) : (XorMask.apply second mask).length = 8 := by
    rw [XorMask.length_apply (by rw [hsecond, hmask]), hsecond]
  have hlength : ¬ (first ++ (second ++ rest)).length < minDatagramLength := by
    simp only [length_append, hfirst, hsecond, minDatagramLength]
    omega
  rw [removeHeaderProtection, if_neg hlength]
  simp only [hdrop hsecond (show 12 ≤ 24 by omega), take_left' hfirst, slice_append hfirst hsecond,
    drop_halves hfirst hsecond rest 0, drop_zero, drop_left' hfirst]
  simp only [slice, hdrop (hmasked _ (c.mask_length _ _)) le_rfl]
  rfl

end Halves

theorem exists_halves {datagram : List UInt8} (h : minDatagramLength ≤ datagram.length) :
    ∃ first second rest, datagram = first ++ (second ++ rest) ∧ first.length = 8 ∧ second.length = 8 ∧
      24 ≤ rest.length := by
  rw [minDatagramLength] at h
  refine ⟨datagram.take 8, (datagram.drop 8).take 8, (datagram.drop 8).drop 8, ?_, ?_, ?_, ?_⟩
  · simp only [take_append_drop]
  all_goals
    simp
    omega

theorem length_maskHalves (c : DataCrypto) {first second : List UInt8} (kHeader1 kHeader2 : Key)
    (hfirst : first.length = 8) (hsecond : second.length = 8) (rest : List UInt8) :
    (maskHalves c kHeader1 kHeader2 first second rest).length = (first ++ (second ++ rest)).length := by
  unfold maskHalves
  simp only [length_append]
  rw [XorMask.length_apply (by rw [hfirst, c.mask_length]), XorMask.length_apply (by rw [hsecond, c.mask_length])]

theorem applyHeaderProtection_isSome (c : DataCrypto) {datagram : List UInt8} (kHeader1 kHeader2 : Key)
    (h : minDatagramLength ≤ datagram.length) :
    ∃ wire, applyHeaderProtection c datagram kHeader1 kHeader2 = some wire ∧ wire.length = datagram.length := by
  obtain ⟨first, second, rest, rfl, hfirst, hsecond, hrest⟩ := exists_halves h
  exact ⟨_, applyHeaderProtection_append c _ _ hfirst hsecond hrest, length_maskHalves c _ _ hfirst hsecond rest⟩

theorem removeHeaderProtection_applyHeaderProtection {c : DataCrypto} {datagram wire : List UInt8}
    {kHeader1 kHeader2 : Key} (h : applyHeaderProtection c datagram kHeader1 kHeader2 = some wire) :
    removeHeaderProtection c wire kHeader1 kHeader2 = some datagram := by
  have hlong : minDatagramLength ≤ datagram.length := by
    by_contra hshort
    rw [applyHeaderProtection, if_pos (not_le.mp hshort)] at h
    cases h
  obtain ⟨first, second, rest, rfl, hfirst, hsecond, hrest⟩ := exists_halves hlong
  rw [applyHeaderProtection_append c _ _ hfirst hsecond hrest] at h
  cases Option.some.inj h
  unfold maskHalves
  have hmask (key : Key) (iv bytes : List UInt8) (hlen : bytes.length = 8) :
      bytes.length = (c.chachaMask key iv).length := by
    rw [hlen, c.mask_length]
  rw [removeHeaderProtection_append c _ _ (by rw [XorMask.length_apply (hmask _ _ _ hfirst), hfirst])
    (by rw [XorMask.length_apply (hmask _ _ _ hsecond), hsecond]) hrest,
    maskHalves, XorMask.apply_apply (hmask _ _ _ hfirst), XorMask.apply_apply (hmask _ _ _ hsecond)]

/-- The laws leave room for a cipher that hides nothing; concrete runs use it. -/
def DataCrypto.plain : DataCrypto where
  aeadSeal _ _ _ plaintext := some (plaintext ++ List.replicate authTagLength 0)
  aeadOpen _ _ _ ciphertext := some (ciphertext.take (ciphertext.length - authTagLength))
  chachaMask _ _ := List.replicate 8 0
  seal_isSome := by simp
  seal_length := by
    rintro key number header plaintext sealed ⟨⟩
    simp
  open_seal := by
    rintro key number header plaintext sealed ⟨⟩
    simp
  mask_length := by simp

end I2pr.Ssu2

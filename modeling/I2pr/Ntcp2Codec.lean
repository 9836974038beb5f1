import I2pr.Ntcp2Handshake

namespace I2pr.Ntcp2

open BigEndian List
open Noise (Key)

theorem decode_encode_u16 (x : UInt16) : BigEndian.decode (BigEndian.encode 2 x.toNat) = x.toNat :=
  BigEndian.decode_encode (lt_of_lt_of_eq x.toNat_lt rfl)

theorem decode_encode_zero (w : Nat) : BigEndian.decode (BigEndian.encode w 0) = 0 :=
  BigEndian.decode_encode (by positivity)

namespace SessionRequestOptions

theorem length_encode (options : SessionRequestOptions) : options.encode.length = optionBlockLength := by
  simp [encode, optionBlockLength]

theorem decode_encode {options : SessionRequestOptions} (hversion : options.version = ntcp2Version)
    (hlow : authTagLength ≤ options.sessionConfirmedPart2Length.toNat)
    (hhigh : options.sessionConfirmedPart2Length.toNat ≤ maxSessionConfirmedPart2) :
    decode options.encode = .ok options := by
  have hpadding : slice options.encode 2 2 = BigEndian.encode 2 options.paddingLength.toNat := by
    simp (disch := simp) [encode, slice_succ_cons, slice_zero_append]
  have hpart2 : slice options.encode 4 2 = BigEndian.encode 2 options.sessionConfirmedPart2Length.toNat := by
    simp (disch := simp) [encode, slice_succ_cons, slice_append_right, slice_zero_append]
  have hreserved : slice options.encode 6 2 = BigEndian.encode 2 0 := by
    simp (disch := simp) [encode, slice_succ_cons, slice_append_right, slice_zero_append]
  have htimestamp : slice options.encode 8 4 = BigEndian.encode 4 options.timestamp.toNat := by
    simp (disch := simp) [encode, slice_succ_cons, slice_append_right, slice_zero_append]
  have htail : slice options.encode 12 4 = BigEndian.encode 4 0 := by
    simp (disch := simp) [encode, slice_succ_cons, slice_append_right, slice_self]
  unfold decode
  rw [if_neg (not_not.mpr options.length_encode)]
  dsimp only
  rw [hpadding, hpart2, hreserved, htimestamp, htail, decode_encode_zero, decode_encode_zero, decode_encode_u16,
    if_neg (by simp), if_neg (by simpa [encode] using hversion), if_neg (by omega), UInt16.ofNat_toNat,
    decode_encode_u16, UInt16.ofNat_toNat, decode_encode_u32]
  rfl

theorem new_eq_ok {networkId : UInt8} {paddingLength part2Length timestamp : Nat} {options : SessionRequestOptions} :
    new networkId paddingLength part2Length timestamp = .ok options ↔
      (timestamp < 2 ^ 32 ∧ paddingLength < 2 ^ 16 ∧ authTagLength ≤ part2Length ∧
        part2Length ≤ maxSessionConfirmedPart2) ∧
      options = ⟨networkId, ntcp2Version, .ofNat paddingLength, .ofNat part2Length, .ofNat timestamp⟩ := by
  have hmax : maxSessionConfirmedPart2 = 65487 := rfl
  unfold new
  by_cases h : timestamp < 2 ^ 32 ∧ paddingLength < 2 ^ 16 ∧ authTagLength ≤ part2Length ∧
      part2Length ≤ maxSessionConfirmedPart2
  · rw [if_neg (by omega), if_neg (by omega), if_neg (by omega), if_neg (by omega), Except.ok.injEq]
    simp only [h, and_self, true_and]
    exact eq_comm
  · simp only [h, false_and, iff_false]
    repeat (split; · simp)
    omega

end SessionRequestOptions

namespace SessionCreatedOptions

theorem length_encode (options : SessionCreatedOptions) : options.encode.length = optionBlockLength := by
  simp [encode, optionBlockLength]

theorem decode_encode (options : SessionCreatedOptions) : decode options.encode = .ok options := by
  have hlead : slice options.encode 0 2 = BigEndian.encode 2 0 := by
    simp (disch := simp) [encode, slice_zero_append]
  have hpadding : slice options.encode 2 2 = BigEndian.encode 2 options.paddingLength.toNat := by
    simp (disch := simp) [encode, slice_append_right, slice_zero_append]
  have hhalves : BigEndian.encode 4 0 = BigEndian.encode 2 0 ++ BigEndian.encode 2 0 := rfl
  have hreserved : slice options.encode 4 2 = BigEndian.encode 2 0 := by
    simp (disch := simp) [encode, hhalves, slice_append_right, slice_zero_append]
  have hreserved' : slice options.encode 6 2 = BigEndian.encode 2 0 := by
    simp (disch := simp) [encode, hhalves, slice_append_right, slice_zero_append]
  have htimestamp : slice options.encode 8 4 = BigEndian.encode 4 options.timestamp.toNat := by
    simp (disch := simp) [encode, slice_append_right, slice_zero_append]
  have htail : slice options.encode 12 4 = BigEndian.encode 4 0 := by
    simp (disch := simp) [encode, slice_append_right, slice_self]
  unfold decode
  rw [if_neg (not_not.mpr options.length_encode), hlead, hpadding, hreserved, hreserved', htimestamp, htail,
    decode_encode_zero, decode_encode_zero]
  simp only [ne_eq, not_true_eq_false, if_false]
  rw [decode_encode_u16, UInt16.ofNat_toNat, decode_encode_u32]

theorem new_eq_ok {paddingLength timestamp : Nat} {options : SessionCreatedOptions} :
    new paddingLength timestamp = .ok options ↔
      (paddingLength < 2 ^ 16 ∧ timestamp < 2 ^ 32) ∧ options = ⟨.ofNat paddingLength, .ofNat timestamp⟩ := by
  unfold new
  by_cases h : paddingLength < 2 ^ 16 ∧ timestamp < 2 ^ 32
  · rw [if_neg (by omega), if_neg (by omega), Except.ok.injEq]
    simp only [h, and_self, true_and]
    exact eq_comm
  · simp only [h, false_and, iff_false]
    repeat (split; · simp)
    omega

end SessionCreatedOptions

namespace EphemeralMessage

variable {maxPadding maximum : Nat}

theorem new_eq_ok {encryptedEphemeral : Key} {encryptedOptions padding : List UInt8} {message : EphemeralMessage}
    (hmax : maxPadding ≤ maxSessionRequestPadding) :
    new maxPadding encryptedEphemeral encryptedOptions padding = .ok message ↔
      (encryptedOptions.length = handshakeOptionsFrameLength ∧ padding.length ≤ maxPadding) ∧
        message = ⟨encryptedEphemeral, encryptedOptions, padding⟩ := by
  unfold new
  split
  next h => simp [h]
  next h =>
    split
    next hlong => simp [not_le.mpr hlong]
    next hlong =>
      have hlength := not_not.mp h
      have hpadding := not_lt.mp hlong
      rw [if_neg, Except.ok.injEq]
      · simp only [hlength, hpadding, and_self, true_and]
        exact eq_comm
      · simp only [encodedLen, hlength, maxHandshakeMessageLength, maxFrameLength, keyLength,
          handshakeOptionsFrameLength, optionBlockLength, authTagLength, maxSessionRequestPadding] at hmax ⊢
        omega

theorem decode_eq_ok {input : List UInt8} {message : EphemeralMessage} (hmax : maxPadding ≤ maxSessionRequestPadding)
    (hlength : input.length = minHandshakeMessageLength) :
    decode maxPadding input maxHandshakeMessageLength = .ok message ↔
      input = message.encryptedEphemeral.toList ++ message.encryptedOptions ∧ message.padding = [] := by
  have hmin : minHandshakeMessageLength = 64 := rfl
  have hmaximum : maxHandshakeMessageLength = 65535 := rfl
  have hframe : handshakeOptionsFrameLength = 32 := rfl
  have hoptions : slice input 32 handshakeOptionsFrameLength = input.drop 32 := by
    rw [slice, take_of_length_le]
    rw [length_drop]
    omega
  have hrest : input.drop 64 = [] := drop_eq_nil_of_le (by omega)
  unfold decode
  rw [dif_neg (by omega), if_neg (by omega), hoptions, hrest]
  refine (new_eq_ok hmax).trans ?_
  constructor
  · rintro ⟨-, rfl⟩
    exact ⟨(take_append_drop 32 input).symm, rfl⟩
  · rintro ⟨hinput, hpadding⟩
    obtain ⟨ephemeral, options, padding⟩ := message
    dsimp only at hinput hpadding
    subst hinput hpadding
    rw [length_append, ephemeral.toList_length] at hlength
    have hdrop : (ephemeral.toList ++ options).drop 32 = options := drop_left' ephemeral.toList_length
    have htake : ephemeral = ⟨(ephemeral.toList ++ options).take 32, by simp⟩ :=
      List.Vector.toList_injective (take_left' ephemeral.toList_length).symm
    exact ⟨⟨by rw [hdrop]; omega, Nat.zero_le _⟩, congrArg₂ (EphemeralMessage.mk · · []) htake hdrop.symm⟩

end EphemeralMessage

namespace SessionConfirmed

theorem new_eq_ok {staticFrame payloadFrame : List UInt8} {message : SessionConfirmed} :
    new staticFrame payloadFrame = .ok message ↔
      (staticFrame.length = sessionConfirmedPart1Length ∧ authTagLength ≤ payloadFrame.length ∧
        payloadFrame.length ≤ maxSessionConfirmedPart2) ∧ message = ⟨staticFrame, payloadFrame⟩ := by
  have hmax : maxSessionConfirmedLength = sessionConfirmedPart1Length + maxSessionConfirmedPart2 := rfl
  unfold new
  split
  next h =>
    simp only [reduceCtorEq, false_iff, not_and]
    omega
  next h =>
    rw [Except.ok.injEq, eq_comm]
    constructor
    · exact fun heq => ⟨by omega, heq⟩
    · exact fun heq => heq.2

theorem decode_eq_ok {input : List UInt8} {part2Length : Nat} {message : SessionConfirmed} :
    decode input part2Length maxSessionConfirmedLength = .ok message ↔
      (message.staticFrame.length = sessionConfirmedPart1Length ∧ message.payloadFrame.length = part2Length ∧
        authTagLength ≤ part2Length ∧ part2Length ≤ maxSessionConfirmedPart2) ∧
      input = message.staticFrame ++ message.payloadFrame := by
  have hmax : maxSessionConfirmedLength = sessionConfirmedPart1Length + maxSessionConfirmedPart2 := rfl
  unfold decode
  constructor
  · intro h
    split at h
    · cases h
    split at h
    · cases h
    split at h
    · cases h
    obtain ⟨⟨hstatic, hlow, hhigh⟩, rfl⟩ := new_eq_ok.mp h
    rw [length_drop] at hlow hhigh
    refine ⟨⟨hstatic, ?_, by omega, by omega⟩, (take_append_drop ..).symm⟩
    rw [length_drop]
    omega
  · rintro ⟨⟨hstatic, hpayload, hlow, hhigh⟩, rfl⟩
    have hlength : (message.staticFrame ++ message.payloadFrame).length = sessionConfirmedPart1Length + part2Length := by
      rw [length_append, hstatic, hpayload]
    rw [if_neg (by omega), if_neg (by omega), if_neg (by omega), take_left' hstatic, drop_left' hstatic]
    exact new_eq_ok.mpr ⟨⟨hstatic, by omega, by omega⟩, rfl⟩

end SessionConfirmed

namespace ConfirmedPayload

theorem new_padded_eq_ok {routerInfo padding : List UInt8} {payload : ConfirmedPayload}
    (hempty : routerInfo.isEmpty = false) :
    new routerInfo none (some padding) = .ok payload ↔
      7 + routerInfo.length + padding.length ≤ maxSessionConfirmedPart2Plaintext ∧
        payload = ⟨routerInfo, none, some padding⟩ := by
  have hmax : maxSessionConfirmedPart2Plaintext = 65471 := rfl
  have hinfo : maxRouterInfoPayload = 65536 := rfl
  have hlen : encodedLen ⟨routerInfo, none, some padding⟩ = 7 + routerInfo.length + padding.length := by
    simp only [encodedLen, blockLen, Option.elim_none, Option.elim_some]
    omega
  unfold new
  simp only [hempty, Bool.false_eq_true, false_or, Option.any_none, Option.any_some, decide_eq_true_eq]
  by_cases h : 7 + routerInfo.length + padding.length ≤ maxSessionConfirmedPart2Plaintext
  · rw [if_neg (by omega), if_neg (by omega), if_neg (by omega), Except.ok.injEq]
    simp only [h, true_and]
    exact eq_comm
  · simp only [h, false_and, iff_false]
    repeat (split; · simp)
    omega

theorem length_encode_padded (routerInfo padding : List UInt8) :
    (encode ⟨routerInfo, none, some padding⟩).length = 7 + routerInfo.length + padding.length := by
  simp [encode, encodeBlock]
  omega

theorem decode_encode_padded {routerInfo padding : List UInt8} (hempty : routerInfo.isEmpty = false)
    (hfits : 7 + routerInfo.length + padding.length ≤ maxSessionConfirmedPart2Plaintext) :
    decode (encode ⟨routerInfo, none, some padding⟩) maxRouterInfoPayload = .ok ⟨routerInfo, none, some padding⟩ := by
  have hmax : maxSessionConfirmedPart2Plaintext = 65471 := rfl
  have hlength := length_encode_padded routerInfo padding
  have hpos : 0 < routerInfo.length := length_pos_iff.mpr (by simpa using hempty)
  obtain ⟨input, hinput⟩ : ∃ input, encode ⟨routerInfo, none, some padding⟩ = input := ⟨_, rfl⟩
  have hhead : input = 2 :: (BigEndian.encode 2 (routerInfo.length + 1) ++ ((0 :: routerInfo) ++
      encodeBlock 254 padding)) := by
    rw [← hinput]
    simp [encode, encodeBlock]
  have hrouter : BigEndian.decode (slice input 1 2) = routerInfo.length + 1 := by
    rw [hhead, slice_succ_cons, slice_zero_append (BigEndian.length_encode ..), BigEndian.decode_encode (by omega)]
  have hblock : slice input 3 (routerInfo.length + 1) = 0 :: routerInfo := by
    rw [hhead, slice_succ_cons]
    exact slice_append (BigEndian.length_encode ..) rfl
  have hrest : input.drop (3 + (routerInfo.length + 1)) = encodeBlock 254 padding := by
    rw [hhead]
    simp [Nat.add_comm 3, drop_append]
  have hpadding : decodeBlocks (encodeBlock 254 padding).length (encodeBlock 254 padding) none none =
      .ok (none, some padding) := by
    have hlen : (encodeBlock 254 padding).length = padding.length + 3 := by
      simp only [encodeBlock, length_cons, length_append, BigEndian.length_encode]
      omega
    have hfirst : BigEndian.decode (slice (encodeBlock 254 padding) 1 2) = padding.length := by
      rw [encodeBlock, slice_succ_cons, slice_zero_append (BigEndian.length_encode ..),
        BigEndian.decode_encode (by omega)]
    have hbody : slice (encodeBlock 254 padding) 3 padding.length = padding := by
      rw [encodeBlock, slice_succ_cons, slice_append_right (by simp)]
      exact slice_self rfl
    have hnone : (encodeBlock 254 padding).drop (3 + padding.length) = [] := drop_eq_nil_of_le (by omega)
    rw [hlen, decodeBlocks]
    simp only [hfirst, hbody, hnone, hlen]
    rw [if_neg (by simp [encodeBlock]), if_neg (by omega), if_neg (by omega), if_neg (by simp [encodeBlock]),
      if_pos (by simp [encodeBlock]), if_neg (by simp)]
    unfold decodeBlocks
    rfl
  rw [hinput] at hlength ⊢
  unfold decode
  dsimp only
  rw [hrouter, hblock, hrest]
  have hinfo : maxRouterInfoPayload = 65536 := rfl
  have hnonempty : input.isEmpty = false := by
    rw [hhead]
    rfl
  have htype : input.headD 0 = 2 := by
    rw [hhead]
    rfl
  rw [if_neg (not_or.mpr ⟨by simp [hnonempty], by omega⟩), if_neg (by omega),
    if_neg (not_or.mpr ⟨not_not.mpr htype, by omega⟩), if_neg (by omega), if_neg (by simp), drop_one,
    tail_cons, if_neg (not_or.mpr ⟨by simp [hempty], by omega⟩), hpadding]
  exact (new_padded_eq_ok hempty).mpr ⟨hfits, rfl⟩

end ConfirmedPayload

end I2pr.Ntcp2

import I2pr.Ssu2Run

namespace I2pr.Ssu2

namespace Ssu2Session

/-- What `s` sends is protected by the keys `r` receives with. -/
structure Linked (s r : Ssu2Session) : Prop where
  intro_eq : r.localIntro = s.remoteIntro
  keys_eq : r.keys.receive = s.keys.transmit

variable {s r : Ssu2Session} {c : DataCrypto} {packetNumber : UInt32} {plaintext datagram : List UInt8}

def headerFor (s : Ssu2Session) (packetNumber : UInt32) : DataHeader :=
  ⟨s.remoteConnId, packetNumber, s.shouldRequestImmediateAck⟩

theorem sealPlaintext_eq_some (h : s.sealPlaintext c packetNumber plaintext = some datagram) :
    minDatagramLength ≤ datagram.length ∧ datagram.length ≤ maxDatagramIpv4Length ∧ ∃ ciphertext,
      c.aeadSeal s.keys.transmit.cipher packetNumber (s.headerFor packetNumber).encode plaintext = some ciphertext ∧
      applyHeaderProtection c ((s.headerFor packetNumber).encode ++ ciphertext) s.remoteIntro
        s.keys.transmit.headerKey2 = some datagram := by
  obtain ⟨ciphertext, hseal, h⟩ := Option.bind_eq_some_iff.mp h
  obtain ⟨wire, hwire, h⟩ := Option.bind_eq_some_iff.mp h
  split at h
  · cases h
  next hlength =>
    cases Option.some.inj h
    exact ⟨by omega, by omega, ciphertext, hseal, hwire⟩

theorem sealPlaintext_isSome (s : Ssu2Session) (c : DataCrypto) (packetNumber : UInt32)
    (hmin : minHandshakePayloadBytes ≤ plaintext.length)
    (hmax : shortHeaderLength + plaintext.length + authTagLength ≤ maxDatagramIpv4Length) :
    ∃ datagram, s.sealPlaintext c packetNumber plaintext = some datagram := by
  obtain ⟨ciphertext, hseal⟩ := Option.isSome_iff_exists.mp (c.seal_isSome s.keys.transmit.cipher packetNumber
    (s.headerFor packetNumber).encode plaintext (by omega))
  have hlength := c.seal_length _ _ _ _ _ hseal
  have htotal : ((s.headerFor packetNumber).encode ++ ciphertext).length =
      shortHeaderLength + plaintext.length + authTagLength := by
    rw [List.length_append, DataHeader.length_encode, hlength]
    omega
  have hlong : minDatagramLength ≤ shortHeaderLength + plaintext.length + authTagLength := by
    unfold minDatagramLength shortHeaderLength authTagLength
    unfold minHandshakePayloadBytes at hmin
    omega
  obtain ⟨wire, hwire, hwireLength⟩ := applyHeaderProtection_isSome c s.remoteIntro s.keys.transmit.headerKey2
    (htotal.symm ▸ hlong)
  refine ⟨wire, Option.bind_eq_some_iff.mpr ⟨ciphertext, hseal, Option.bind_eq_some_iff.mpr ⟨wire, hwire, ?_⟩⟩⟩
  rw [if_neg]
  omega

theorem Linked.openHeader (h : s.Linked r) (hseal : s.sealPlaintext c packetNumber plaintext = some datagram) :
    ∃ ciphertext, r.openHeader c datagram =
        some (s.headerFor packetNumber, (s.headerFor packetNumber).encode, ciphertext) ∧
      c.aeadOpen r.keys.receive.cipher packetNumber (s.headerFor packetNumber).encode ciphertext = some plaintext := by
  obtain ⟨hmin, hmax, ciphertext, hcipher, hwire⟩ := sealPlaintext_eq_some hseal
  refine ⟨ciphertext, ?_, ?_⟩
  · obtain ⟨cls, hclass⟩ : ∃ cls, DatagramLengthClass.classify datagram.length = some cls := by
      unfold DatagramLengthClass.classify
      rw [if_neg (by omega), if_neg (by omega)]
      split <;> exact ⟨_, rfl⟩
    have hremove := removeHeaderProtection_applyHeaderProtection hwire
    have hheader : ((s.headerFor packetNumber).encode ++ ciphertext).take shortHeaderLength =
        (s.headerFor packetNumber).encode := List.take_left' (DataHeader.length_encode _)
    have hrest : ((s.headerFor packetNumber).encode ++ ciphertext).drop shortHeaderLength = ciphertext :=
      List.drop_left' (DataHeader.length_encode _)
    have hsize : ¬ datagram.length < shortHeaderLength + minPostHeaderBytes := by
      unfold minDatagramLength at hmin
      unfold shortHeaderLength minPostHeaderBytes
      omega
    unfold Ssu2Session.openHeader
    rw [h.intro_eq, h.keys_eq]
    simp only [hclass, hsize, hremove, hheader, hrest, DataHeader.decode_encode, Option.bind_eq_bind, Option.bind_some,
      if_false, Except.toOption]
  · rw [h.keys_eq]
    exact c.open_seal _ _ _ _ _ hcipher

theorem Linked.receiveDatagram (h : s.Linked r) (hlive : r.isTerminated = false) {blocks : List Block}
    (hreads : ∀ b ∈ blocks, b.ReadsBack) (hencode : encodeBlocks blocks = .ok plaintext)
    (hseal : s.sealPlaintext c packetNumber plaintext = some datagram)
    (hadmitted : r.window.checkReplay packetNumber = .admissible) (nowMs : Nat) :
    r.receiveDatagram c nowMs datagram =
      r.receiveBlocks nowMs (s.headerFor packetNumber) (blocks.map Block.decoded) := by
  obtain ⟨ciphertext, hheader, hopen⟩ := h.openHeader hseal
  rw [receiveDatagram_open hlive hheader hadmitted hopen]
  simp only [receivePlaintext, parseBlocks_encodeBlocks hreads hencode]

end Ssu2Session

end I2pr.Ssu2

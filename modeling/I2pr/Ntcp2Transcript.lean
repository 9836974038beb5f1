import I2pr.Ntcp2StateMachine

namespace I2pr.Ntcp2

open Noise (Key CipherState SymmetricState)
open Fallible

/-- In this state the plaintext is sealed as the ciphertext, which opens as the plaintext. -/
def Carries (c : Ntcp2Crypto) (s : SymmetricState) (plaintext ciphertext : List UInt8) : Prop :=
  ∃ cipher, s.cipher = some cipher ∧ plaintext.length ≤ maxFramePlaintext ∧ cipher.number ≤ maxNonce ∧
    ciphertext = c.encrypt cipher.key cipher.number plaintext s.hash.toList

namespace Transcript

variable {c : Ntcp2Crypto} {t t' : Transcript} {plaintext ciphertext : List UInt8}

def used (c : Ntcp2Crypto) (t : Transcript) (ciphertext : List UInt8) : Transcript :=
  { t with toSymmetricState := t.toSymmetricState.used c.toPrimitives ciphertext }

theorem seal_eq_ok {cipher next : CipherState} {associated : List UInt8} :
    CipherState.seal c cipher plaintext associated = .ok (next, ciphertext) ↔
      plaintext.length ≤ maxFramePlaintext ∧ cipher.number ≤ maxNonce ∧
        ciphertext = c.encrypt cipher.key cipher.number plaintext associated ∧ next = cipher.next := by
  unfold CipherState.seal
  split
  next h => simp [not_le.mpr h]
  next h =>
    split
    next hnonce => simp [not_le.mpr hnonce]
    next hnonce =>
      rw [Except.ok.injEq, Prod.mk.injEq]
      constructor
      · rintro ⟨rfl, rfl⟩
        exact ⟨not_lt.mp h, not_lt.mp hnonce, rfl, rfl⟩
      · rintro ⟨-, -, rfl, rfl⟩
        exact ⟨rfl, rfl⟩

/-- Opening and sealing are the same relation between plaintext and ciphertext. -/
theorem open_eq_ok {cipher next : CipherState} {associated : List UInt8} :
    CipherState.open c cipher ciphertext associated = .ok (next, plaintext) ↔
      CipherState.seal c cipher plaintext associated = .ok (next, ciphertext) := by
  rw [seal_eq_ok]
  have hlength := c.length_encrypt cipher.key cipher.number plaintext associated
  have hframe : maxFrameLength = maxFramePlaintext + authTagLength := rfl
  have htag : authTagLength = 16 := rfl
  unfold CipherState.open
  constructor
  · intro h
    obtain ⟨hbounds, h⟩ := ite_error_eq_ok.mp h
    obtain ⟨hnonce, h⟩ := ite_error_eq_ok.mp h
    split at h
    · cases h
    next opened hopened =>
      cases h
      have hsealed := (c.decrypt_eq_some ..).mp hopened
      rw [← hsealed] at hlength
      exact ⟨by omega, not_lt.mp hnonce, hsealed, rfl⟩
  · rintro ⟨hplaintext, hnonce, rfl, rfl⟩
    rw [if_neg (by omega), if_neg (not_lt.mpr hnonce), Noise.decrypt_encrypt]

theorem encryptAndHash_eq_ok : t.encryptAndHash c plaintext = .ok (t', ciphertext) ↔
      Carries c t.toSymmetricState plaintext ciphertext ∧ t' = t.used c ciphertext := by
  unfold encryptAndHash Carries
  cases hcipher : t.cipher with
  | none => simp
  | some cipher =>
    simp only [bind_eq_ok, Prod.exists, seal_eq_ok, Except.ok.injEq, Prod.mk.injEq]
    constructor
    · rintro ⟨_, _, ⟨hlength, hnonce, rfl, rfl⟩, rfl, rfl⟩
      refine ⟨⟨cipher, rfl, hlength, hnonce, rfl⟩, ?_⟩
      simp only [used, SymmetricState.used, hcipher]
      rfl
    · rintro ⟨⟨_, ⟨⟩, hlength, hnonce, rfl⟩, rfl⟩
      refine ⟨_, _, ⟨hlength, hnonce, rfl, rfl⟩, ?_, rfl⟩
      simp only [used, SymmetricState.used, hcipher]
      rfl

theorem decryptAndHash_eq_ok : t.decryptAndHash c ciphertext = .ok (t', plaintext) ↔
      Carries c t.toSymmetricState plaintext ciphertext ∧ t' = t.used c ciphertext := by
  rw [← encryptAndHash_eq_ok]
  unfold decryptAndHash encryptAndHash
  cases t.cipher with
  | none => simp
  | some cipher =>
    simp only [bind_eq_ok, Prod.exists, open_eq_ok, Except.ok.injEq, Prod.mk.injEq]
    constructor
    · rintro ⟨next, _, h, rfl, rfl⟩
      exact ⟨next, _, h, rfl, rfl⟩
    · rintro ⟨next, _, h, rfl, rfl⟩
      exact ⟨next, _, h, rfl, rfl⟩

theorem gate_eq_ok {role : Role} {stage : TranscriptStage} {u : Unit} :
    t.gate role stage = .ok u ↔ t.role = role ∧ t.stage = stage := by
  unfold gate
  split
  next h => simp [h]
  next h =>
    split
    next hstage => simp [hstage]
    next hstage => simp [not_not.mp h, not_not.mp hstage]

/-- The state in which options are sealed, after the ephemeral key and its secret were mixed in. -/
def offering (c : Ntcp2Crypto) (t : Transcript) (ephemeral shared : Key) : Transcript :=
  (t.mixEphemeral c ephemeral).mixKey c shared

variable {role : Role} {before after : TranscriptStage} {ephemeral shared : Key}

/-- An operation of a role in a stage, which seals or opens and then moves on. -/
theorem gated_eq_ok {operation : Except Ntcp2CryptoError (Transcript × List UInt8)} {output : List UInt8}
    {u : List UInt8 → Transcript} {P : List UInt8 → Prop} (f : Transcript → Transcript)
    (h : ∀ t₁ output, operation = .ok (t₁, output) ↔ P output ∧ t₁ = u output) :
    (do
      t.gate role before
      let (t₁, output) ← operation
      .ok (f t₁, output)) = .ok (t', output) ↔
      (t.role = role ∧ t.stage = before) ∧ P output ∧ t' = f (u output) := by
  simp only [bind_eq_ok, gate_eq_ok, Prod.exists, h, Except.ok.injEq, Prod.mk.injEq]
  constructor
  · rintro ⟨-, hgate, _, _, ⟨hcarries, rfl⟩, rfl, rfl⟩
    exact ⟨hgate, hcarries, rfl⟩
  · rintro ⟨hgate, hcarries, rfl⟩
    exact ⟨(), hgate, _, _, ⟨hcarries, rfl⟩, rfl, rfl⟩

theorem sealOptions_eq_ok : t.sealOptions c role before after ephemeral shared plaintext = .ok (t', ciphertext) ↔
      (t.role = role ∧ t.stage = before) ∧
        Carries c (t.offering c ephemeral shared).toSymmetricState plaintext ciphertext ∧
        t' = { (t.offering c ephemeral shared).used c ciphertext with stage := after } := by
  exact gated_eq_ok ({ · with stage := after }) fun _ _ => encryptAndHash_eq_ok

theorem openOptions_eq_ok : t.openOptions c role before after ephemeral shared ciphertext = .ok (t', plaintext) ↔
      (t.role = role ∧ t.stage = before) ∧
        Carries c (t.offering c ephemeral shared).toSymmetricState plaintext ciphertext ∧
        t' = { (t.offering c ephemeral shared).used c ciphertext with stage := after } := by
  exact gated_eq_ok ({ · with stage := after }) fun _ _ => decryptAndHash_eq_ok

def padded (c : Ntcp2Crypto) (t : Transcript) (padding : List UInt8) : Transcript :=
  if padding.isEmpty then t else t.mixHash c padding

def TranscriptStage.padded : TranscriptStage → Option TranscriptStage
  | .message1Complete => some .message1Padded
  | .message2Complete => some .message2Padded
  | _ => none

theorem mixPadding_eq_ok {padding : List UInt8} :
    t.mixPadding c padding = .ok t' ↔ padding.length ≤ maxSessionRequestPadding ∧
      ∃ stage, TranscriptStage.padded t.stage = some stage ∧ t' = { t.padded c padding with stage := stage } := by
  unfold mixPadding TranscriptStage.padded
  have hmax : max maxSessionRequestPadding maxSessionCreatedPadding = maxSessionRequestPadding := rfl
  rw [hmax]
  by_cases hlength : maxSessionRequestPadding < padding.length
  · simp [hlength, not_le.mpr hlength]
  rw [if_neg hlength]
  have hle := not_lt.mp hlength
  cases hstage : t.stage with
  | message1Complete | message2Complete =>
    simp only [hle, true_and, Option.some.injEq, Except.ok.injEq, exists_eq_left']
    exact eq_comm
  | _ => simp

variable {staticPublic : Key}

theorem encryptStatic_eq_ok : t.encryptStatic c staticPublic shared = .ok (t', ciphertext) ↔
      (t.role = .initiator ∧ t.stage = .message2Padded) ∧
        Carries c t.toSymmetricState staticPublic.toList ciphertext ∧
        t' = { (t.used c ciphertext).mixKey c shared with stage := .staticEncrypted } := by
  exact gated_eq_ok (fun t => { t.mixKey c shared with stage := .staticEncrypted }) fun _ _ => encryptAndHash_eq_ok

theorem staticPublicOf_eq_ok :
    staticPublicOf plaintext = .ok staticPublic ↔ plaintext = staticPublic.toList ∧ allZero staticPublic = false := by
  unfold staticPublicOf publicKeyBytes
  split
  next hlength =>
    split
    next hzero =>
      simp only [reduceCtorEq, false_iff, not_and, Bool.not_eq_false]
      rintro rfl
      exact hzero
    next hzero =>
      constructor
      · rintro ⟨⟩
        exact ⟨rfl, by simpa using hzero⟩
      · rintro ⟨rfl, -⟩
        rfl
  next hlength =>
    simp only [reduceCtorEq, false_iff, not_and]
    rintro rfl
    exact absurd staticPublic.toList_length hlength

theorem decryptStaticUnchecked_eq_ok : t.decryptStaticUnchecked c ciphertext = .ok (t', staticPublic) ↔
      (t.role = .responder ∧ t.stage = .message2Padded) ∧
        Carries c t.toSymmetricState staticPublic.toList ciphertext ∧ allZero staticPublic = false ∧
        t' = t.used c ciphertext := by
  unfold decryptStaticUnchecked
  simp only [bind_eq_ok, gate_eq_ok, Prod.exists, decryptAndHash_eq_ok, staticPublicOf_eq_ok, Except.ok.injEq,
    Prod.mk.injEq]
  constructor
  · rintro ⟨-, hgate, _, _, ⟨hcarries, rfl⟩, _, ⟨rfl, hzero⟩, rfl, rfl⟩
    exact ⟨hgate, hcarries, hzero, rfl⟩
  · rintro ⟨hgate, hcarries, hzero, rfl⟩
    exact ⟨(), hgate, _, _, ⟨hcarries, rfl⟩, _, ⟨rfl, hzero⟩, rfl, rfl⟩

theorem mixStaticSecret_eq_ok :
    t.mixStaticSecret c shared = .ok t' ↔ (t.role = .responder ∧ t.stage = .message2Padded) ∧
      t' = { t.mixKey c shared with stage := .staticEncrypted } := by
  unfold mixStaticSecret
  simp only [bind_eq_ok, gate_eq_ok, Except.ok.injEq]
  constructor
  · rintro ⟨-, hgate, rfl⟩
    exact ⟨hgate, rfl⟩
  · rintro ⟨hgate, rfl⟩
    exact ⟨(), hgate, rfl⟩

end Transcript

end I2pr.Ntcp2

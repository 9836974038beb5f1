import I2pr.EciesCoherence

namespace I2pr.Ecies

open EciesSessionManager

variable {c : EciesCrypto} {sP sQ : Key} {mP mQ mP' mQ' : EciesSessionManager} {oP oQ : Outgoing} {used : List Key}

theorem Coherent.encrypted (h : Coherent c sP sQ mP mQ oP oQ used) (hideal : TagsNeverRepeat c)
    (hsecret : allZero sQ = false) {σ : Type} {rng : CryptoRng σ} {s : σ} {payload : List UInt8} {nowSeconds : Nat}
    {sent : Option EciesOutboundMessage} (hshort : payload.length + 96 ≤ maxEnvelopeBytes)
    (hfresh : ∀ drawn ∈ (EciesEphemeralKeypair.generate c rng s).toOption, drawn.1.representative ∉ used)
    (hcall : Encrypted c rng mP sP (c.x25519Public sQ) payload nowSeconds s mP' sent) : ∃ oP' oQ',
      Coherent c sP sQ mP' mQ oP' oQ' (sent.toList.flatMap (·.newRepresentative) ++ used) ∧
      oP'.letters = oP.letters ++ sent.toList.map (⟨·, payload⟩) ∧ oQ'.letters = oQ.letters := by
  cases hcall with
  | refused => exact ⟨oP, oQ, h, by simp, rfl⟩
  | dropped => exact ⟨oP, _, h.dropped, by simp, rfl⟩
  | touched hsession =>
    refine ⟨_, oQ, h.speak hsession [] fun root first hstream => ⟨?_, by simp⟩, by simp, rfl⟩
    rw [List.append_nil]
    exact hstream.sending
  | newSession hsession hlong hgenerate hseal hinstall =>
    have hunused := hfresh _ (show _ = some _ by rw [hgenerate]; rfl)
    obtain ⟨n, hletter, hcoherent⟩ := h.newSession hsecret hlong hshort hunused hseal hinstall
    obtain ⟨hreply, hexisting⟩ := h.near.silent hsession
    exact ⟨_, oQ, hcoherent, by simp [Outgoing.letters, hreply, hexisting, hletter], rfl⟩
  | reply hsession hprovisional hseal hinbound =>
    obtain ⟨r, hletter, hexisting, hreply, hcoherent⟩ :=
      h.reply hideal hsecret hshort hsession hprovisional hseal hinbound
    exact ⟨_, _, hcoherent, by simp [Outgoing.letters, hreply, hexisting, hletter], rfl⟩
  | @existing session outbound message hsession hseal =>
    refine ⟨_, oQ, h.speak hsession [⟨.existing message, payload⟩] fun root first hstream => ?_,
      by simp [Outgoing.letters], rfl⟩
    obtain ⟨hmessage, hsending, hroom, -⟩ | ⟨⟨e, herror⟩, -⟩ := hstream.sending.sealed hseal
    · cases hmessage
      refine ⟨by simpa [Nat.add_assoc] using hsending, fun i letter hget => ?_⟩
      cases i with
      | zero =>
        cases hget
        exact ⟨rfl, hroom, hshort⟩
      | succ i => cases hget
    · cases herror

theorem Coherent.delivered (h : Coherent c sP sQ mP mQ oP oQ used) {letter : Letter} {rest : List Letter}
    (hletters : oQ.letters = letter :: rest) (nowSeconds : Nat)
    (hmay : mP.MayDeliver (c.x25519Public sQ) letter.message)
    (hkeeps : mP.KeepsPairing (c.x25519Public sQ) letter.message) : ∃ mP' oQ',
      mP.receive c sP letter.message.encode nowSeconds = (mP', .ok letter.payload) ∧
      Coherent c sP sQ mP' mQ oP oQ' used ∧ oQ'.letters = rest := by
  unfold Outgoing.letters at hletters
  cases hnews : oQ.news with
  | cons n news =>
    rw [hnews] at hletters
    cases hletters
    have hmem : n ∈ oQ.news := hnews ▸ List.mem_cons_self
    have hsealed := h.far.table.newsSealed n hmem
    refine ⟨_, _, ?_, h.deliverNews hnews nowSeconds, rfl⟩
    exact receive_newSession h.near.peer hsealed.opens hsealed.fits.aliceStaticPublic hsealed.static hsealed.body
      hsealed.long hsealed.short (h.far.table.newsFresh n hmem).2 hmay
  | nil =>
    rw [hnews] at hletters
    cases hreply : oQ.reply with
    | some r =>
      rw [hreply] at hletters
      cases hletters
      have hsealed := h.near.table.replySealed r hreply
      have hpending := h.near.table.pending r.toHandshake (by rw [handshakes, hreply]; exact List.mem_cons_self)
      obtain ⟨inbound, hinbound, hcoherent⟩ := h.deliverReply hreply hkeeps nowSeconds
      refine ⟨_, _, ?_, hcoherent, by simp [Outgoing.letters, hnews]⟩
      exact hpending.receive_reply hsealed.tag hsealed.opens hsealed.remote hsealed.mac hsealed.body hsealed.short hmay
        hinbound
    | none =>
      rw [hreply] at hletters
      obtain ⟨mP', hreceive, hcoherent⟩ := h.deliverExisting hreply hletters nowSeconds hmay
      exact ⟨mP', _, hreceive, hcoherent, by simp [Outgoing.letters, hnews, hreply]⟩

namespace Exchange

section Moves

inductive Move (σ : Type) where
  | encrypt (side : Side) (payload : List UInt8) (nowSeconds : Nat) (s : σ)
  | deliver (side : Side) (nowSeconds : Nat)

variable {σ : Type} (c : EciesCrypto) (rng : CryptoRng σ) (secret : Side → Key)

def move (st : Exchange) : Move σ → Exchange
  | .encrypt side payload nowSeconds s => st.encrypt c rng secret side payload nowSeconds s
  | .deliver side nowSeconds => (st.deliver c secret side nowSeconds).1

/-- What the network, the clocks and the cryptography are assumed to do in one move. -/
def Considered (st : Exchange) : Move σ → Prop
  | .encrypt side payload nowSeconds s =>
    (st.manager side).MayEncrypt c rng (c.x25519Public (secret side.other)) (secret side) payload nowSeconds s
      st.representatives
  | .deliver side _ =>
    ∀ letter ∈ (st.mail side).head?, (st.manager side).MayDeliver (c.x25519Public (secret side.other)) letter.message

/-- The move replaces no paired session, and a New Session can be told from a shorter message. -/
def Keeps (st : Exchange) : Move σ → Prop
  | .encrypt side payload _ _ => (st.manager side).KeepsSessions (c.x25519Public (secret side.other)) payload
  | .deliver side _ =>
    ∀ letter ∈ (st.mail side).head?, (st.manager side).KeepsPairing (c.x25519Public (secret side.other)) letter.message

/-- A message that is delivered is accepted, with the payload that was encrypted. -/
def Delivers (st : Exchange) : Move σ → Prop
  | .encrypt .. => True
  | .deliver side nowSeconds =>
    ∀ letter ∈ (st.mail side).head?, (st.deliver c secret side nowSeconds).2 = some (.ok letter.payload)

def Along (P : Exchange → Move σ → Prop) (st : Exchange) : List (Move σ) → Prop
  | [] => True
  | first :: moves => P st first ∧ Along P (st.move c rng secret first) moves

instance [DecidableEq σ] (st : Exchange) : (first : Move σ) → Decidable (st.Considered c rng secret first)
  | .encrypt .. => inferInstanceAs (Decidable (MayEncrypt ..))
  | .deliver .. => inferInstanceAs (Decidable (∀ letter ∈ List.head? _, _))

instance (st : Exchange) : (first : Move σ) → Decidable (st.Keeps c secret first)
  | .encrypt .. => inferInstanceAs (Decidable (KeepsSessions ..))
  | .deliver .. => inferInstanceAs (Decidable (∀ letter ∈ List.head? _, _))

instance (st : Exchange) : (first : Move σ) → Decidable (st.Delivers c secret first)
  | .encrypt .. => .isTrue trivial
  | .deliver .. => inferInstanceAs (Decidable (∀ letter ∈ List.head? _, _))

instance decidableAlong (P : Exchange → Move σ → Prop) [∀ st first, Decidable (P st first)] :
    (st : Exchange) → (moves : List (Move σ)) → Decidable (Along c rng secret P st moves)
  | _, [] => .isTrue trivial
  | st, first :: moves =>
    have := decidableAlong P (st.move c rng secret first) moves
    inferInstanceAs (Decidable (_ ∧ _))

end Moves

variable {σ : Type} {rng : CryptoRng σ} {secret : Side → Key} {config : Side → EciesSessionConfig} {st : Exchange}

variable (c secret) in
def CoherentFrom (st : Exchange) (out : Side → Outgoing) (side : Side) : Prop :=
  Coherent c (secret side) (secret side.other) (st.manager side) (st.manager side.other) (out side) (out side.other)
    st.representatives

theorem CoherentFrom.all {out : Side → Outgoing} {side : Side} (h : st.CoherentFrom c secret out side) (side' : Side) :
    st.CoherentFrom c secret out side' := by
  have hother : st.CoherentFrom c secret out side.other := by
    unfold CoherentFrom
    rw [Side.other_other]
    exact ⟨h.far, h.near⟩
  cases side <;> cases side'
  · exact h
  · exact hother
  · exact hother
  · exact h

variable (c secret) in
def Accounted (st : Exchange) : Prop :=
  ∃ out : Side → Outgoing, (∀ side, st.mail side.other = (out side).letters) ∧ ∀ side, st.CoherentFrom c secret out side

theorem Accounted.of_sides (side : Side) (hP : st.mail side.other = oP.letters) (hQ : st.mail side = oQ.letters)
    (h : Coherent c (secret side) (secret side.other) (st.manager side) (st.manager side.other) oP oQ
      st.representatives) : st.Accounted c secret := by
  let out : Side → Outgoing := Function.update (fun _ => oQ) side oP
  have hside : out side = oP := Function.update_self ..
  have hother : out side.other = oQ := Function.update_of_ne side.other_ne ..
  have hfrom : st.CoherentFrom c secret out side := by
    unfold CoherentFrom
    rw [hside, hother]
    exact h
  refine ⟨out, fun side' => ?_, hfrom.all⟩
  by_cases heq : side' = side
  · rw [heq, hside]
    exact hP
  obtain rfl : side' = side.other := by
    revert heq
    cases side <;> cases side' <;> simp [Side.other]
  rw [hother, Side.other_other]
  exact hQ

theorem accounted_start : (start config).Accounted c secret := by
  refine ⟨fun _ => ⟨[], none, none, []⟩, fun _ => rfl, fun side => ?_⟩
  have hhalf (sP sQ : Key) (configP configQ : EciesSessionConfig) :
      Half c sP sQ (.new configP) (.new configQ) ⟨[], none, none, []⟩ ⟨[], none, none, []⟩ [] := by
    refine ⟨⟨?_, ?_, ?_, ?_, ?_, ?_, ?_, ?_⟩, fun _ => ⟨rfl, rfl⟩, ?_, ?_, ?_⟩ <;>
      simp [handshakes, EciesSessionManager.new]
  exact ⟨hhalf .., hhalf ..⟩

section

variable (h : st.Accounted c secret)
include h

theorem Accounted.deliver {side : Side} {letter : Letter} {rest : List Letter}
    (hmail : st.mail side = letter :: rest) (nowSeconds : Nat)
    (hmay : (st.manager side).MayDeliver (c.x25519Public (secret side.other)) letter.message)
    (hkeeps : (st.manager side).KeepsPairing (c.x25519Public (secret side.other)) letter.message) :
    (st.deliver c secret side nowSeconds).1.Accounted c secret ∧
      (st.deliver c secret side nowSeconds).2 = some (.ok letter.payload) := by
  obtain ⟨out, hletters, hcoherent⟩ := h
  have hQ := hletters side.other
  rw [Side.other_other, hmail] at hQ
  obtain ⟨m, oQ, hreceive, hnext, hrest⟩ := (hcoherent side).delivered hQ.symm nowSeconds hmay hkeeps
  unfold Exchange.deliver
  simp only [hmail, hreceive, and_true]
  refine .of_sides side (show _ = (out side).letters from ?_) (show _ = oQ.letters from ?_) ?_
  · simp only [Function.update_of_ne side.other_ne]
    exact hletters side
  · simp only [Function.update_self]
    exact hrest.symm
  · simp only [Function.update_self, Function.update_of_ne side.other_ne]
    exact hnext

variable (hideal : TagsNeverRepeat c) (hsecret : ∀ side, allZero (secret side) = false)
include hideal hsecret

theorem Accounted.encrypt {side : Side} {payload : List UInt8} {nowSeconds : Nat} {s : σ}
    (hmay : (st.manager side).MayEncrypt c rng (c.x25519Public (secret side.other)) (secret side) payload nowSeconds s
      st.representatives)
    (hkeeps : (st.manager side).KeepsSessions (c.x25519Public (secret side.other)) payload) :
    (st.encrypt c rng secret side payload nowSeconds s).Accounted c secret := by
  obtain ⟨out, hletters, hcoherent⟩ := h
  have hcall := encryptToRemote_encrypted hmay hkeeps fun session hsession => by
    obtain ⟨root, first, hstream⟩ := (hcoherent side).near.spoken session hsession
    exact ⟨root, _, hstream.sending⟩
  obtain ⟨oP, oQ, hnext, hP, hQ⟩ := (hcoherent side).encrypted hideal (hsecret _) hmay.short hmay.fresh hcall
  unfold Exchange.encrypt
  refine .of_sides side (show _ = oP.letters from ?_) (show _ = oQ.letters from ?_) ?_
  · simp only [Function.update_self, hP, hletters]
  · simp only [Function.update_of_ne side.other_ne.symm, hQ]
    rw [← hletters side.other, Side.other_other]
  · simp only [Function.update_self, Function.update_of_ne side.other_ne]
    exact hnext

theorem Accounted.move {first : Move σ} (hconsidered : st.Considered c rng secret first)
    (hkeeps : st.Keeps c secret first) :
    (st.move c rng secret first).Accounted c secret ∧ st.Delivers c secret first := by
  cases first with
  | encrypt side payload nowSeconds s => exact ⟨h.encrypt hideal hsecret hconsidered hkeeps, trivial⟩
  | deliver side nowSeconds =>
    cases hmail : st.mail side with
    | nil =>
      simp only [Exchange.move, Delivers, Exchange.deliver, hmail]
      exact ⟨h, by simp⟩
    | cons letter rest =>
      have hhead : (st.mail side).head? = some letter := by rw [hmail]; rfl
      obtain ⟨hnext, hanswer⟩ := h.deliver hmail nowSeconds (hconsidered letter hhead) (hkeeps letter hhead)
      refine ⟨hnext, fun letter' hhead' => ?_⟩
      cases hhead.symm.trans hhead'
      exact hanswer

theorem Accounted.along {moves : List (Move σ)} (hconsidered : st.Along c rng secret (Considered c rng secret) moves)
    (hkeeps : st.Along c rng secret (Keeps c secret) moves) : st.Along c rng secret (Delivers c secret) moves := by
  induction moves generalizing st with
  | nil => trivial
  | cons first moves ih =>
    obtain ⟨hnext, hdelivers⟩ := h.move hideal hsecret hconsidered.1 hkeeps.1
    exact ⟨hdelivers, ih hnext hconsidered.2 hkeeps.2⟩

end

/-- In every interleaving of calls and deliveries that seals no reply over a paired session, delivers none to a
paired side and gives a New Session at least 16 bytes, every delivered message is accepted with the payload that
was encrypted. -/
theorem delivers_of_keeps (hideal : TagsNeverRepeat c) (hsecret : ∀ side, allZero (secret side) = false)
    (config : Side → EciesSessionConfig) {moves : List (Move σ)}
    (hconsidered : (start config).Along c rng secret (Considered c rng secret) moves)
    (hkeeps : (start config).Along c rng secret (Keeps c secret) moves) :
    (start config).Along c rng secret (Delivers c secret) moves :=
  accounted_start.along hideal hsecret hconsidered hkeeps

theorem tagsNeverRepeat_plain : TagsNeverRepeat .plain := by
  have hderived (data : List UInt8) : (plainDerived data).toList.take 4 = BigEndian.encode 4 0 :=
    List.take_left' (by simp)
  exact fun key => ⟨tagsDistinct_plain (hderived _), tagsDistinct_plain (hderived _)⟩

def sampleSecrets : Side → Key
  | .left => sampleSecret 1
  | .right => sampleSecret 2

def sampleText : List UInt8 := .replicate 16 7

/-- Both sides start at the same time and answer each other; then the left side writes. -/
def crossingMoves : List (Move Nat) :=
  [.encrypt .left sampleText 0 3, .encrypt .right sampleText 0 5, .deliver .right 0, .deliver .left 0,
    .encrypt .left sampleText 0 7, .encrypt .right sampleText 0 9, .deliver .right 0, .deliver .left 0,
    .encrypt .left sampleText 0 11, .deliver .right 0]

/-- Each side ends with the session of its own New Session, and what one seals the other cannot open. -/
theorem crossing_replies_disagree :
    (start fun _ => sampleConfig).Along .plain countingRng sampleSecrets (Considered .plain countingRng sampleSecrets)
        crossingMoves ∧
      ¬ (start fun _ => sampleConfig).Along .plain countingRng sampleSecrets (Delivers .plain sampleSecrets)
        crossingMoves := by
  decide +kernel

/-- The left side writes twice before the right one answers; both then write in the paired session. -/
def orderlyMoves : List (Move Nat) :=
  [.encrypt .left sampleText 0 3, .encrypt .left sampleText 0 4, .deliver .right 0, .deliver .right 0,
    .encrypt .right sampleText 0 7, .encrypt .right sampleText 0 9, .deliver .left 0, .encrypt .left sampleText 0 11,
    .deliver .left 0, .deliver .right 0]

theorem delivers_of_keeps_orderly :
    (start fun _ => sampleConfig).Along .plain countingRng sampleSecrets (Delivers .plain sampleSecrets) orderlyMoves :=
  delivers_of_keeps tagsNeverRepeat_plain (by rintro (_ | _) <;> decide) (fun _ => sampleConfig) (by decide +kernel)
    (by decide +kernel)

end Exchange

end I2pr.Ecies

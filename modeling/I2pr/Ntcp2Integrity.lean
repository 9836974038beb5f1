import I2pr.Ntcp2Tampering

namespace I2pr.Ntcp2

open List

open Noise (Key Sealed Use absorbAll queries)
open Ecies (clampX25519Seed)

/-- Non-empty inputs, absorbed one after the other. -/
structure Absorbed (c : Ntcp2Crypto) (responderStatic : Key) (uses : List Use) (inputs : List (List UInt8)) : Prop where
  hashed : ∀ q ∈ queries c.toPrimitives (Transcript.initialHash c responderStatic) inputs, .hashed q ∈ uses
  nonempty : ∀ input ∈ inputs, input ≠ []

section Frames

variable {c : Ntcp2Crypto} {responderStatic : Key} {uses : List Use} {xs ys : List (List UInt8)}

theorem Absorbed.initial (h : Absorbed c responderStatic uses ys) (hxs : xs <+: ys) :
    Absorbed c responderStatic uses xs := by
  obtain ⟨zs, rfl⟩ := hxs
  refine ⟨fun q hq => h.hashed q ?_, fun x hx => h.nonempty x (mem_append_left _ hx)⟩
  rw [Noise.queries_append]
  exact mem_append_left _ hq

/-- A sealing tells its number, everything absorbed before it, and its frame. -/
theorem FrameAt.unique {s : Sealed} {number number' : Nat} {frame frame' : List UInt8}
    (h : FrameAt c responderStatic s number xs frame) (h' : FrameAt c responderStatic s number' ys frame')
    (hideal : Noise.Ideal c.toPrimitives uses) (hinitial : ∀ use ∈ initialUses c responderStatic, use ∈ uses)
    (hx : Absorbed c responderStatic uses xs) (hy : Absorbed c responderStatic uses ys) :
    number = number' ∧ xs = ys ∧ frame = frame' := by
  refine ⟨h.number.symm.trans h'.number, ?_, h.ciphertext.symm.trans h'.ciphertext⟩
  refine Noise.absorbAll_initial_inj hideal.collisionFree ?_ ?_ ?_ hx.hashed hy.hashed hx.nonempty hy.nonempty
    (h.associated.symm.trans h'.associated)
  · exact ne_nil_of_length_pos (by rw [List.Vector.toList_length]; decide)
  · exact hinitial _ (by simp [initialUses, prologue])
  · exact hinitial _ (by simp [initialUses, prologue])

theorem mem_paddingInputs {padding input : List UInt8} (h : input ∈ paddingInputs padding) : input ≠ [] := by
  unfold paddingInputs at h
  split at h
  · cases h
  next hpadding =>
    rw [mem_singleton] at h
    simpa [h] using hpadding

theorem paddingInputs_inj {padding padding' : List UInt8} (h : paddingInputs padding = paddingInputs padding') :
    padding = padding' := by
  cases padding with
  | nil =>
    cases padding' with
    | nil => rfl
    | cons => cases h
  | cons =>
    cases padding' with
    | nil => cases h
    | cons => exact head_eq_of_cons_eq h

end Frames

section Link

variable {c : Ntcp2Crypto} {m : Meeting} {decoder : RouterInfoDecoder}

/-- Whatever was changed in transit, each side went through one of its phases. -/
theorem past_of_moves (hvalid : m.Valid c decoder) (moves : List Link.Move) :
    InitiatorPast c m (moves.foldl (Link.move c decoder m) (.start c m)).initiator ∧
      ResponderPast c m (moves.foldl (Link.move c decoder m) (.start c m)).responder := by
  induction moves using reverseRecOn with
  | nil => exact ⟨.start, .start⟩
  | append_singleton moves move ih =>
    rw [foldl_append, foldl_cons, foldl_nil]
    cases move with
    | turn role =>
      cases role with
      | initiator => exact ⟨ih.1.turn hvalid _, ih.2⟩
      | responder => exact ⟨ih.1, ih.2.turn _⟩
    | rewrite role bytes =>
      cases role with
      | initiator => exact ih
      | responder => exact ih

theorem Told.absorbed {responderStatic : Key} {t : Transcript} {log uses : List Use} {xs ys : List (List UInt8)}
    {sealings openings : List Sealed} (h : Told c responderStatic t log ys sealings openings)
    (hlog : ∀ use ∈ log, use ∈ uses) (hxs : xs <+: ys) (hnonempty : ∀ x ∈ xs, x ≠ []) :
    Absorbed c responderStatic uses xs := by
  obtain ⟨zs, rfl⟩ := hxs
  refine ⟨fun q hq => hlog _ (h.hashed q ?_), hnonempty⟩
  rw [Noise.queries_append]
  exact mem_append_left _ hq

theorem inputs_ne_nil (key : Key) {frame : List UInt8} (hframe : frame ≠ []) (padding : List UInt8) :
    ∀ x ∈ [key.toList, frame] ++ paddingInputs padding, x ≠ [] := by
  have hkey : key.toList ≠ [] := ne_nil_of_length_pos (by rw [List.Vector.toList_length]; decide)
  rw [forall_mem_append, forall_mem_cons, forall_mem_singleton]
  exact ⟨⟨hkey, hframe⟩, fun x hx => mem_paddingInputs hx⟩

theorem encrypted_eq {state : AesObfuscationState} {encrypted key : Key}
    (h : (state.decryptBlocks c encrypted).2.toList = key.toList) :
    state.encrypt c key = ((state.decryptBlocks c encrypted).1, encrypted) := by
  rw [← List.Vector.toList_injective h, AesObfuscationState.encrypt_decryptBlocks]

section Openings

variable {uses : List Use} {request static payload created static' payload' : Sealed} {v w : View}
  {staticFrame payloadFrame frame staticFrame' payloadFrame' : List UInt8} {p : Party InitiatorState}
  {q : Party ResponderState}

/-- The uses of both sides at the end of a handshake. -/
structure Ended (c : Ntcp2Crypto) (m : Meeting) (uses : List Use) (v w : View)
    (staticFrame frame staticFrame' : List UInt8) : Prop where
  ideal : Noise.Ideal c.toPrimitives uses
  initial : ∀ use ∈ initialUses c (m.responderPublic c), use ∈ uses
  initiator : Absorbed c (m.responderPublic c) uses (v.createdInputs c m ++ [staticFrame])
  responder : Absorbed c (m.responderPublic c) uses (w.answeredInputs c m frame ++ [staticFrame'])

namespace Ended

variable (h : Ended c m uses v w staticFrame frame staticFrame')

include h

theorem requestKey : Absorbed c (m.responderPublic c) uses [(w.requestKey c m).toList] :=
  h.responder.initial ⟨_, rfl⟩

theorem initiatorPublic : Absorbed c (m.responderPublic c) uses [(m.initiatorPublic c).toList] :=
  h.initiator.initial ⟨_, rfl⟩

theorem createdKey : Absorbed c (m.responderPublic c) uses (m.requestInputs c ++ [(v.createdKey c m).toList]) :=
  h.initiator.initial ⟨[v.frame] ++ paddingInputs v.padding ++ [staticFrame], by simp [View.createdInputs]⟩

theorem respondingPublic :
    Absorbed c (m.responderPublic c) uses (w.requestInputs c m ++ [(m.respondingPublic c).toList]) :=
  h.responder.initial ⟨[frame] ++ paddingInputs m.createdPadding ++ [staticFrame'], by simp [View.answeredInputs]⟩

variable (hconfirmed : Confirmed c m request static payload v staticFrame payloadFrame p)
  (haccepted : Accepted c m created static' payload' w frame staticFrame' payloadFrame' q)

include hconfirmed haccepted

/-- The sealings of the two sides, with what was absorbed before each. -/
theorem opened_cases {s : Sealed} {number : Nat} {xs : List (List UInt8)} {sealedFrame : List UInt8}
    (hat : FrameAt c (m.responderPublic c) s number xs sealedFrame) (hxs : Absorbed c (m.responderPublic c) uses xs)
    (hopened : s ∈ [request, static, payload] ∨ s ∈ [created]) :
    (number = 0 ∧ xs = [(m.initiatorPublic c).toList] ∧ sealedFrame = m.requestFrame c) ∨
      (number = 1 ∧ xs = v.createdInputs c m ∧ sealedFrame = staticFrame) ∨
      (number = 0 ∧ xs = v.createdInputs c m ++ [staticFrame] ∧ sealedFrame = payloadFrame) ∨
      number = 0 ∧ xs = w.requestInputs c m ++ [(m.respondingPublic c).toList] ∧ sealedFrame = frame := by
  have hunique {number' ys frame'} (hat' : FrameAt c (m.responderPublic c) s number' ys frame') :=
    hat.unique hat' h.ideal h.initial hxs
  simp only [mem_cons, not_mem_nil, or_false] at hopened
  rcases hopened with (rfl | rfl | rfl) | rfl
  · exact .inl (hunique hconfirmed.requested.sealed h.initiatorPublic)
  · exact .inr (.inl (hunique hconfirmed.staticAt (h.initiator.initial (prefix_append _ _))))
  · exact .inr (.inr (.inl (hunique hconfirmed.payloadAt h.initiator)))
  · exact .inr (.inr (.inr (hunique haccepted.answer.sealed h.respondingPublic)))

theorem request_eq (hopened : w.opening ∈ [request, static, payload] ∨ w.opening ∈ [created]) :
    (w.requestKey c m).toList = (m.initiatorPublic c).toList ∧ w.frame = m.requestFrame c := by
  rcases h.opened_cases hconfirmed haccepted haccepted.opened.opened h.requestKey hopened with ⟨-, hkey, hframe⟩ |
    ⟨hnumber, -⟩ | ⟨-, hinputs, -⟩ | ⟨-, hinputs, -⟩
  · exact ⟨head_eq_of_cons_eq hkey, hframe⟩
  · cases hnumber
  · simpa [View.createdInputs, Meeting.requestInputs] using congrArg length hinputs
  · simpa [View.requestInputs] using congrArg length hinputs

theorem created_eq (hopened : v.opening ∈ [request, static, payload] ∨ v.opening ∈ [created]) :
    w.requestInputs c m = m.requestInputs c ∧ (v.createdKey c m).toList = (m.respondingPublic c).toList ∧
      v.frame = frame := by
  rcases h.opened_cases hconfirmed haccepted hconfirmed.opened.opened h.createdKey hopened with ⟨-, hinputs, -⟩ |
    ⟨hnumber, -⟩ | ⟨-, hinputs, -⟩ | ⟨-, hinputs, hframe⟩
  · simpa [Meeting.requestInputs] using congrArg length hinputs
  · cases hnumber
  · have hlength := congrArg length hinputs
    simp only [View.createdInputs, length_append, length_cons, length_nil] at hlength
    omega
  · obtain ⟨hrequest, hkey⟩ := append_inj' hinputs rfl
    exact ⟨hrequest.symm, head_eq_of_cons_eq hkey, hframe⟩

theorem static_eq (hopened : static' ∈ [request, static, payload] ∨ static' ∈ [created]) :
    w.answeredInputs c m frame = v.createdInputs c m ∧ staticFrame' = staticFrame := by
  have hresponder := h.responder.initial (prefix_append _ [staticFrame'])
  rcases h.opened_cases hconfirmed haccepted haccepted.staticAt hresponder hopened with ⟨hnumber, -⟩ | ⟨-, hsame⟩ |
    ⟨hnumber, -⟩ | ⟨hnumber, -⟩
  · cases hnumber
  · exact hsame
  · cases hnumber
  · cases hnumber

theorem payload_eq (hopened : payload' ∈ [request, static, payload] ∨ payload' ∈ [created]) :
    payloadFrame' = payloadFrame := by
  rcases h.opened_cases hconfirmed haccepted haccepted.payloadAt h.responder hopened with ⟨-, hinputs, -⟩ |
    ⟨hnumber, -⟩ | ⟨-, -, hframe⟩ | ⟨-, hinputs, -⟩
  · simpa [View.answeredInputs, View.requestInputs] using congrArg length hinputs
  · cases hnumber
  · exact hframe
  · have hlength := congrArg length hinputs
    simp only [View.answeredInputs, length_append, length_cons, length_nil] at hlength
    omega

end Ended

end Openings

/-- When both sides are authenticated, every byte came through. -/
theorem received_eq_sent {link : Link} {a b : AuthenticatedHandshake} (hinitiator : InitiatorPast c m link.initiator)
    (hresponder : ResponderPast c m link.responder) (hideal : Noise.Ideal c.toPrimitives link.uses)
    (ha : outcome link.initiator = some a) (hb : outcome link.responder = some b) :
    link.initiator.received = link.responder.sent ∧ link.responder.received = link.initiator.sent := by
  obtain ⟨request, static, payload, v, staticFrame, payloadFrame, hconfirmed⟩ := hinitiator.confirmed_of_outcome ha
  obtain ⟨created, static', payload', w, frame, staticFrame', payloadFrame', haccepted⟩ :=
    hresponder.accepted_of_outcome hb
  obtain ⟨t, htold⟩ := hconfirmed.told
  obtain ⟨t', htold'⟩ := haccepted.told
  have hlog : ∀ use ∈ link.initiator.log, use ∈ link.uses := fun use huse => mem_append_left _ huse
  have hlog' : ∀ use ∈ link.responder.log, use ∈ link.uses := fun use huse => mem_append_right _ huse
  have hended : Ended c m link.uses v w staticFrame frame staticFrame' := by
    refine ⟨hideal, fun use huse => hlog _ (htold.initial use huse), htold.absorbed hlog ⟨[payloadFrame], by simp⟩ ?_,
      htold'.absorbed hlog' ⟨[payloadFrame'], by simp⟩ ?_⟩
    · have hrequest : m.requestFrame c ≠ [] := ne_nil_of_length_pos (by rw [m.length_requestFrame]; decide)
      rw [forall_mem_append, forall_mem_singleton, View.createdInputs, forall_mem_append]
      exact ⟨⟨inputs_ne_nil _ hrequest _, inputs_ne_nil _ hconfirmed.opened.frame _⟩, hconfirmed.nonempty⟩
    · rw [forall_mem_append, forall_mem_singleton, View.answeredInputs, forall_mem_append]
      exact ⟨⟨inputs_ne_nil _ haccepted.opened.frame _, inputs_ne_nil _ haccepted.answer.nonempty _⟩,
        haccepted.nonempty⟩
  have hsealed : ∀ s, .opened s ∈ link.uses → s ∈ [request, static, payload] ∨ s ∈ [created] := fun s hs =>
    (mem_append.mp (hideal.unforgeable s hs)).imp (htold.sealed s) (htold'.sealed s)
  have hopened : ∀ s ∈ [w.opening, static', payload'], s ∈ [request, static, payload] ∨ s ∈ [created] :=
    fun s hs => hsealed s (hlog' _ (htold'.opened s hs))
  obtain ⟨hkey, hframe⟩ := hended.request_eq hconfirmed haccepted (hopened _ (by simp))
  obtain ⟨hrequest, hkey', hframe'⟩ := hended.created_eq hconfirmed haccepted
    (hsealed _ (hlog _ (htold.opened _ (by simp))))
  obtain ⟨hinputs, hstatic⟩ := hended.static_eq hconfirmed haccepted (hopened _ (by simp))
  have hpayload := hended.payload_eq hconfirmed haccepted (hopened _ (by simp))
  have hpadding : w.padding = m.requestPadding := paddingInputs_inj (append_inj_right hrequest rfl)
  have hpadding' : m.createdPadding = v.padding := by
    rw [View.answeredInputs, View.createdInputs, hrequest] at hinputs
    exact paddingInputs_inj (append_inj_right (append_cancel_left hinputs) rfl)
  have hencrypted := encrypted_eq hkey
  have hobfuscation : w.obfuscation c m = m.obfuscation1 c := (congrArg Prod.fst hencrypted).symm
  have hencrypted' := encrypted_eq hkey'
  constructor
  · rw [hconfirmed.received, haccepted.answer.sent, hobfuscation, hencrypted', hframe', hpadding']
  · rw [haccepted.received, hconfirmed.sent, Meeting.requestMessage, Meeting.requestEphemeral, hencrypted, hframe,
      hpadding, hstatic, hpayload]

theorem fits_of_completes (hvalid : m.Valid c decoder) (h : Completes c decoder m) : m.Fits := by
  obtain ⟨-, a, b, ha, hb, -⟩ := h []
  obtain ⟨hinitiator, hresponder⟩ := past_of_moves hvalid ((rounds 14).map Link.Move.turn)
  obtain ⟨_, _, _, _, _, _, hconfirmed⟩ := hinitiator.confirmed_of_outcome ha
  obtain ⟨_, _, _, _, _, _, _, haccepted⟩ := hresponder.accepted_of_outcome hb
  exact ⟨hconfirmed.requested.fits, haccepted.answer.fits⟩

end Link

/-- Whatever is done to the bytes in transit, the two sides are both authenticated only if each received exactly what
the other sent. -/
def TamperEvident (c : Ntcp2Crypto) (decoder : RouterInfoDecoder) (m : Meeting) : Prop :=
  ∀ moves : List Link.Move,
    let link := moves.foldl (Link.move c decoder m) (.start c m)
    Noise.Ideal c.toPrimitives link.uses → (outcome link.initiator).isSome → (outcome link.responder).isSome →
      link.initiator.received = link.responder.sent ∧ link.responder.received = link.initiator.sent

theorem completes_iff_and_tamperEvident (c : Ntcp2Crypto) (decoder : RouterInfoDecoder) (m : Meeting)
    (hvalid : m.Valid c decoder) : (Completes c decoder m ↔ m.Fits) ∧ TamperEvident c decoder m := by
  refine ⟨⟨fits_of_completes hvalid, completes_of_fits hvalid⟩, ?_⟩
  intro moves link hideal ha hb
  obtain ⟨a, ha⟩ := Option.isSome_iff_exists.mp ha
  obtain ⟨b, hb⟩ := Option.isSome_iff_exists.mp hb
  obtain ⟨hinitiator, hresponder⟩ := past_of_moves hvalid moves
  exact received_eq_sent hinitiator hresponder hideal ha hb

def sampleDecoder : RouterInfoDecoder := fun _ _ =>
  .ok ⟨.ok (), .ok (.replicate 32 9), true, [⟨[0x4e, 0x54, 0x43, 0x50, 0x32], some [50],
    some [67, 65, 103, 73, 67, 65, 103, 73, 67, 65, 103, 73, 67, 65, 103, 73, 67, 65, 103, 73, 67, 65, 103, 73, 67, 65,
      103, 73, 67, 65, 103, 73, 67, 65, 103, 73, 67, 65, 103, 73, 67, 69, 103, 61]⟩]⟩

def sampleMeeting (confirmedPadding : List UInt8) : Meeting where
  initiatorStatic := .replicate 32 8
  initiatorEphemeral := .replicate 32 16
  responderStatic := .replicate 32 24
  responderEphemeral := .replicate 32 32
  routerHash := .replicate 32 6
  iv := .replicate 16 7
  networkId := 2
  expectedPeerHash := .replicate 32 6
  expectedInitiatorHash := none
  initiatorSkew := .defaultCompatibility
  responderSkew := .defaultCompatibility
  routerInfo := [1]
  requestTimestamp := 1000
  createdTimestamp := 1001
  confirmedTimestamp := 1002
  requestPadding := [1, 2, 3]
  createdPadding := [4, 5]
  confirmedPadding := confirmedPadding

theorem sampleMeeting_valid {padding : List UInt8} (h : padding.length ≤ maxSessionConfirmedPart2Plaintext) :
    (sampleMeeting padding).Valid .plain sampleDecoder where
  requestPadding := show [1, 2, 3].length ≤ maxSessionRequestPadding by decide
  createdPadding := show [4, 5].length ≤ maxSessionCreatedPadding by decide
  confirmedPadding := h
  routerInfo := by
    refine ⟨⟨.replicate 32 9, clampX25519Seed (.replicate 32 8)⟩, ?_, by simp [sampleMeeting]⟩
    change validateRouterInfo sampleDecoder [1] maxRouterInfoPayload none (clampX25519Seed (.replicate 32 8)) = _
    decide +kernel
  requestSkew := show 1000 ≤ 1001 + 60 ∧ 1001 ≤ 1000 + 60 by decide
  createdSkew := show 1001 ≤ 1002 + 60 ∧ 1002 ≤ 1001 + 60 by decide

def sampleLink : Link :=
  ((rounds 14).map Link.Move.turn).foldl (Link.move .plain sampleDecoder (sampleMeeting [6, 7]))
    (.start .plain (sampleMeeting [6, 7]))

theorem completes_iff_and_tamperEvident_sample :
    (sampleMeeting [6, 7]).Valid .plain sampleDecoder ∧ Completes .plain sampleDecoder (sampleMeeting [6, 7]) ∧
      Noise.Ideal plainPrimitives sampleLink.uses ∧
      sampleLink.initiator.received = sampleLink.responder.sent ∧
      sampleLink.responder.received = sampleLink.initiator.sent := by
  have hvalid : (sampleMeeting [6, 7]).Valid .plain sampleDecoder := sampleMeeting_valid (by decide)
  have hfits : (sampleMeeting [6, 7]).Fits :=
    ⟨⟨show 10 ≤ 65471 by omega, show 1000 < 2 ^ 32 by omega⟩, show 1001 < 2 ^ 32 by omega⟩
  obtain ⟨hideal, hinitiator, hresponder⟩ : Noise.Ideal plainPrimitives sampleLink.uses ∧
      (outcome sampleLink.initiator).isSome ∧ (outcome sampleLink.responder).isSome := by decide +kernel
  obtain ⟨hcompletes, htamper⟩ := completes_iff_and_tamperEvident .plain sampleDecoder (sampleMeeting [6, 7]) hvalid
  have hsample := htamper ((rounds 14).map Link.Move.turn)
  dsimp only at hsample
  rw [← sampleLink] at hsample
  exact ⟨hvalid, hcompletes.mpr hfits, hideal, hsample hideal hinitiator hresponder⟩

/-- Padding of the last message up to the maximum that is asked for leaves no room for the blocks. -/
theorem not_completes_maximal_padding : let m := sampleMeeting (List.replicate maxSessionConfirmedPart2Plaintext 0)
    m.Valid .plain sampleDecoder ∧ ¬ Completes .plain sampleDecoder m := by
  intro m
  have hlength : m.confirmedPadding.length = maxSessionConfirmedPart2Plaintext := length_replicate
  have hvalid : m.Valid .plain sampleDecoder := sampleMeeting_valid hlength.le
  refine ⟨hvalid, fun hcompletes => ?_⟩
  have hpayload := (fits_of_completes hvalid hcompletes).payload
  rw [hlength] at hpayload
  omega

end I2pr.Ntcp2

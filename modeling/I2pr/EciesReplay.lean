import I2pr.EciesReception
import I2pr.Lib.Fallible

namespace I2pr.Ecies

open Fallible

section Sections

variable (c : EciesCrypto)

/-- What the static-key section of a New Session opens to under an ephemeral public key. -/
def staticSectionPlain (bobStaticSecret bobStaticPublic aliceEphemeralPublic : Key) (section_ : List UInt8) :
    Option (List UInt8) :=
  match c.diffieHellmanChecked bobStaticSecret aliceEphemeralPublic with
  | .error _ => none
  | .ok esShared =>
    let state := newSessionTranscript c bobStaticPublic aliceEphemeralPublic
    c.decrypt (state.mixKey c esShared).2 0 section_ state.transcriptHash.toList

variable {c} {bobStaticSecret bobStaticPublic : Key} {message message' : BoundNewSessionMessage}

/-- Only the point a representative decodes to enters the cryptography. -/
theorem openBoundNewSession_congr
    (hdecode : c.decodeRepresentative message.representative = c.decodeRepresentative message'.representative)
    (hstatic : message.encryptedStaticSection = message'.encryptedStaticSection)
    (hpayload : message.encryptedPayloadSection = message'.encryptedPayloadSection) :
    openBoundNewSession c bobStaticSecret bobStaticPublic message =
      openBoundNewSession c bobStaticSecret bobStaticPublic message' := by
  unfold openBoundNewSession
  rw [hdecode, hstatic, hpayload]

theorem openBoundNewSession_ok {opened : OpenedBoundNewSession}
    (h : openBoundNewSession c bobStaticSecret bobStaticPublic message = .ok opened) :
    ∃ point, c.decodeRepresentative message.representative = .ok point ∧
      (staticSectionPlain c bobStaticSecret bobStaticPublic point message.encryptedStaticSection).isSome := by
  unfold openBoundNewSession at h
  split at h
  · cases h
  split at h
  · cases h
  simp only [bind_eq_ok, mapError_eq_ok] at h
  obtain ⟨point, hdecode, esShared, hshared, plain, hplain, -⟩ := h
  refine ⟨point, hdecode, ?_⟩
  unfold EciesCrypto.aeadDecrypt at hplain
  split at hplain
  next plain' hdecrypt =>
    simp only [staticSectionPlain, hshared]
    rw [Option.isSome_iff_exists]
    exact ⟨plain', hdecrypt⟩
  · cases hplain

end Sections

inductive ManagerCall (σ : Type) where
  | encryptToRemote (localStaticSecret remoteStaticPublic : Key) (payload : List UInt8) (nowSeconds : Nat) (s : σ)
  | sealNewSessionReplyFor (localStaticSecret aliceStaticPublic : Key) (payload : List UInt8) (nowSeconds : Nat) (s : σ)
  | acceptNewSession (localStaticSecret localStaticPublic : Key) (message : BoundNewSessionMessage) (nowSeconds : Nat)
  | acceptNewSessionReply (localStaticSecret : Key) (reply : NewSessionReplyMessage) (nowSeconds : Nat)
  | acceptExistingSession (message : ExistingSessionMessage)
  | dropProvisionalResponder (aliceStaticPublic : Key)
  | advanceTime (nowSeconds : Nat)

def ManagerCall.time {σ : Type} : ManagerCall σ → Option Nat
  | .encryptToRemote _ _ _ nowSeconds _ | .sealNewSessionReplyFor _ _ _ nowSeconds _ => some nowSeconds
  | .acceptNewSession _ _ _ nowSeconds | .acceptNewSessionReply _ _ nowSeconds => some nowSeconds
  | .advanceTime nowSeconds => some nowSeconds
  | .acceptExistingSession _ | .dropProvisionalResponder _ => none

/-- The remote whose paired session carries the message. -/
def EciesOutboundMessage.sentOn (remote : Key) : EciesOutboundMessage → Option Key
  | .newSession _ => none
  | .newSessionReply _ | .existing _ => some remote

namespace EciesSessionManager

variable {σ : Type} (c : EciesCrypto) (rng : CryptoRng σ)

def step (m : EciesSessionManager) : ManagerCall σ → EciesSessionManager
  | .encryptToRemote localStaticSecret remoteStaticPublic payload nowSeconds s =>
    (m.encryptToRemote c rng localStaticSecret remoteStaticPublic payload nowSeconds s).1
  | .sealNewSessionReplyFor localStaticSecret aliceStaticPublic payload nowSeconds s =>
    (m.sealNewSessionReplyFor c rng localStaticSecret aliceStaticPublic payload nowSeconds s).1
  | .acceptNewSession localStaticSecret localStaticPublic message nowSeconds =>
    (m.acceptNewSession c localStaticSecret localStaticPublic message nowSeconds).1
  | .acceptNewSessionReply localStaticSecret reply nowSeconds =>
    (m.acceptNewSessionReply c localStaticSecret reply nowSeconds).1
  | .acceptExistingSession message => (m.acceptExistingSession c message).1
  | .dropProvisionalResponder aliceStaticPublic => (m.dropProvisionalResponder aliceStaticPublic).1
  | .advanceTime nowSeconds => (m.advanceTime nowSeconds).1

def run (m : EciesSessionManager) (calls : List (ManagerCall σ)) : EciesSessionManager :=
  calls.foldl (step c rng) m

/-- A New Session that is not in the replay cache and opens, whether or not there is room for its responder. -/
def opensNewSession (m : EciesSessionManager) : ManagerCall σ → Bool
  | .acceptNewSession localStaticSecret localStaticPublic message _ =>
    !m.seenNewSessionEphemerals.contains message.representative &&
      (openBoundNewSession c localStaticSecret localStaticPublic message).isOk
  | _ => false

def newSessionsOpened (m : EciesSessionManager) : List (ManagerCall σ) → Nat
  | [] => 0
  | call :: rest => (m.opensNewSession c call).toNat + (m.step c rng call).newSessionsOpened rest

variable {c rng} {m : EciesSessionManager}

theorem consumeTag_eq_some {tag : Tag} {remote : Key} {session : PairedSession} {inbound : InboundTagWindow}
    {index : Nat} {sessions : List (Key × PairedSession)}
    (h : consumeTag c tag sessions = some (remote, session, inbound, index)) :
    (remote, session) ∈ sessions ∧ session.inbound.consume c tag = some (inbound, index) := by
  induction sessions with
  | nil => cases h
  | cons entry rest ih =>
    unfold consumeTag at h
    split at h
    next heq =>
      cases h
      exact ⟨List.mem_cons_self, heq⟩
    · exact ⟨List.mem_cons_of_mem _ (ih h).1, (ih h).2⟩

structure SameCache (m m' : EciesSessionManager) : Prop where
  config : m'.config = m.config
  seen : m'.seenNewSessionEphemerals = m.seenNewSessionEphemerals

/-- What a call at a time can do to the session of a remote. -/
inductive SessionStep (c : EciesCrypto) (idleSeconds : Nat) (time : Option Nat) :
    Option PairedSession → Option PairedSession → Prop
  | kept {session} : SessionStep c idleSeconds time session session
  | paired {session outbound inbound nowSeconds} (hfresh : outbound.Fresh) (hnow : nowSeconds ∈ time) :
      SessionStep c idleSeconds time session (some ⟨outbound, inbound, nowSeconds⟩)
  | sealed {session payload nowSeconds} (hnow : nowSeconds ∈ time) : SessionStep c idleSeconds time (some session)
      (some ⟨(sealExistingSession c session.outbound payload).1, session.inbound, nowSeconds⟩)
  | received {session inbound} : SessionStep c idleSeconds time (some session)
      (some ⟨session.outbound, inbound, session.lastUsedSeconds⟩)
  | expired {session nowSeconds} (hnow : nowSeconds ∈ time)
      (hidle : idleSeconds < nowSeconds - session.lastUsedSeconds) : SessionStep c idleSeconds time (some session) none

/-- The effect of a call on the sessions, with the remote on whose session it sent, if any. -/
structure Used (c : EciesCrypto) (time : Option Nat) (used : Option Key) (m m' : EciesSessionManager) : Prop where
  sessions : ∀ remote : Key, SessionStep c m.config.idleSeconds time m.sessions[remote]? m'.sessions[remote]?
  refreshed : ∀ remote ∈ used, ∃ session, m'.sessions[remote]? = some session ∧ session.lastUsedSeconds ∈ time

structure Touched (c : EciesCrypto) (time : Option Nat) (used : Option Key) (m m' : EciesSessionManager) : Prop
    extends m.SameCache m', m.Used c time used m'

theorem touched_of_eq {m' : EciesSessionManager} {time : Option Nat} (hcache : m.SameCache m')
    (h : m'.sessions = m.sessions) : m.Touched c time none m' :=
  ⟨hcache, fun _ => h ▸ .kept, nofun⟩

theorem touched_of_insert {m' : EciesSessionManager} {time : Option Nat} {used : Option Key} {remote : Key}
    {session : PairedSession} (hcache : m.SameCache m') (h : m'.sessions = m.sessions.insert remote session)
    (hstep : SessionStep c m.config.idleSeconds time m.sessions[remote]? (some session))
    (hused : used = none ∨ used = some remote ∧ session.lastUsedSeconds ∈ time) : m.Touched c time used m' := by
  refine ⟨hcache, fun key => ?_, fun key hkey => ?_⟩
  · rw [h, TreeMap.getElem?_insert]
    split
    next heq => exact heq ▸ hstep
    · exact .kept
  · obtain rfl | ⟨rfl, htime⟩ := hused
    · cases hkey
    · cases hkey
      exact ⟨session, by rw [h, Std.ExtTreeMap.getElem?_insert_self], htime⟩

section Steps

variable {m' : EciesSessionManager} {secret remote : Key} {payload : List UInt8}
  {nowSeconds : Nat} {s : σ}

theorem startNewSession_eq {answer : Except (Failure EciesSessionError) (EciesOutboundMessage × σ)}
    (h : m.startNewSession c rng secret remote payload nowSeconds s = (m', answer)) :
    (∃ slots tags, m' = { m with pendingInitiated := slots, pendingReplyTags := tags }) ∧
      (answer.toOption.bind fun sent => sent.1.sentOn remote) = none := by
  unfold startNewSession installPending at h
  repeat' split at h
  all_goals first
    | cases h
      exact ⟨⟨_, _, rfl⟩, rfl⟩
    | rename_i hinstall
      split at hinstall <;> cases hinstall
      cases h
      exact ⟨⟨_, _, rfl⟩, rfl⟩

theorem sealNewSessionReply_fresh {responder : NewSessionResponder} {message : NewSessionReplyMessage}
    {tagSets : PairedTagSets} {s' : σ}
    (h : sealNewSessionReply c rng responder secret payload s = .ok (message, tagSets, s')) :
    tagSets.outbound.Fresh := by
  simp only [sealNewSessionReply, ite_error_eq_ok, bind_eq_ok] at h
  obtain ⟨-, -, _, -, _, -, _, -, _, -, _, -, h⟩ := h
  cases h
  exact ⟨rfl, rfl, rfl⟩

theorem openNewSessionReply_fresh {sender : BoundNewSessionSender} {reply : NewSessionReplyMessage}
    {tagSets : PairedTagSets} (h : openNewSessionReply c sender secret reply = .ok (payload, tagSets)) :
    tagSets.outbound.Fresh := by
  simp only [openNewSessionReply, ite_error_eq_ok, bind_eq_ok] at h
  obtain ⟨-, _, -, _, -, _, -, _, -, -, _, -, h⟩ := h
  cases h
  exact ⟨rfl, rfl, rfl⟩

theorem sealNewSessionReplyFor_touched {answer : Except (Failure EciesSessionError) (NewSessionReplyMessage × σ)}
    (h : m.sealNewSessionReplyFor c rng secret remote payload nowSeconds s = (m', answer)) :
    m.Touched c (some nowSeconds) (answer.toOption.map fun _ => remote) m' := by
  unfold sealNewSessionReplyFor at h
  dsimp only at h
  repeat' split at h
  all_goals cases h
  all_goals first
    | exact touched_of_eq ⟨rfl, rfl⟩ rfl
    | exact touched_of_insert ⟨rfl, rfl⟩ rfl (.paired (sealNewSessionReply_fresh ‹_›) rfl) (.inr ⟨rfl, rfl⟩)

theorem encryptToRemote_touched {answer : Except (Failure EciesSessionError) (EciesOutboundMessage × σ)}
    (h : m.encryptToRemote c rng secret remote payload nowSeconds s = (m', answer)) :
    m.Touched c (some nowSeconds) (answer.toOption.bind fun sent => sent.1.sentOn remote) m' := by
  unfold encryptToRemote at h
  split at h
  · split at h
    next hreply =>
      cases h
      exact sealNewSessionReplyFor_touched hreply
    next hreply =>
      cases h
      exact sealNewSessionReplyFor_touched hreply
  · split at h
    · obtain ⟨⟨slots, tags, rfl⟩, hused⟩ := startNewSession_eq h
      exact hused ▸ touched_of_eq ⟨rfl, rfl⟩ rfl
    next session hsession =>
      split at h
      · dsimp only at h
        split at h <;> cases h
        · exact touched_of_insert ⟨rfl, rfl⟩ rfl (hsession ▸ .sealed rfl) (.inl rfl)
        · exact touched_of_insert ⟨rfl, rfl⟩ rfl (hsession ▸ .sealed rfl) (.inr ⟨rfl, rfl⟩)
      next hidle =>
        obtain ⟨⟨slots, tags, rfl⟩, hused⟩ := startNewSession_eq h
        refine ⟨⟨rfl, rfl⟩, fun remote => ?_, hused ▸ nofun⟩
        rw [TreeMap.getElem?_erase]
        split
        next heq => exact heq ▸ hsession ▸ .expired rfl (Nat.not_le.mp hidle)
        · exact .kept

theorem acceptNewSessionReply_touched {reply : NewSessionReplyMessage}
    {answer : Except (Failure EciesSessionError) AcceptedPayload}
    (h : m.acceptNewSessionReply c secret reply nowSeconds = (m', answer)) :
    m.Touched c (some nowSeconds) (answer.toOption.map (·.remoteStaticPublic)) m' := by
  unfold acceptNewSessionReply at h
  dsimp only at h
  repeat' split at h
  all_goals cases h
  all_goals first
    | exact touched_of_eq ⟨rfl, rfl⟩ rfl
    | exact touched_of_insert ⟨rfl, rfl⟩ rfl (.paired (openNewSessionReply_fresh ‹_›) rfl) (.inr ⟨rfl, rfl⟩)

theorem acceptExistingSession_touched {message : ExistingSessionMessage} :
    m.Touched c none none (m.acceptExistingSession c message).1 := by
  unfold acceptExistingSession
  split
  · exact touched_of_eq ⟨rfl, rfl⟩ rfl
  next htag =>
    have hsession := Std.ExtTreeMap.mem_toList_iff_getElem?_eq_some.mp (consumeTag_eq_some htag).1
    dsimp only
    split <;> exact touched_of_insert ⟨rfl, rfl⟩ rfl (hsession ▸ .received) (.inl rfl)

end Steps

variable (c rng m) in
theorem step_cache (call : ManagerCall σ) : (m.step c rng call).config = m.config ∧
    (m.opensNewSession c call = false → (m.step c rng call).seenNewSessionEphemerals = m.seenNewSessionEphemerals) ∧
    (m.opensNewSession c call = true → ∃ representative, (m.step c rng call).seenNewSessionEphemerals =
      (m.rememberNewSessionEphemeral representative).seenNewSessionEphemerals) := by
  have hframe {m' : EciesSessionManager} (h : m.SameCache m') (hnone : m.opensNewSession c call = false) :
      m'.config = m.config ∧
      (m.opensNewSession c call = false → m'.seenNewSessionEphemerals = m.seenNewSessionEphemerals) ∧
      (m.opensNewSession c call = true → ∃ representative, m'.seenNewSessionEphemerals =
        (m.rememberNewSessionEphemeral representative).seenNewSessionEphemerals) := by
    refine ⟨h.config, fun _ => h.seen, fun hopens => ?_⟩
    rw [hnone] at hopens
    cases hopens
  cases call with
  | encryptToRemote => exact hframe (encryptToRemote_touched rfl).toSameCache rfl
  | sealNewSessionReplyFor => exact hframe (sealNewSessionReplyFor_touched rfl).toSameCache rfl
  | acceptNewSessionReply => exact hframe (acceptNewSessionReply_touched rfl).toSameCache rfl
  | acceptExistingSession => exact hframe acceptExistingSession_touched.toSameCache rfl
  | dropProvisionalResponder | advanceTime => exact hframe ⟨rfl, rfl⟩ rfl
  | acceptNewSession localStaticSecret localStaticPublic message nowSeconds =>
    by_cases hseen : m.seenNewSessionEphemerals.contains message.representative
    · simp only [step, acceptNewSession, opensNewSession, hseen]
      simp
    cases hopen : openBoundNewSession c localStaticSecret localStaticPublic message with
    | error e =>
      simp only [step, acceptNewSession, opensNewSession, hopen, if_neg hseen]
      simp [Except.isOk, Except.toBool]
    | ok opened =>
      simp only [step, acceptNewSession, opensNewSession, hopen, if_neg hseen]
      refine ⟨?_, ?_, fun _ => ⟨message.representative, ?_⟩⟩
      · split <;> rfl
      · intro hfalse
        rw [Bool.not_eq_true] at hseen
        rw [hseen] at hfalse
        cases hfalse
      · split <;> rfl

/-- A remembered representative that has fewer than the capacity of newer ones behind it is kept by the next. -/
theorem mem_rememberNewSessionEphemeral {older newer : List Key} {representative : Key}
    (hseen : m.seenNewSessionEphemerals = older ++ representative :: newer)
    (hroom : newer.length + 1 < m.config.maxPendingHandshakes) (next : Key) :
    ∃ older', (m.rememberNewSessionEphemeral next).seenNewSessionEphemerals =
      older' ++ representative :: (newer ++ [next]) := by
  simp only [rememberNewSessionEphemeral, hseen]
  split
  next hfull =>
    cases older with
    | nil =>
      simp only [List.nil_append, List.length_cons] at hfull
      omega
    | cons first older => exact ⟨older, by simp⟩
  · exact ⟨older, by simp⟩

theorem run_remembers {calls : List (ManagerCall σ)} {older newer : List Key} {representative : Key}
    (hseen : m.seenNewSessionEphemerals = older ++ representative :: newer)
    (hroom : newer.length + m.newSessionsOpened c rng calls < m.config.maxPendingHandshakes) :
    representative ∈ (m.run c rng calls).seenNewSessionEphemerals := by
  induction calls generalizing m older newer with
  | nil =>
    rw [run, List.foldl_nil, hseen]
    simp
  | cons call rest ih =>
    obtain ⟨hconfig, hkept, hremembered⟩ := step_cache c rng m call
    rw [newSessionsOpened] at hroom
    cases hopens : m.opensNewSession c call with
    | false =>
      rw [hopens] at hroom
      exact ih ((hkept hopens).trans hseen) (by rw [hconfig]; simpa using hroom)
    | true =>
      rw [hopens, Bool.toNat_true] at hroom
      obtain ⟨next, hnext⟩ := hremembered hopens
      obtain ⟨older', hmem⟩ := mem_rememberNewSessionEphemeral hseen (by omega) next
      exact ih (hnext.trans hmem) (by rw [hconfig, List.length_append, List.length_singleton]; omega)

section Accepted

variable {localStaticSecret localStaticPublic : Key} {message message' : BoundNewSessionMessage}
  {nowSeconds nowSeconds' : Nat} {accepted : AcceptedNewSession}

theorem acceptNewSession_ok {m' : EciesSessionManager}
    (h : m.acceptNewSession c localStaticSecret localStaticPublic message nowSeconds = (m', .ok accepted)) :
    ∃ opened, openBoundNewSession c localStaticSecret localStaticPublic message = .ok opened ∧
      accepted = ⟨opened.payload, opened.responder.aliceStaticPublic⟩ ∧ m'.config = m.config ∧
      m'.seenNewSessionEphemerals =
        (m.rememberNewSessionEphemeral message.representative).seenNewSessionEphemerals := by
  unfold acceptNewSession at h
  split at h
  · cases h
  · split at h
    · cases h
    next opened hopen =>
      dsimp only at h
      split at h
      · cases h
      · cases h
        exact ⟨opened, hopen, rfl, rfl, rfl⟩

theorem acceptNewSession_isOk_iff {opened : OpenedBoundNewSession}
    (hopen : openBoundNewSession c localStaticSecret localStaticPublic message = .ok opened) :
    (∃ accepted, (m.acceptNewSession c localStaticSecret localStaticPublic message nowSeconds).2 = .ok accepted) ↔
      message.representative ∉ m.seenNewSessionEphemerals ∧
      (opened.responder.aliceStaticPublic ∈ m.provisionalResponders ∨
        m.provisionalResponders.size < m.config.maxPendingHandshakes) := by
  unfold acceptNewSession
  by_cases hseen : m.seenNewSessionEphemerals.contains message.representative
  · rw [if_pos hseen]
    simp only [List.contains_iff_mem] at hseen
    simp [hseen]
  · rw [if_neg hseen, hopen]
    simp only [List.contains_iff_mem] at hseen
    simp only [hseen, not_false_eq_true, true_and]
    split
    next hfull =>
      simp only [rememberNewSessionEphemeral, Bool.and_eq_true, Bool.not_eq_true'] at hfull
      obtain ⟨hnew, hfull⟩ := hfull
      simp only [reduceCtorEq, exists_false, false_iff, not_or, Nat.not_lt]
      refine ⟨?_, of_decide_eq_true hfull⟩
      rw [← Std.ExtTreeMap.contains_iff_mem, hnew]
      decide
    next hroom =>
      simp only [rememberNewSessionEphemeral, Bool.and_eq_true, Bool.not_eq_true', not_and] at hroom
      simp only [Except.ok.injEq, exists_eq', true_iff]
      by_cases hknown : opened.responder.aliceStaticPublic ∈ m.provisionalResponders
      · exact .inl hknown
      rw [← Std.ExtTreeMap.contains_iff_mem, Bool.not_eq_true] at hknown
      exact .inr (Nat.not_le.mp fun hfull => hroom hknown (decide_eq_true hfull))

/-- After a New Session was accepted, a message with the same sections is accepted again exactly when its own
representative is not in the replay cache, decodes to the same point, and the sender still has or gets a place
among the responders. The accepted representative itself stays in the cache while fewer New Sessions than its
capacity have been opened. -/
theorem acceptNewSession_sameSections_iff {m' : EciesSessionManager}
    (haccept : m.acceptNewSession c localStaticSecret localStaticPublic message nowSeconds = (m', .ok accepted))
    (calls : List (ManagerCall σ)) (hstatic : message'.encryptedStaticSection = message.encryptedStaticSection)
    (hpayload : message'.encryptedPayloadSection = message.encryptedPayloadSection)
    (hbinds : ∀ point, c.decodeRepresentative message'.representative = .ok point →
      (staticSectionPlain c localStaticSecret localStaticPublic point message.encryptedStaticSection).isSome →
      c.decodeRepresentative message.representative = .ok point) :
    ((∃ again, ((m'.run c rng calls).acceptNewSession c localStaticSecret localStaticPublic message'
        nowSeconds').2 = .ok again) ↔
      message'.representative ∉ (m'.run c rng calls).seenNewSessionEphemerals ∧
      c.decodeRepresentative message'.representative = c.decodeRepresentative message.representative ∧
      (accepted.aliceStaticPublic ∈ (m'.run c rng calls).provisionalResponders ∨
        (m'.run c rng calls).provisionalResponders.size < (m'.run c rng calls).config.maxPendingHandshakes)) ∧
    (m'.newSessionsOpened c rng calls < m.config.maxPendingHandshakes →
      message.representative ∈ (m'.run c rng calls).seenNewSessionEphemerals) := by
  obtain ⟨opened, hopen, rfl, hconfig, hseen⟩ := acceptNewSession_ok haccept
  refine ⟨⟨?_, ?_⟩, fun hfew => ?_⟩
  · rintro ⟨again, hagain⟩
    obtain ⟨opened', hopen', -⟩ := acceptNewSession_ok (Prod.ext rfl hagain)
    obtain ⟨point, hpoint, hsome⟩ := openBoundNewSession_ok hopen'
    have hdecode : c.decodeRepresentative message'.representative = c.decodeRepresentative message.representative := by
      rw [hpoint, hbinds point hpoint (hstatic ▸ hsome)]
    obtain ⟨hnew, hroom⟩ := (acceptNewSession_isOk_iff hopen').mp ⟨again, hagain⟩
    rw [openBoundNewSession_congr hdecode hstatic hpayload, hopen] at hopen'
    cases hopen'
    exact ⟨hnew, hdecode, hroom⟩
  · rintro ⟨hnew, hdecode, hroom⟩
    have hopen' : openBoundNewSession c localStaticSecret localStaticPublic message' = .ok opened :=
      (openBoundNewSession_congr hdecode hstatic hpayload).trans hopen
    exact (acceptNewSession_isOk_iff hopen').mpr ⟨hnew, hroom⟩
  · have hlast : ∃ older, m'.seenNewSessionEphemerals = older ++ message.representative :: [] := ⟨_, hseen⟩
    obtain ⟨older, hlast⟩ := hlast
    refine run_remembers hlast ?_
    rw [hconfig]
    simpa using hfew

end Accepted

def sampleConfig : EciesSessionConfig :=
  ⟨2, 2, 3, 600, by decide, by decide, by decide, by decide⟩

def sampleSecret (byte : UInt8) : Key := .replicate 32 byte

def samplePublic (byte : UInt8) : Key := EciesCrypto.plain.x25519Public (sampleSecret byte)

def sampleNewSession : BoundNewSessionMessage :=
  match EciesEphemeralKeypair.build .plain (sampleSecret 3) 0 with
  | none => ⟨.replicate 32 0, [], []⟩
  | some ephemeral =>
    match sealBoundNewSession .plain (sampleSecret 1) ephemeral (samplePublic 2) [4, 5] with
    | .error _ => ⟨.replicate 32 0, [], []⟩
    | .ok (message, _) => message

def sampleFlipped : BoundNewSessionMessage :=
  { sampleNewSession with
    representative := sampleNewSession.representative.set 31 (sampleNewSession.representative.get 31 ||| 0x80) }

def sampleResponder : EciesSessionManager :=
  ((new sampleConfig).acceptNewSession .plain (sampleSecret 2) (samplePublic 2) sampleNewSession 0).1

set_option maxRecDepth 4000 in
theorem sampleResponder_accepted :
    (new sampleConfig).acceptNewSession .plain (sampleSecret 2) (samplePublic 2) sampleNewSession 0 =
      (sampleResponder, .ok ⟨[4, 5], samplePublic 1⟩) :=
  rfl

theorem sampleFlipped_accepted : sampleFlipped.encryptedStaticSection = sampleNewSession.encryptedStaticSection ∧
      sampleFlipped.encryptedPayloadSection = sampleNewSession.encryptedPayloadSection ∧
      (new sampleConfig).acceptNewSession .plain (sampleSecret 2) (samplePublic 2) sampleNewSession 0 =
        (sampleResponder, .ok ⟨[4, 5], samplePublic 1⟩) ∧
      (sampleResponder.acceptNewSession .plain (sampleSecret 2) (samplePublic 2) sampleFlipped 0).2 =
        .ok ⟨[4, 5], samplePublic 1⟩ :=
  ⟨rfl, rfl, sampleResponder_accepted, by decide +kernel⟩

theorem acceptNewSession_sameSections_iff_sample :
    ¬ ∃ again, ((sampleResponder.run .plain countingRng []).acceptNewSession .plain (sampleSecret 2) (samplePublic 2)
      sampleNewSession 1).2 = .ok again := by
  obtain ⟨hiff, hkept⟩ := acceptNewSession_sameSections_iff sampleResponder_accepted ([] : List (ManagerCall Nat)) rfl rfl
    fun point hpoint _ => hpoint
  rw [hiff]
  rintro ⟨hnew, -⟩
  exact hnew (hkept (by decide))

end EciesSessionManager

end I2pr.Ecies

import I2pr.Ntcp2StateMachine
import I2pr.NoisePlain
import I2pr.Lib.Runs

namespace I2pr.Ntcp2

open Noise (Key)
open Runs

inductive ReplayCacheDecision where
  | fresh
  | replayed
  | full

/-- Tokens with the time up to which they are kept. -/
structure ReplayCache where
  maximum : Nat
  entries : Std.ExtTreeMap Key Nat
  maximum_pos : 0 < maximum

def expiresAt (now retention : Nat) : Nat :=
  min (now + retention) (2 ^ 64 - 1)

namespace ReplayCache

def new (maximum : Nat) (h : 0 < maximum) : ReplayCache := ⟨maximum, ∅, h⟩

def checkAndRecord (cache : ReplayCache) (token : Key) (now retention : Nat) : ReplayCache × ReplayCacheDecision :=
  let entries := cache.entries.filter fun _ expiry => now < expiry
  if entries.contains token then ({ cache with entries }, .replayed)
  else if cache.maximum ≤ entries.size then ({ cache with entries }, .full)
  else ({ cache with entries := entries.insert token (expiresAt now retention) }, .fresh)

def replayDecision (now : Nat) (cache : ReplayCache) (token : Key) (retention : Nat) : ReplayCache × ReplayDecision :=
  let (cache, decision) := cache.checkAndRecord token now retention
  (cache, match decision with
    | .fresh => .fresh
    | .replayed => .replayed
    | .full => .cacheFull)

theorem getElem?_unexpired (cache : ReplayCache) (now : Nat) (token : Key) :
    (cache.entries.filter fun _ expiry => now < expiry)[token]? =
      cache.entries[token]?.filter fun expiry => now < expiry := by
  rw [Std.ExtTreeMap.getElem?_filter]
  cases cache.entries[token]? with
  | none => rfl
  | some expiry => simp [Option.filter, Option.pfilter]

variable {cache : ReplayCache} {token : Key} {now : Nat}

theorem replayDecision_eq_fresh {retention : Nat} : (cache.replayDecision now token retention).2 = .fresh ↔
      (cache.checkAndRecord token now retention).2 = .fresh := by
  unfold replayDecision
  dsimp only
  cases (cache.checkAndRecord token now retention).2 <;> simp

theorem replayDecision_fresh {retention : Nat} (h : (cache.replayDecision now token retention).2 = .fresh) :
    (∀ expiry, cache.entries[token]? = some expiry → expiry ≤ now) ∧
      (cache.replayDecision now token retention).1.entries[token]? = some (expiresAt now retention) := by
  rw [replayDecision_eq_fresh] at h
  change _ ∧ (cache.checkAndRecord token now retention).1.entries[token]? = _
  unfold checkAndRecord at h ⊢
  dsimp only at h ⊢
  split at h
  · cases h
  next habsent =>
    split at h
    · cases h
    next hroom =>
      rw [if_neg habsent, if_neg hroom]
      refine ⟨fun expiry hget => ?_, Std.ExtTreeMap.getElem?_insert_self⟩
      rw [Std.ExtTreeMap.contains_eq_isSome_getElem?, getElem?_unexpired, hget] at habsent
      simpa [Option.filter] using habsent

theorem replayDecision_keeps {expiry : Nat}
    (hget : cache.entries[token]? = some expiry) (hnow : now < expiry) (other : Key) (retention : Nat) :
    (cache.replayDecision now other retention).1.entries[token]? = some expiry := by
  have hkept : (cache.entries.filter fun _ expiry => now < expiry)[token]? = some expiry := by
    rw [getElem?_unexpired, hget, Option.filter_some, if_pos (by simpa using hnow)]
  change (cache.checkAndRecord other now retention).1.entries[token]? = _
  unfold checkAndRecord
  dsimp only
  split
  · exact hkept
  next habsent =>
    split
    · exact hkept
    rw [TreeMap.getElem?_insert_of_ne, hkept]
    rintro rfl
    rw [Std.ExtTreeMap.contains_eq_isSome_getElem?, hkept] at habsent
    exact habsent rfl

end ReplayCache

structure Listener where
  localStatic : Key
  localRouterHash : Key
  obfuscationIv : Block
  networkId : UInt8
  skew : ClockSkewPolicy

/-- A handshake the driver runs: the state and the actions to answer, `none` when it has ended. Beside them, the
SessionRequest it was fed and the readings at which it passed the replay check and the classification. -/
structure ResponderRun where
  current : Option (ResponderState × List HandshakeAction)
  request : List UInt8
  checkedAt : Option Nat
  classifiedAt : Option Nat

structure Handshakes where
  cache : ReplayCache
  clock : Nat
  runs : List ResponderRun

section Driver

variable (c : Ntcp2Crypto) (decoder : RouterInfoDecoder) (listener : Listener)

namespace ResponderRun

def start (ephemeral : Key) (expectedPeerHash : Option Key) : ResponderRun where
  current := ((ResponderState.new c listener.localStatic ephemeral expectedPeerHash listener.localRouterHash
    listener.obfuscationIv listener.networkId listener.skew).bind ResponderState.start).toOption
  request := []
  checkedAt := none
  classifiedAt := none

variable (run : ResponderRun)

def note (now : Nat) (state : ResponderState) (input : HandshakeInput) : ResponderRun :=
  match state, input with
  | .needRequest .., .bytes bytes => { run with request := bytes }
  | .awaitReplay .., .replay .fresh => { run with checkedAt := some now }
  | .needPeerTimestamp .., .timestamp _ => { run with classifiedAt := some now }
  | _, _ => run

def drive (cache : ReplayCache) (now : Nat) (data : List UInt8) (run : ResponderRun) : ReplayCache × ResponderRun :=
  match run.current with
  | none => (cache, run)
  | some (state, actions) =>
    match answer (ReplayCache.replayDecision now) cache now data actions with
    | none => (cache, { run with current := none })
    | some (cache, input) =>
      match state.transition c decoder input with
      | .error _ => (cache, { run with current := none })
      | .ok next => (cache, { run.note now state input with current := some next })

def Accepted : Prop :=
  run.checkedAt.isSome ∧ run.classifiedAt.isSome

/-- The options of a request whose timestamp is to be classified next. -/
def unclassified : Option SessionRequestOptions :=
  match run.current with
  | some (.needPeerTimestamp _ _ _ options _ _, _) => some options
  | _ => none

/-- The entry of a request whose timestamp is about to be classified is kept for longer than the timestamp is
acceptable. -/
def Outlived : Prop :=
  ∀ options ∈ run.unclassified, ∀ t ∈ run.checkedAt,
    options.timestamp.toNat + listener.skew.maximumDelta < expiresAt t listener.skew.replayRetention

instance (run : ResponderRun) : Decidable (run.Outlived listener) :=
  inferInstanceAs (Decidable (∀ options ∈ run.unclassified, _))

end ResponderRun

namespace Handshakes

inductive Move where
  | accept (ephemeral : Key) (expectedPeerHash : Option Key)
  | drive (index now : Nat) (data : List UInt8)

def empty (maximum : Nat) (h : 0 < maximum) : Handshakes := ⟨.new maximum h, 0, []⟩

variable (st : Handshakes)

def move : Move → Handshakes
  | .accept ephemeral expectedPeerHash =>
    { st with runs := st.runs ++ [.start c listener ephemeral expectedPeerHash] }
  | .drive index now data =>
    match st.runs[index]? with
    | none => st
    | some run =>
      let (cache, run) := run.drive c decoder st.cache now data
      ⟨cache, now, st.runs.set index run⟩

def Considered : Move → Prop
  | .accept .. => True
  | .drive _ now _ => st.clock ≤ now

def Keeps : Move → Prop
  | .accept .. => True
  | .drive index _ _ => ∀ run ∈ st.runs[index]?, run.Outlived listener

/-- No two handshakes that were fed the same SessionRequest are accepted. -/
def AcceptedOnce : Prop :=
  ∀ (i j : Nat) (a b : ResponderRun), i ≠ j → st.runs[i]? = some a → st.runs[j]? = some b →
    a.request = b.request → a.Accepted → ¬ b.Accepted

end Handshakes

def Listener.requestOptions (request : SessionRequest) : Except HandshakeError SessionRequestOptions := do
  let (_, initiatorEphemeral) ← (AesObfuscationState.decrypt c ⟨listener.localRouterHash, listener.obfuscationIv⟩
    request.encryptedEphemeral).mapError mapCrypto
  let shared ← diffieHellman c listener.localStatic initiatorEphemeral
  let (_, plaintext) ← ((Transcript.new c .responder (c.publicKey listener.localStatic)).acceptSessionRequest c
    initiatorEphemeral shared request.encryptedOptions).mapError mapCrypto
  SessionRequestOptions.decode plaintext

/-- The part of a handshake's configuration that comes from its listener. -/
structure Listener.Configures (common : ResponderCommon) : Prop where
  localStatic : common.localStatic = listener.localStatic
  localStaticPublic : common.localStaticPublic = c.publicKey listener.localStatic
  skew : common.skew = listener.skew

def Listener.obfuscation : AesObfuscationState := ⟨listener.localRouterHash, listener.obfuscationIv⟩

end Driver

section Acceptance

variable {c : Ntcp2Crypto} {decoder : RouterInfoDecoder} {listener : Listener}

open Fallible

variable {common : ResponderCommon} {next : ResponderState × List HandshakeAction}

theorem ResponderState.readRequest_eq_ok {obfuscation : AesObfuscationState} {bytes : List UInt8}
    (h : readRequest c common obfuscation bytes = .ok next) :
    bytes.length = minHandshakeMessageLength ∧
    ∃ request, SessionRequest.decode bytes maxHandshakeMessageLength = .ok request ∧
      next = (.awaitReplay common obfuscation request,
        [.requestReplay (replayToken c request.encryptedEphemeral) common.skew.replayRetention]) := by
  unfold readRequest at h
  obtain ⟨hlength, h⟩ := ite_error_eq_ok.mp h
  obtain ⟨request, hrequest, h⟩ := bind_eq_ok.mp h
  cases h
  exact ⟨not_not.mp hlength, request, hrequest, rfl⟩

theorem ResponderState.acceptRequest_eq_ok {request : SessionRequest} (hcommon : listener.Configures c common)
    (h : acceptRequest c common listener.obfuscation request = .ok next) :
    ∃ obfuscation options ephemeral transcript, listener.requestOptions c request = .ok options ∧
      (next = (.needPeerTimestamp common obfuscation [] options ephemeral transcript,
          [.requestTimestamp .peerValidation]) ∨
        next = (.awaitRequestPadding common obfuscation options ephemeral transcript options.paddingLength.toNat,
          [.readExact options.paddingLength.toNat])) := by
  unfold acceptRequest at h
  rw [hcommon.localStatic, hcommon.localStaticPublic] at h
  simp only [bind_eq_ok] at h
  obtain ⟨⟨obfuscation, ephemeral⟩, hephemeral, shared, hshared, ⟨transcript, plaintext⟩, hopened, options, hoptions,
    h⟩ := h
  have hread : listener.requestOptions c request = .ok options :=
    bind_eq_ok.mpr ⟨_, hephemeral, bind_eq_ok.mpr ⟨_, hshared, bind_eq_ok.mpr ⟨_, hopened, hoptions⟩⟩⟩
  split at h
  · cases h
  split at h
  · obtain ⟨transcript, -, h⟩ := bind_eq_ok.mp h
    cases h
    exact ⟨_, _, _, _, hread, .inl rfl⟩
  · cases h
    exact ⟨_, _, _, _, hread, .inr rfl⟩

def ResponderState.Late : ResponderState → Prop
  | .needCreatedPadding .. | .awaitConfirmed .. | .done => True
  | _ => False

namespace ResponderRun

structure Reads (c : Ntcp2Crypto) (listener : Listener) (run : ResponderRun) (options : SessionRequestOptions) :
    Prop where
  decoded : ∃ request, SessionRequest.decode run.request maxHandshakeMessageLength = .ok request ∧
    listener.requestOptions c request = .ok options

theorem Reads.unique {a b : ResponderRun} {optionsA optionsB : SessionRequestOptions} (ha : a.Reads c listener optionsA)
    (hb : b.Reads c listener optionsB) (h : a.request = b.request) : optionsA = optionsB := by
  obtain ⟨requestA, hdecodeA, hoptionsA⟩ := ha.decoded
  obtain ⟨requestB, hdecodeB, hoptionsB⟩ := hb.decoded
  rw [h] at hdecodeA
  cases hdecodeA.symm.trans hdecodeB
  cases hoptionsA.symm.trans hoptionsB
  rfl

/-- The state and the actions of a handshake fit what it went through. -/
inductive Phase (c : Ntcp2Crypto) (listener : Listener) (run : ResponderRun) : Prop
  | ended (h : run.current = none)
  | needRequest {common : ResponderCommon} (hcommon : listener.Configures c common) {length}
      (h : run.current = some (.needRequest common listener.obfuscation, [.readExact length]))
      (hchecked : run.checkedAt = none) (hclassified : run.classifiedAt = none)
  | awaitReplay {common : ResponderCommon} (hcommon : listener.Configures c common) {request}
      (hdecode : SessionRequest.decode run.request maxHandshakeMessageLength = .ok request)
      (h : run.current = some (.awaitReplay common listener.obfuscation request,
        [.requestReplay (replayToken c request.encryptedEphemeral) listener.skew.replayRetention]))
      (hchecked : run.checkedAt = none) (hclassified : run.classifiedAt = none)
  | awaitRequestPadding {common : ResponderCommon} (hcommon : listener.Configures c common)
      {obfuscation options ephemeral transcript length length'} (hreads : run.Reads c listener options)
      (h : run.current = some (.awaitRequestPadding common obfuscation options ephemeral transcript length,
        [.readExact length']))
      (hchecked : run.checkedAt.isSome) (hclassified : run.classifiedAt = none)
  | needPeerTimestamp {common : ResponderCommon} (hcommon : listener.Configures c common)
      {obfuscation padding options ephemeral transcript} (hreads : run.Reads c listener options)
      (h : run.current = some (.needPeerTimestamp common obfuscation padding options ephemeral transcript,
        [.requestTimestamp .peerValidation]))
      (hchecked : run.checkedAt.isSome) (hclassified : run.classifiedAt = none)
  | late {state : ResponderState} {actions} (hlate : state.Late)
      (h : run.current = some (state, actions))

/-- What one turn of the driver does to a handshake and the cache. -/
inductive Driven (c : Ntcp2Crypto) (listener : Listener) (cache : ReplayCache) (now : Nat) (run : ResponderRun) :
    ReplayCache × ResponderRun → Prop
  | quiet {run'} (hrequest : run'.request = run.request) (hchecked : run'.checkedAt = run.checkedAt)
      (hclassified : run'.classifiedAt = run.classifiedAt) : Driven c listener cache now run (cache, run')
  | refused {run'} (hrequest : run'.request = run.request) (hchecked : run'.checkedAt = run.checkedAt)
      (hclassified : run'.classifiedAt = run.classifiedAt) (token : Key) (retention : Nat) :
    Driven c listener cache now run ((cache.replayDecision now token retention).1, run')
  | read {run'} (hchecked : run'.checkedAt = none) (hclassified : run'.classifiedAt = none) :
    Driven c listener cache now run (cache, run')
  | fresh {run' request} (hrequest : run'.request = run.request)
      (hdecode : SessionRequest.decode run.request maxHandshakeMessageLength = .ok request)
      (hfresh : (cache.replayDecision now (replayToken c request.encryptedEphemeral)
        listener.skew.replayRetention).2 = .fresh)
      (hchecked : run'.checkedAt = some now) (hclassified : run'.classifiedAt = none) :
    Driven c listener cache now run ((cache.replayDecision now (replayToken c request.encryptedEphemeral)
      listener.skew.replayRetention).1, run')
  | classified {run' options t}
      (hrequest : run'.request = run.request) (hreads : run.Reads c listener options)
      (hbefore : run.checkedAt = some t) (hchecked : run'.checkedAt = some t)
      (hclassified : run'.classifiedAt = some now)
      (hclassify : listener.skew.classify now options.timestamp = .ok ())
      (houtlived : run.Outlived listener →
        options.timestamp.toNat + listener.skew.maximumDelta < expiresAt t listener.skew.replayRetention) :
    Driven c listener cache now run (cache, run')

variable {run : ResponderRun} {state : ResponderState} {cache : ReplayCache} {now : Nat}
  {input : HandshakeInput} {actions : List HandshakeAction} {data : List UInt8}

theorem answer_eq_some {cache' : ReplayCache}
    (h : answer (ReplayCache.replayDecision now) cache now data actions = some (cache', input)) :
    cache' = cache ∨ ∃ token retention, cache' = (cache.replayDecision now token retention).1 := by
  induction actions with
  | nil => cases h
  | cons action rest ih =>
    cases action with
    | write => exact ih h
    | requestTimestamp =>
      cases h
      exact .inl rfl
    | requestReplay token retention =>
      cases h
      exact .inr ⟨token, retention, rfl⟩
    | authenticated => cases h
    | terminate => cases h
    | _ =>
      simp only [answer] at h
      split at h <;> cases h
      exact .inl rfl

/-- A turn ends the handshake, or its machine makes a step. -/
theorem drive_cases (hcurrent : run.current = some (state, actions)) :
    (∃ cache', (cache' = cache ∨ ∃ token retention, cache' = (cache.replayDecision now token retention).1) ∧
      run.drive c decoder cache now data = (cache', { run with current := none })) ∨
    ∃ cache' input next, answer (ReplayCache.replayDecision now) cache now data actions = some (cache', input) ∧
      ResponderState.Stepped c decoder state input next ∧
      run.drive c decoder cache now data = (cache', { run.note now state input with current := some next }) := by
  simp only [drive, hcurrent]
  cases hanswer : answer (ReplayCache.replayDecision now) cache now data actions with
  | none => exact .inl ⟨cache, .inl rfl, rfl⟩
  | some answered =>
    cases htransition : state.transition c decoder answered.2 with
    | error e => exact .inl ⟨_, answer_eq_some hanswer, by simp only [htransition]⟩
    | ok next => exact .inr ⟨_, _, next, rfl, ResponderState.transition_eq_ok htransition, by simp only [htransition]⟩

theorem answer_readExact {cache' : ReplayCache} {length : Nat}
    (h : answer (ReplayCache.replayDecision now) cache now data [.readExact length] = some (cache', input)) :
    cache' = cache ∧ input = .bytes data := by
  simp only [answer] at h
  split at h <;> cases h
  exact ⟨rfl, rfl⟩

/-- A late handshake stays late, and what it went through stands. -/
theorem Stepped.late
    (h : ResponderState.Stepped c decoder state input next) (hlate : state.Late) (run : ResponderRun) (now : Nat) :
    next.1.Late ∧ run.note now state input = run := by
  cases h with
  | ending => cases state <;> first | exact hlate.elim | exact ⟨trivial, rfl⟩
  | created h =>
    obtain ⟨-, h⟩ := ite_error_eq_ok.mp h
    repeat obtain ⟨_, -, h⟩ := bind_eq_ok.mp h
    cases h
    exact ⟨trivial, rfl⟩
  | confirmed h =>
    repeat obtain ⟨_, -, h⟩ := bind_eq_ok.mp h
    cases h
    exact ⟨trivial, rfl⟩
  | _ => exact hlate.elim

variable (decoder) in
theorem Phase.drive (h : run.Phase c listener) (cache : ReplayCache) (now : Nat)
    (data : List UInt8) : Driven c listener cache now run (run.drive c decoder cache now data) ∧
      (run.drive c decoder cache now data).2.Phase c listener := by
  have hsame {cache' : ReplayCache} {run' : ResponderRun} (hcache : cache' = cache ∨ ∃ token retention, cache' =
      (cache.replayDecision now token retention).1) (hrequest : run'.request = run.request)
      (hchecked : run'.checkedAt = run.checkedAt) (hclassified : run'.classifiedAt = run.classifiedAt) :
      Driven c listener cache now run (cache', run') := by
    rcases hcache with rfl | ⟨token, retention, rfl⟩
    · exact .quiet hrequest hchecked hclassified
    · exact .refused hrequest hchecked hclassified token retention
  cases hcurrent : run.current with
  | none =>
    simp only [ResponderRun.drive, hcurrent]
    exact ⟨.quiet rfl rfl rfl, .ended hcurrent⟩
  | some current =>
    rcases drive_cases hcurrent with ⟨cache', hcache, hdrive⟩ | ⟨cache', input, next, hanswer, hstep, hdrive⟩
    · rw [hdrive]
      exact ⟨hsame hcache rfl rfl rfl, .ended rfl⟩
    rw [hdrive]
    cases h with
    | ended h => cases hcurrent.symm.trans h
    | needRequest hcommon h hchecked hclassified =>
      cases hcurrent.symm.trans h
      obtain ⟨rfl, rfl⟩ := answer_readExact hanswer
      cases hstep with
      | ending hending => cases hending
      | request hrequest =>
        obtain ⟨-, request, hdecode, rfl⟩ := ResponderState.readRequest_eq_ok hrequest
        exact ⟨.read hchecked hclassified, .awaitReplay hcommon hdecode (by rw [hcommon.skew]) hchecked hclassified⟩
    | awaitReplay hcommon hdecode h hchecked hclassified =>
      cases hcurrent.symm.trans h
      obtain ⟨rfl, hinput⟩ := Prod.mk.inj (Option.some.inj hanswer)
      cases hstep with
      | ending hending =>
        subst hinput
        cases hending
      | fresh hrequest =>
        obtain ⟨obfuscation, options, ephemeral, transcript, hoptions, rfl | rfl⟩ :=
          ResponderState.acceptRequest_eq_ok hcommon hrequest
        · exact ⟨.fresh rfl hdecode (HandshakeInput.replay.inj hinput) rfl hclassified,
            .needPeerTimestamp hcommon ⟨_, hdecode, hoptions⟩ rfl rfl hclassified⟩
        · exact ⟨.fresh rfl hdecode (HandshakeInput.replay.inj hinput) rfl hclassified,
            .awaitRequestPadding hcommon ⟨_, hdecode, hoptions⟩ rfl rfl hclassified⟩
    | awaitRequestPadding hcommon hreads h hchecked hclassified =>
      cases hcurrent.symm.trans h
      obtain ⟨rfl, rfl⟩ := answer_readExact hanswer
      cases hstep with
      | ending hending => cases hending
      | padding hmixed =>
        exact ⟨.quiet rfl rfl rfl, .needPeerTimestamp hcommon ⟨hreads.decoded⟩ rfl hchecked hclassified⟩
    | needPeerTimestamp hcommon hreads h hchecked hclassified =>
      cases hcurrent.symm.trans h
      cases hanswer
      obtain ⟨t, ht⟩ := Option.isSome_iff_exists.mp hchecked
      cases hstep with
      | ending hending => cases hending
      | timestamp hclassify =>
        rw [hcommon.skew] at hclassify
        refine ⟨.classified rfl hreads ht ht rfl hclassify fun houtlived => houtlived _ ?_ t ht, .late ?_ rfl⟩
        · simp only [unclassified, h, Option.mem_some]
        · trivial
    | late hlate h =>
      cases hcurrent.symm.trans h
      obtain ⟨hnext, hnote⟩ := Stepped.late hstep hlate run now
      rw [hnote]
      exact ⟨hsame (answer_eq_some hanswer) rfl rfl rfl, .late hnext rfl⟩

theorem phase_start (ephemeral : Key) (expectedPeerHash : Option Key) :
    (start c listener ephemeral expectedPeerHash).Phase c listener := by
  have hcommon : listener.Configures c ⟨listener.localStatic, ephemeral, c.publicKey listener.localStatic,
      expectedPeerHash, listener.networkId, listener.skew⟩ := ⟨rfl, rfl, rfl⟩
  apply Phase.needRequest hcommon _ rfl rfl
  · exact minHandshakeMessageLength
  · simp only [start, ResponderState.new, publicKeyOf_eq]
    rfl

end ResponderRun

theorem ClockSkewPolicy.classify_le {policy : ClockSkewPolicy} {now : Nat} {peer : UInt32}
    (h : policy.classify now peer = .ok ()) : now ≤ peer.toNat + policy.maximumDelta := by
  unfold classify at h
  dsimp only at h
  obtain ⟨hstale, h⟩ := ite_error_eq_ok.mp h
  omega

namespace Handshakes

open ResponderRun

/-- What the readings of one handshake say about its request, and the cache about the readings. -/
structure Accounted (c : Ntcp2Crypto) (listener : Listener) (cache : ReplayCache) (clock : Nat) (run : ResponderRun) :
    Prop where
  phase : run.Phase c listener
  checked : ∀ t ∈ run.checkedAt, t ≤ clock
  remembered : ∀ t ∈ run.checkedAt, ∃ request,
    SessionRequest.decode run.request maxHandshakeMessageLength = .ok request ∧
      (expiresAt t listener.skew.replayRetention ≤ clock ∨
        ∃ expiry, cache.entries[replayToken c request.encryptedEphemeral]? = some expiry ∧
          expiresAt t listener.skew.replayRetention ≤ expiry)
  classified : ∀ t' ∈ run.classifiedAt, ∃ t ∈ run.checkedAt, t ≤ t' ∧ ∃ options, run.Reads c listener options ∧
    t' ≤ options.timestamp.toNat + listener.skew.maximumDelta ∧
    options.timestamp.toNat + listener.skew.maximumDelta < expiresAt t listener.skew.replayRetention

/-- The readings at which two handshakes found the same request fresh are a retention apart. -/
def Apart (listener : Listener) (a b : ResponderRun) : Prop :=
  a.request = b.request → ∀ t ∈ a.checkedAt, ∀ u ∈ b.checkedAt,
    expiresAt t listener.skew.replayRetention ≤ u ∨ expiresAt u listener.skew.replayRetention ≤ t

theorem Apart.symm {a b : ResponderRun} (h : Apart listener a b) : Apart listener b a :=
  fun hrequest t ht u hu => (h hrequest.symm u hu t ht).symm

theorem Apart.of_unchecked {a b : ResponderRun} (h : b.checkedAt = none) : Apart listener a b := by
  intro _ t _ u hu
  rw [h] at hu
  cases hu

structure Sound (c : Ntcp2Crypto) (listener : Listener) (st : Handshakes) : Prop where
  accounted : ∀ run ∈ st.runs, Accounted c listener st.cache st.clock run
  apart : ∀ (i j : Nat) (a b : ResponderRun), i ≠ j → st.runs[i]? = some a → st.runs[j]? = some b →
    Apart listener a b

variable {cache : ReplayCache} {now : Nat} {run : ResponderRun}

theorem Accounted.later {clock : Nat}
    (h : Accounted c listener cache clock run) (hnow : clock ≤ now) : Accounted c listener cache now run where
  phase := h.phase
  checked t ht := (h.checked t ht).trans hnow
  remembered t ht := by
    obtain ⟨request, hdecode, hexpired | hkept⟩ := h.remembered t ht
    · exact ⟨request, hdecode, .inl (hexpired.trans hnow)⟩
    · exact ⟨request, hdecode, .inr hkept⟩
  classified := h.classified

theorem Accounted.check (h : Accounted c listener cache now run) (token : Key) (retention : Nat) :
    Accounted c listener (cache.replayDecision now token retention).1 now run where
  phase := h.phase
  checked := h.checked
  remembered t ht := by
    obtain ⟨request, hdecode, hexpired | ⟨expiry, hget, hle⟩⟩ := h.remembered t ht
    · exact ⟨request, hdecode, .inl hexpired⟩
    · refine ⟨request, hdecode, ?_⟩
      by_cases hnow : now < expiry
      · exact .inr ⟨expiry, ReplayCache.replayDecision_keeps hget hnow token retention, hle⟩
      · exact .inl (hle.trans (not_lt.mp hnow))
  classified := h.classified

theorem Accounted.quiet {clock : Nat} {run' : ResponderRun}
    (h : Accounted c listener cache clock run) (hphase : run'.Phase c listener)
    (hrequest : run'.request = run.request) (hchecked : run'.checkedAt = run.checkedAt)
    (hclassified : run'.classifiedAt = run.classifiedAt) : Accounted c listener cache clock run' where
  phase := hphase
  checked := by
    rw [hchecked]
    exact h.checked
  remembered := by
    rw [hchecked, hrequest]
    exact h.remembered
  classified := by
    rw [hchecked, hclassified]
    intro t' ht'
    obtain ⟨t, ht, hle, options, hreads, hrest⟩ := h.classified t' ht'
    exact ⟨t, ht, hle, options, ⟨by rw [hrequest]; exact hreads.decoded⟩, hrest⟩

theorem Accounted.apart_of_fresh {run' : ResponderRun}
    (h : Accounted c listener cache now run) {request : SessionRequest}
    (hdecode : SessionRequest.decode run'.request maxHandshakeMessageLength = .ok request)
    (hfresh : (cache.replayDecision now (replayToken c request.encryptedEphemeral)
      listener.skew.replayRetention).2 = .fresh) (hchecked : run'.checkedAt = some now) :
    Apart listener run run' := by
  intro hrequest t ht u hu
  rw [hchecked] at hu
  cases hu
  obtain ⟨request', hdecode', hcases⟩ := h.remembered t ht
  rw [hrequest, hdecode] at hdecode'
  cases hdecode'
  rcases hcases with hexpired | ⟨expiry, hget, hle⟩
  · exact .inl hexpired
  · exact .inl (hle.trans ((ReplayCache.replayDecision_fresh hfresh).1 expiry hget))

/-- One turn of the driver: the handshake stays accounted for, and so do the others, from whose readings it stays
apart. -/
theorem Driven.accounted {after : ReplayCache × ResponderRun}
    (hdriven : Driven c listener cache now run after) (h : Accounted c listener cache now run)
    (hphase : after.2.Phase c listener) (houtlived : run.Outlived listener) :
    Accounted c listener after.1 now after.2 ∧
      ∀ other, Accounted c listener cache now other →
        Accounted c listener after.1 now other ∧ (Apart listener other run → Apart listener other after.2) := by
  cases hdriven with
  | quiet hrequest hchecked hclassified =>
    refine ⟨h.quiet hphase hrequest hchecked hclassified, fun other hother => ⟨hother, fun hapart => ?_⟩⟩
    intro heq t ht u hu
    exact hapart (heq.trans hrequest) t ht u (hchecked ▸ hu)
  | refused hrequest hchecked hclassified token retention =>
    refine ⟨(h.check token retention).quiet hphase hrequest hchecked hclassified,
      fun other hother => ⟨hother.check token retention, fun hapart => ?_⟩⟩
    intro heq t ht u hu
    exact hapart (heq.trans hrequest) t ht u (hchecked ▸ hu)
  | read hchecked hclassified =>
    exact ⟨⟨hphase, by simp [hchecked], by simp [hchecked], by simp [hclassified]⟩, fun other hother =>
      ⟨hother, fun _ => .of_unchecked hchecked⟩⟩
  | fresh hrequest hdecode hfresh hchecked hclassified =>
    rw [← hrequest] at hdecode
    refine ⟨⟨hphase, ?_, ?_, ?_⟩, fun other hother => ⟨hother.check _ _, fun _ =>
      hother.apart_of_fresh hdecode hfresh hchecked⟩⟩
    · simp [hchecked]
    · intro t ht
      rw [hchecked] at ht
      cases ht
      exact ⟨_, hdecode, .inr ⟨_, (ReplayCache.replayDecision_fresh hfresh).2, le_rfl⟩⟩
    · simp [hclassified]
  | @classified run' options t hrequest hreads hbefore hchecked hclassified hclassify hlong =>
    have hsame : run'.checkedAt = run.checkedAt := hchecked.trans hbefore.symm
    refine ⟨⟨hphase, ?_, ?_, ?_⟩, fun other hother => ⟨hother, fun hapart heq t ht u hu =>
      hapart (heq.trans hrequest) t ht u (hsame ▸ hu)⟩⟩
    · rw [hsame]
      exact h.checked
    · rw [hsame, hrequest]
      exact h.remembered
    · intro t' ht'
      rw [hclassified] at ht'
      cases ht'
      exact ⟨t, hchecked, h.checked t hbefore, options, ⟨by rw [hrequest]; exact hreads.decoded⟩,
        ClockSkewPolicy.classify_le hclassify, hlong houtlived⟩

theorem Sound.move {st : Handshakes} (h : Sound c listener st) {first : Move} (hconsidered : st.Considered first)
    (hkeeps : st.Keeps listener first) : Sound c listener (st.move c decoder listener first) := by
  cases first with
  | accept ephemeral expectedPeerHash =>
    have hstart : Accounted c listener st.cache st.clock (.start c listener ephemeral expectedPeerHash) :=
      ⟨phase_start ephemeral expectedPeerHash, fun t ht => (by cases ht), fun t ht => (by cases ht),
        fun t ht => (by cases ht)⟩
    constructor
    · exact List.forall_mem_append.mpr ⟨h.accounted, List.forall_mem_singleton.mpr hstart⟩
    · intro i j a b hne ha hb
      have hcases {k : Nat} {run : ResponderRun}
          (hget : (st.runs ++ [ResponderRun.start c listener ephemeral expectedPeerHash])[k]? = some run) :
          st.runs[k]? = some run ∨ run.checkedAt = none := by
        rw [List.getElem?_append] at hget
        split at hget
        · exact .inl hget
        right
        rw [List.mem_singleton.mp (List.mem_of_getElem? hget)]
        rfl
      rcases hcases ha with ha | ha
      · rcases hcases hb with hb | hb
        · exact h.apart i j a b hne ha hb
        · exact .of_unchecked hb
      · exact (Apart.of_unchecked ha).symm
  | drive index now data =>
    cases hrun : st.runs[index]? with
    | none =>
      simp only [Handshakes.move, hrun]
      exact h
    | some run =>
      simp only [Handshakes.move, hrun]
      have hlater : ∀ other ∈ st.runs, Accounted c listener st.cache now other :=
        fun other hmem => (h.accounted other hmem).later hconsidered
      have haccounted := hlater run (List.mem_of_getElem? hrun)
      obtain ⟨hdriven, hphase⟩ := haccounted.phase.drive decoder st.cache now data
      obtain ⟨hself, hothers⟩ := Driven.accounted hdriven haccounted hphase (hkeeps run hrun)
      constructor
      · intro other hmem
        rcases List.mem_or_eq_of_mem_set hmem with hmem | rfl
        · exact (hothers other (hlater other hmem)).1
        · exact hself
      · have hdrivenApart {k : Nat} {other : ResponderRun} (hne : k ≠ index) (hother : st.runs[k]? = some other) :
            Apart listener other (run.drive c decoder st.cache now data).2 :=
          (hothers other (hlater other (List.mem_of_getElem? hother))).2
            (h.apart k index other run hne hother hrun)
        intro i j a b hne ha hb
        rw [List.getElem?_set] at ha hb
        split at ha
        next hi =>
          subst hi
          rw [if_pos (List.getElem?_eq_some_iff.mp hrun).1] at ha
          rw [if_neg hne] at hb
          cases ha
          exact (hdrivenApart hne.symm hb).symm
        next hi =>
          split at hb
          next hj =>
            subst hj
            rw [if_pos (List.getElem?_eq_some_iff.mp hrun).1] at hb
            cases hb
            exact hdrivenApart hne ha
          · exact h.apart i j a b hne ha hb

/-- The second of two acceptances would come before the entry of the first expires. -/
theorem Sound.acceptedOnce {st : Handshakes} (h : Sound c listener st) : st.AcceptedOnce := by
  intro i j a b hne ha hb hrequest haccepted hbaccepted
  obtain ⟨t', ht'⟩ := Option.isSome_iff_exists.mp haccepted.2
  obtain ⟨u', hu'⟩ := Option.isSome_iff_exists.mp hbaccepted.2
  obtain ⟨t, ht, htle, options, hreads, htlate, htlong⟩ :=
    (h.accounted a (List.mem_of_getElem? ha)).classified t' ht'
  obtain ⟨u, hu, hule, options', hreads', hulate, hulong⟩ :=
    (h.accounted b (List.mem_of_getElem? hb)).classified u' hu'
  cases hreads.unique hreads' hrequest
  rcases h.apart i j a b hne ha hb hrequest t ht u hu with hapart | hapart
  · omega
  · omega

instance (st : Handshakes) : (first : Move) → Decidable (st.Considered first)
  | .accept .. => inferInstanceAs (Decidable True)
  | .drive .. => inferInstanceAs (Decidable (_ ≤ _))

instance (listener : Listener) (st : Handshakes) : (first : Move) → Decidable (st.Keeps listener first)
  | .accept .. => inferInstanceAs (Decidable True)
  | .drive .. => inferInstanceAs (Decidable (∀ run ∈ (_ : Option ResponderRun), _))

def sampleListener (skew : ClockSkewPolicy) : Listener where
  localStatic := .replicate 32 5
  localRouterHash := .replicate 32 6
  obfuscationIv := .replicate 16 7
  networkId := 2
  skew := skew

def sampleRequest : List UInt8 :=
  let listenerStatic := Ntcp2Crypto.plain.publicKey (.replicate 32 5)
  match InitiatorState.writeRequest .plain
    ⟨.replicate 32 1, .replicate 32 2, listenerStatic, some (.replicate 32 6), 2, .defaultCompatibility⟩
    ⟨.replicate 32 6, .replicate 16 7⟩ (.new .plain .initiator listenerStatic) [1] 1060 [] [] with
  | .ok (_, [.write bytes, _]) => bytes
  | _ => []

/-- The request is read, checked and classified at second 1000 by one handshake and at second 1120 by another. -/
def sampleMoves : List Move :=
  [.accept (.replicate 32 3) none, .drive 0 1000 sampleRequest, .drive 0 1000 [], .drive 0 1000 [],
    .accept (.replicate 32 4) none, .drive 1 1120 sampleRequest, .drive 1 1120 [], .drive 1 1120 []]

/-- A SessionRequest is accepted once by all handshakes over one cache, as long as each entry outlives the timestamp
it guards. -/
theorem acceptedOnce_of_keeps (c : Ntcp2Crypto) (decoder : RouterInfoDecoder) (listener : Listener) {maximum : Nat}
    (hmaximum : 0 < maximum) (moves : List Move)
    (hconsidered : Along (move c decoder listener) Considered (empty maximum hmaximum) moves)
    (hkeeps : Along (move c decoder listener) (Keeps listener) (empty maximum hmaximum) moves) :
    AcceptedOnce (moves.foldl (move c decoder listener) (empty maximum hmaximum)) := by
  have hsound : Sound c listener (moves.foldl (move c decoder listener) (empty maximum hmaximum)) := by
    refine (hconsidered.and hkeeps).invariant (fun st first h hmove => h.move hmove.1 hmove.2) ⟨?_, ?_⟩
    · exact fun run hmem => by cases hmem
    · exact fun i j a b _ ha => by cases ha
  exact hsound.acceptedOnce

/-- With one more second of retention the second handshake is refused. -/
theorem acceptedOnce_of_keeps_sample : let listener := sampleListener ⟨60, 121, by decide, by decide, by decide⟩
    let step := move .plain (fun _ _ => .error false) listener
    (Along step Considered (empty 8 (by decide)) sampleMoves ∧
      Along step (Keeps listener) (empty 8 (by decide)) sampleMoves) ∧
      AcceptedOnce (sampleMoves.foldl step (empty 8 (by decide))) := by
  intro listener step
  have hmoves : Along step Considered (empty 8 (by decide)) sampleMoves ∧
      Along step (Keeps listener) (empty 8 (by decide)) sampleMoves := by decide +kernel
  exact ⟨hmoves, acceptedOnce_of_keeps .plain _ listener _ sampleMoves hmoves.1 hmoves.2⟩

/-- Under the default policy the entry is dropped at the second at which the timestamp is acceptable for the last
time. -/
theorem accepted_twice : let step := move .plain (fun _ _ => .error false) (sampleListener .defaultCompatibility)
    Along step Considered (empty 8 (by decide)) sampleMoves ∧
      ¬ AcceptedOnce (sampleMoves.foldl step (empty 8 (by decide))) := by
  intro step
  constructor
  · decide +kernel
  · intro h
    have hboth : ¬ ∀ a ∈ (sampleMoves.foldl step (empty 8 (by decide))).runs[0]?,
        ∀ b ∈ (sampleMoves.foldl step (empty 8 (by decide))).runs[1]?, a.request = b.request →
          a.checkedAt.isSome ∧ a.classifiedAt.isSome → ¬ (b.checkedAt.isSome ∧ b.classifiedAt.isSome) := by
      decide +kernel
    exact hboth fun a ha b hb => h 0 1 a b (by decide) ha hb

end Handshakes

end Acceptance

end I2pr.Ntcp2

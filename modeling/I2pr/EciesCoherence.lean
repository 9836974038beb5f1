import I2pr.EciesExchange

namespace I2pr.Ecies

open EciesSessionManager Std List ExtTreeMap

/-- A handshake of one side that still waits for its reply. -/
structure Handshake where
  slot : Nat
  sender : BoundNewSessionSender

structure NewsUnderway extends Handshake where
  message : BoundNewSessionMessage
  payload : List UInt8
  responder : NewSessionResponder

structure ReplyUnderway extends Handshake where
  message : NewSessionReplyMessage
  payload : List UInt8
  tagSets : PairedTagSets

/-- What one side has underway, oldest first: New Sessions, then a reply, then messages of the paired session.
The handshake in `held` was delivered, and the other side has not answered it. -/
structure Outgoing where
  news : List NewsUnderway
  held : Option Handshake
  reply : Option ReplyUnderway
  existing : List Letter

def NewsUnderway.letter (n : NewsUnderway) : Letter := ⟨.newSession n.message, n.payload⟩

def ReplyUnderway.letter (r : ReplyUnderway) : Letter := ⟨.newSessionReply r.message, r.payload⟩

def Outgoing.letters (out : Outgoing) : List Letter :=
  out.news.map (·.letter) ++ (out.reply.toList.map (·.letter) ++ out.existing)

/-- The handshakes of a side that wait: one whose reply is underway, one that was delivered, and those underway. -/
def handshakes (news : List NewsUnderway) (held : Option Handshake) (reply : Option ReplyUnderway) : List Handshake :=
  reply.toList.map (·.toHandshake) ++ (held.toList ++ news.map (·.toHandshake))

section Invariant

variable (c : EciesCrypto) (sP sQ : Key)

structure NewsUnderway.Sealed (n : NewsUnderway) : Prop where
  opens : openBoundNewSession c sQ (c.x25519Public sQ) n.message = .ok ⟨n.payload, n.responder⟩
  fits : Matches c sP sQ n.sender n.responder
  static : n.message.encryptedStaticSection.length = 48
  body : n.message.encryptedPayloadSection.length = n.payload.length + 16
  long : 16 ≤ n.payload.length
  short : n.payload.length + 96 ≤ maxEnvelopeBytes

structure ReplyUnderway.Sealed (r : ReplyUnderway) : Prop where
  opens : openNewSessionReply c r.sender sP r.message = .ok (r.payload, ⟨r.tagSets.inbound, r.tagSets.outbound⟩)
  tag : r.message.tag = (r.sender.replyTagSet c).tagAt c 0
  remote : r.sender.bobStaticPublic = c.x25519Public sQ
  mac : r.message.keySectionMac.length = 16
  body : r.message.encryptedPayloadSection.length = r.payload.length + 16
  short : r.payload.length + 96 ≤ maxEnvelopeBytes

variable (mP mQ : EciesSessionManager)

/-- The handshakes of one side, each in a slot of its own, and what the other side holds of them. -/
structure Table (news : List NewsUnderway) (held : Option Handshake) (reply : Option ReplyUnderway)
    (used : List Key) : Prop where
  pending : ∀ h ∈ handshakes news held reply, mP.Pending c h.slot h.sender
  slots : ((handshakes news held reply).map (·.slot)).Nodup
  newsSealed : ∀ n ∈ news, n.Sealed c sP sQ
  newsFresh : ∀ n ∈ news, n.message.representative ∈ used ∧ n.message.representative ∉ mQ.seenNewSessionEphemerals
  newsApart : (news.map (·.message.representative)).Nodup
  provisional : ∀ provisional, mQ.provisionalResponders[c.x25519Public sP]? = some provisional →
    ∃ h, held = some h ∧ Matches c sP sQ h.sender provisional.responder
  replySealed : ∀ r ∈ reply, r.Sealed c sP sQ
  seen : ∀ representative ∈ mQ.seenNewSessionEphemerals, representative ∈ used

/-- The messages of the paired session underway from one side continue those the other side has opened. While the
reply that pairs the other side is underway, none was. -/
structure Stream (reply : Option ReplyUnderway) (existing : List Letter) (root : EciesTagSet) (first : Nat)
    (session : PairedSession) : Prop where
  fresh : root.Fresh
  distinct : root.TagsDistinct c
  sending : Sending c root session.outbound (first + existing.length)
  letters : ∀ i letter, existing[i]? = some letter →
    letter.message = .existing (sealedMessage c root (first + i) letter.payload) ∧ first + i < maxTagSetIndex - 1 ∧
      letter.payload.length + 96 ≤ maxEnvelopeBytes
  received : reply = none → ∃ session, mQ.Receiving c root (c.x25519Public sP) (Finset.range first) session
  replied : ∀ r ∈ reply, first = 0 ∧ r.tagSets.outbound = root ∧ r.tagSets.inbound.Fresh ∧
    r.tagSets.inbound.TagsDistinct c ∧ mP.Receiving c r.tagSets.inbound (c.x25519Public sQ) ∅ session

/-- One side with the other. A side that is paired and has no reply underway has no reply coming either. -/
structure Half (oP oQ : Outgoing) (used : List Key) : Prop where
  table : Table c sP sQ mP mQ oP.news oP.held oQ.reply used
  silent : mP.sessions[c.x25519Public sQ]? = none → oP.reply = none ∧ oP.existing = []
  spoken : ∀ session, mP.sessions[c.x25519Public sQ]? = some session →
    ∃ root first, Stream c sP sQ mP mQ oP.reply oP.existing root first session
  settled : ∀ session, mP.sessions[c.x25519Public sQ]? = some session → oP.reply = none → oQ.reply = none
  peer : ∀ key session, mP.sessions[key]? = some session → key = c.x25519Public sQ

end Invariant

variable {c : EciesCrypto} {sP sQ : Key} {mP mQ mP' mQ' : EciesSessionManager} {oP oQ : Outgoing} {used : List Key}

section Frames

variable {news : List NewsUnderway} {held : Option Handshake} {reply : Option ReplyUnderway} {existing : List Letter}
  {root : EciesTagSet} {first : Nat} {session : PairedSession}

theorem Table.congr (h : Table c sP sQ mP mQ news held reply used)
    (hpending : ∀ slot sender, mP.Pending c slot sender → mP'.Pending c slot sender)
    (hseen : mQ'.seenNewSessionEphemerals = mQ.seenNewSessionEphemerals)
    (hprovisional : ∀ provisional, mQ'.provisionalResponders[c.x25519Public sP]? = some provisional →
      mQ.provisionalResponders[c.x25519Public sP]? = some provisional) :
    Table c sP sQ mP' mQ' news held reply used :=
  { h with
    pending := fun h' hmem => hpending _ _ (h.pending h' hmem)
    newsFresh := hseen ▸ h.newsFresh
    provisional := fun p hp => h.provisional p (hprovisional p hp)
    seen := hseen ▸ h.seen }

theorem Receiving_congr {opened : Finset Nat} {remote : Key} (h : mP.Receiving c root remote opened session)
    (hsessions : mP'.sessions = mP.sessions) : mP'.Receiving c root remote opened session :=
  ⟨hsessions ▸ h.paired, h.tracks, h.full, h.lookAhead, h.base, h.derived, hsessions ▸ h.apart⟩

theorem Receiving_insert {opened : Finset Nat} {remote : Key} (h : mP.Receiving c root remote opened session)
    {outbound : EciesTagSet} {lastUsedSeconds : Nat}
    (hsessions : mP'.sessions = mP.sessions.insert remote ⟨outbound, session.inbound, lastUsedSeconds⟩) :
    mP'.Receiving c root remote opened ⟨outbound, session.inbound, lastUsedSeconds⟩ := by
  refine ⟨by simp [hsessions], h.tracks, h.full, h.lookAhead, h.base, h.derived, ?_⟩
  intro other t ht hne
  rw [hsessions, TreeMap.getElem?_insert_of_ne (Ne.symm hne)] at ht
  exact h.apart other t ht hne

theorem Stream.congr (h : Stream c sP sQ mP mQ reply existing root first session)
    (hP : mP'.sessions = mP.sessions) (hQ : mQ'.sessions = mQ.sessions) :
    Stream c sP sQ mP' mQ' reply existing root first session :=
  { h with
    received := fun hnone => (h.received hnone).imp fun _ hreceiving => Receiving_congr hreceiving hQ
    replied := fun r hr => by
      obtain ⟨hfirst, hroot, hfresh, hdistinct, hreceiving⟩ := h.replied r hr
      exact ⟨hfirst, hroot, hfresh, hdistinct, Receiving_congr hreceiving hP⟩ }

structure Coherent (c : EciesCrypto) (sP sQ : Key) (mP mQ : EciesSessionManager) (oP oQ : Outgoing)
    (used : List Key) : Prop where
  near : Half c sP sQ mP mQ oP oQ used
  far : Half c sQ sP mQ mP oQ oP used

theorem Half.of_table (h : Half c sP sQ mP mQ oP oQ used) {oP' oQ' : Outgoing} {used' : List Key}
    (htable : Table c sP sQ mP' mQ' oP'.news oP'.held oQ'.reply used') (hP : mP'.sessions = mP.sessions)
    (hQ : mQ'.sessions = mQ.sessions) (hreply : oP'.reply = oP.reply) (hexisting : oP'.existing = oP.existing)
    (hanswer : oQ'.reply = oQ.reply) : Half c sP sQ mP' mQ' oP' oQ' used' := by
  refine ⟨htable, ?_, ?_, ?_, ?_⟩
  · rw [hP, hreply, hexisting]
    exact h.silent
  · rw [hP, hreply, hexisting]
    intro session hsession
    obtain ⟨root, first, hstream⟩ := h.spoken session hsession
    exact ⟨root, first, hstream.congr hP hQ⟩
  · rw [hP, hreply, hanswer]
    exact h.settled
  · rw [hP]
    exact h.peer

/-- What is sealed and dropped again leaves nothing behind but the place of the responder. -/
theorem Table.dropHeld (h : Table c sP sQ mP mQ news held reply used)
    (hseen : mQ'.seenNewSessionEphemerals = mQ.seenNewSessionEphemerals)
    (hprovisional : mQ'.provisionalResponders[c.x25519Public sP]? = none) :
    Table c sP sQ mP mQ' news none reply used := by
  have hsub : (handshakes news none reply).Sublist (handshakes news held reply) :=
    (List.Sublist.refl _).append (sublist_append_right ..)
  exact { h with
    pending := fun h' hmem => h.pending h' (hsub.subset hmem)
    slots := h.slots.sublist (hsub.map _)
    newsFresh := hseen ▸ h.newsFresh
    provisional := fun p hp => by
      rw [hprovisional] at hp
      cases hp
    seen := hseen ▸ h.seen }

theorem Coherent.dropped (h : Coherent c sP sQ mP mQ oP oQ used) :
    Coherent c sP sQ { mP with provisionalResponders := mP.provisionalResponders.erase (c.x25519Public sQ) } mQ oP
      { oQ with held := none } used := by
  refine ⟨h.near.of_table (h.near.table.congr (fun _ _ hpending => hpending.congr rfl rfl) rfl fun _ hp => hp)
    rfl rfl rfl rfl rfl, h.far.of_table (h.far.table.dropHeld rfl ?_) rfl rfl rfl rfl rfl⟩
  simp

theorem Table.mono (h : Table c sP sQ mP mQ news held reply used) {used' : List Key} (hused : used ⊆ used') :
    Table c sP sQ mP mQ news held reply used' :=
  { h with
    newsFresh := fun n hn => ⟨hused (h.newsFresh n hn).1, (h.newsFresh n hn).2⟩
    seen := fun representative hseen => hused (h.seen representative hseen) }

theorem handshakes_append (news : List NewsUnderway) (n : NewsUnderway) (held : Option Handshake)
    (reply : Option ReplyUnderway) : handshakes (news ++ [n]) held reply = handshakes news held reply ++ [n.toHandshake] := by
  simp [handshakes]

theorem Table.sendNews (h : Table c sP sQ mP mQ news held reply used) {n : NewsUnderway} (hslot : n.slot = mP.freeSlot)
    (hnew : mP'.Pending c n.slot n.sender) (hsealed : n.Sealed c sP sQ) (hfresh : n.message.representative ∉ used)
    (hpending : ∀ slot sender, mP.Pending c slot sender → mP'.Pending c slot sender) :
    Table c sP sQ mP' mQ (news ++ [n]) held reply (n.message.representative :: used) where
  pending h' hmem := by
    rw [handshakes_append, mem_append, mem_singleton] at hmem
    rcases hmem with hmem | rfl
    · exact hpending _ _ (h.pending h' hmem)
    · exact hnew
  slots := by
    rw [handshakes_append, map_append, map_singleton, ← concat_eq_append]
    refine h.slots.concat fun hmem => ?_
    obtain ⟨h', hmem', heq⟩ := mem_map.mp hmem
    exact (h.pending h' hmem').ne_freeSlot (heq.trans hslot)
  newsSealed := forall_mem_append.mpr ⟨h.newsSealed, forall_mem_singleton.mpr hsealed⟩
  newsFresh n' hn' := by
    rcases mem_append.mp hn' with hn' | hn'
    · exact ⟨mem_cons_of_mem _ (h.newsFresh n' hn').1, (h.newsFresh n' hn').2⟩
    · cases mem_singleton.mp hn'
      exact ⟨mem_cons_self, fun hseen => hfresh (h.seen _ hseen)⟩
  newsApart := by
    rw [map_append, map_singleton, ← concat_eq_append]
    refine h.newsApart.concat fun hmem => ?_
    obtain ⟨n', hn', heq⟩ := mem_map.mp hmem
    exact hfresh (heq ▸ (h.newsFresh n' hn').1)
  provisional := h.provisional
  replySealed := h.replySealed
  seen representative hseen := mem_cons_of_mem _ (h.seen representative hseen)

end Frames

variable {remote : Key} {nowSeconds : Nat}

theorem Coherent.newSession (h : Coherent c sP sQ mP mQ oP oQ used) (hsecret : allZero sQ = false)
    {ephemeral : EciesEphemeralKeypair c} {message : BoundNewSessionMessage} {sender : BoundNewSessionSender}
    {payload : List UInt8} (hlong : 16 ≤ payload.length)
    (hshort : payload.length + 96 ≤ maxEnvelopeBytes) (hfresh : ephemeral.representative ∉ used)
    (hseal : sealBoundNewSession c sP ephemeral (c.x25519Public sQ) payload = .ok (message, sender))
    (hinstall : mP.installPending c sender nowSeconds = (mP', .ok ())) :
    ∃ n : NewsUnderway, n.letter = ⟨.newSession message, payload⟩ ∧
      Coherent c sP sQ mP' mQ { oP with news := oP.news ++ [n] } oQ (message.representative :: used) := by
  obtain ⟨responder, hopens, hfits, hrepresentative, hstatic, hbody⟩ := openBoundNewSession_sealed hsecret hseal
  obtain ⟨hnew, hpending, hsessions, hprovisional, hseen, -⟩ := installPending_pending hinstall
  let n : NewsUnderway := ⟨⟨mP.freeSlot, sender⟩, message, payload, responder⟩
  have hsealed : n.Sealed c sP sQ := ⟨hopens, hfits, hstatic, hbody, hlong, hshort⟩
  rw [← hrepresentative] at hfresh
  refine ⟨n, rfl, h.near.of_table (h.near.table.sendNews rfl hnew hsealed hfresh hpending) hsessions rfl rfl rfl rfl,
    h.far.of_table ((h.far.table.congr (fun _ _ hp => hp) hseen (hprovisional ▸ fun _ hp => hp)).mono ?_) rfl hsessions
      rfl rfl rfl⟩
  exact subset_cons_self ..

/-- The tags of each direction of a split are distinct: the tag ratchet does not come back to a tag. -/
def TagsNeverRepeat (c : EciesCrypto) : Prop :=
  ∀ key, (splitDirections c key).1.TagsDistinct c ∧ (splitDirections c key).2.TagsDistinct c

section Insert

variable (hpeer : ∀ key session, mP.sessions[key]? = some session → key = remote) {session : PairedSession}
  (hsessions : mP'.sessions = mP.sessions.insert remote session)
include hpeer hsessions

theorem receiving_inserted {root : EciesTagSet} (hfresh : root.Fresh) (hdistinct : root.TagsDistinct c)
    (hinbound : InboundTagWindow.new c root mP.config.maxTagLookAhead = .ok session.inbound) :
    mP'.Receiving c root remote ∅ session := by
  have hpaired : mP'.sessions[remote]? = some session := by simp [hsessions]
  have hjust : mP'.JustPaired c root remote mP.config.maxTagLookAhead := by
    refine ⟨hfresh, hdistinct, mP.config.lookAhead_ok, ⟨session, hpaired, hinbound⟩, fun other t ht hne => ?_⟩
    rw [hsessions, TreeMap.getElem?_insert_of_ne (Ne.symm hne)] at ht
    exact absurd (hpeer other t ht) hne
  obtain ⟨session', hreceiving, -⟩ := hjust.receiving
  cases hpaired.symm.trans hreceiving.paired
  exact hreceiving

theorem peer_insert (key : Key) (session' : PairedSession) (h : mP'.sessions[key]? = some session') : key = remote := by
  by_contra hne
  rw [hsessions, TreeMap.getElem?_insert_of_ne (Ne.symm hne)] at h
  exact hne (hpeer key session' h)

end Insert

/-- The other side cannot be in the middle of a stream to a manager that is not paired. -/
theorem Half.answering (h : Half c sQ sP mQ mP oQ oP used) (hsession : mP.sessions[c.x25519Public sQ]? = none)
    {session : PairedSession} (hspeaks : mQ.sessions[c.x25519Public sP]? = some session) : oQ.reply ≠ none := by
  intro hnone
  obtain ⟨root, first, hstream⟩ := h.spoken session hspeaks
  obtain ⟨session', hreceiving⟩ := hstream.received hnone
  cases hsession.symm.trans hreceiving.paired

section

variable (h : Coherent c sP sQ mP mQ oP oQ used)
include h

theorem Coherent.reply (hideal : TagsNeverRepeat c)
    (hsecret : allZero sQ = false) {σ : Type} {rng : CryptoRng σ} {s s' : σ} {payload : List UInt8}
    (hshort : payload.length + 96 ≤ maxEnvelopeBytes) {provisional : ProvisionalResponder}
    {message : NewSessionReplyMessage} {tagSets : PairedTagSets} {inbound : InboundTagWindow}
    (hsession : mP.sessions[c.x25519Public sQ]? = none)
    (hprovisional : mP.provisionalResponders[c.x25519Public sQ]? = some provisional)
    (hseal : sealNewSessionReply c rng provisional.responder sP payload s = .ok (message, tagSets, s'))
    (hinbound : InboundTagWindow.new c tagSets.inbound mP.config.maxTagLookAhead = .ok inbound) :
    ∃ r : ReplyUnderway, r.letter = ⟨.newSessionReply message, payload⟩ ∧ oP.existing = [] ∧ oP.reply = none ∧
      Coherent c sP sQ { mP with
        provisionalResponders := mP.provisionalResponders.erase (c.x25519Public sQ)
        sessions := mP.sessions.insert (c.x25519Public sQ) ⟨tagSets.outbound, inbound, nowSeconds⟩ } mQ
        { oP with reply := some r } { oQ with held := none } used := by
  obtain ⟨hs, hheld, hmatches⟩ := h.far.table.provisional provisional hprovisional
  obtain ⟨hopens, htag, ⟨key, hin, hout⟩, hmac, hbody⟩ := openNewSessionReply_sealed hmatches hsecret hseal
  obtain ⟨hreply, hexisting⟩ := h.near.silent hsession
  have hfreshIn : tagSets.inbound.Fresh := hin ▸ ⟨rfl, rfl, rfl⟩
  have hfreshOut : tagSets.outbound.Fresh := hout ▸ ⟨rfl, rfl, rfl⟩
  have hdistinctIn : tagSets.inbound.TagsDistinct c := hin ▸ (hideal key).1
  let r : ReplyUnderway := ⟨hs, message, payload, tagSets⟩
  have hsealed : r.Sealed c sQ sP := ⟨hopens, htag, hmatches.bobStaticPublic, hmac, hbody, hshort⟩
  refine ⟨r, rfl, hexisting, hreply, ⟨h.near.table.congr (fun _ _ hp => hp.congr rfl rfl) rfl fun _ hp => hp, ?_, ?_,
    fun _ _ hnone => (by cases hnone), peer_insert h.near.peer rfl⟩,
    ⟨?_, h.far.silent, ?_, ?_, h.far.peer⟩⟩
  · simp
  · intro session hpaired
    simp only [getElem?_insert_self, Option.some.injEq] at hpaired
    subst hpaired
    refine ⟨tagSets.outbound, 0, hfreshOut, hout ▸ (hideal key).2, ?_, ?_, fun hnone => (by cases hnone), ?_⟩
    · rw [hexisting]
      exact Sending.fresh hfreshOut
    · simp [hexisting]
    · rintro _ ⟨⟩
      exact ⟨rfl, rfl, hfreshIn, hdistinctIn, receiving_inserted h.near.peer rfl hfreshIn hdistinctIn hinbound⟩
  · -- the handshake moves from the held ones to the one answered
    have htable := h.far.table
    rw [hheld, hreply] at htable
    exact { htable with
      provisional := fun p hp => by simp at hp
      replySealed := by
        rintro _ ⟨⟩
        exact hsealed }
  · intro session hspeaks
    obtain ⟨root, first, hstream⟩ := h.far.spoken session hspeaks
    exact ⟨root, first, { hstream with received := fun hnone => absurd hnone (h.far.answering hsession hspeaks) }⟩
  · intro session hspeaks hnone
    exact absurd hnone (h.far.answering hsession hspeaks)

theorem Coherent.speak {session : PairedSession}
    (hsession : mP.sessions[c.x25519Public sQ]? = some session) {outbound : EciesTagSet} (letters : List Letter)
    (hseal : ∀ root first, Stream c sP sQ mP mQ oP.reply oP.existing root first session →
      Sending c root outbound (first + (oP.existing ++ letters).length) ∧ ∀ i letter, letters[i]? = some letter →
        letter.message = .existing (sealedMessage c root (first + (oP.existing.length + i)) letter.payload) ∧
          first + (oP.existing.length + i) < maxTagSetIndex - 1 ∧ letter.payload.length + 96 ≤ maxEnvelopeBytes) :
    Coherent c sP sQ
      { mP with sessions := mP.sessions.insert (c.x25519Public sQ) ⟨outbound, session.inbound, nowSeconds⟩ } mQ
      { oP with existing := oP.existing ++ letters } oQ used := by
  refine ⟨⟨h.near.table.congr (fun _ _ hp => hp.congr rfl rfl) rfl fun _ hp => hp, ?_, ?_, ?_,
    peer_insert h.near.peer rfl⟩,
    ⟨h.far.table.congr (fun _ _ hp => hp) rfl fun _ hp => hp, h.far.silent, ?_, h.far.settled, h.far.peer⟩⟩
  · simp
  · intro session' hpaired
    simp only [getElem?_insert_self, Option.some.injEq] at hpaired
    subst hpaired
    obtain ⟨root, first, hstream⟩ := h.near.spoken session hsession
    obtain ⟨hsending, hletters⟩ := hseal root first hstream
    refine ⟨root, first, { hstream with sending := hsending, letters := ?_, replied := ?_ }⟩
    · intro i letter hget
      rcases Nat.lt_or_ge i oP.existing.length with hlt | hge
      · rw [getElem?_append_left hlt] at hget
        exact hstream.letters i letter hget
      · rw [getElem?_append_right hge] at hget
        have := hletters _ letter hget
        rwa [Nat.add_sub_cancel' hge] at this
    · intro r hr
      obtain ⟨hfirst, hroot, hfresh, hdistinct, hreceiving⟩ := hstream.replied r hr
      exact ⟨hfirst, hroot, hfresh, hdistinct, Receiving_insert hreceiving rfl⟩
  · intro session' _ hnone
    exact h.near.settled session hsession hnone
  · intro session' hspeaks
    obtain ⟨root, first, hstream⟩ := h.far.spoken session' hspeaks
    refine ⟨root, first, { hstream with received := fun hnone => ?_ }⟩
    obtain ⟨session'', hreceiving⟩ := hstream.received hnone
    cases hsession.symm.trans hreceiving.paired
    exact ⟨_, Receiving_insert hreceiving rfl⟩

theorem Coherent.deliverNews {n : NewsUnderway} {rest : List NewsUnderway}
    (hnews : oQ.news = n :: rest) (nowSeconds : Nat) :
    Coherent c sP sQ { mP.rememberNewSessionEphemeral n.message.representative with
        provisionalResponders := mP.provisionalResponders.insert (c.x25519Public sQ) ⟨n.responder, nowSeconds⟩ } mQ oP
      { oQ with news := rest, held := some n.toHandshake } used := by
  refine ⟨h.near.of_table (h.near.table.congr (fun _ _ hp => hp.congr rfl rfl) rfl fun _ hp => hp) rfl rfl rfl rfl rfl,
    h.far.of_table ?_ rfl rfl rfl rfl rfl⟩
  have htable := h.far.table
  rw [hnews] at htable
  have hsub : (handshakes rest (some n.toHandshake) oP.reply).Sublist (handshakes (n :: rest) oQ.held oP.reply) :=
    (List.Sublist.refl _).append (sublist_append_right ..)
  have hseen (representative : Key) :
      representative ∈ (mP.rememberNewSessionEphemeral n.message.representative).seenNewSessionEphemerals →
        representative ∈ mP.seenNewSessionEphemerals ∨ representative = n.message.representative := by
    intro hmem
    simp only [rememberNewSessionEphemeral, mem_append, mem_singleton] at hmem
    refine hmem.imp_left fun hold => ?_
    split at hold
    · exact mem_of_mem_drop hold
    · exact hold
  have hapart := htable.newsApart
  rw [map_cons, nodup_cons] at hapart
  exact {
    pending := fun h' hmem => htable.pending h' (hsub.subset hmem)
    slots := htable.slots.sublist (hsub.map _)
    newsSealed := fun n' hn' => htable.newsSealed n' (mem_cons_of_mem _ hn')
    newsFresh := fun n' hn' => by
      obtain ⟨hused, hold⟩ := htable.newsFresh n' (mem_cons_of_mem _ hn')
      refine ⟨hused, fun hmem => ?_⟩
      rcases hseen _ hmem with hmem | heq
      · exact hold hmem
      · exact hapart.1 (heq ▸ mem_map_of_mem hn')
    newsApart := hapart.2
    provisional := fun p hp => by
      simp only [getElem?_insert_self, Option.some.injEq] at hp
      subst hp
      exact ⟨n.toHandshake, rfl, (htable.newsSealed n mem_cons_self).fits⟩
    replySealed := htable.replySealed
    seen := fun representative hmem => by
      rcases hseen _ hmem with hmem | rfl
      · exact htable.seen _ hmem
      · exact (htable.newsFresh n mem_cons_self).1 }

theorem Coherent.deliverReply {r : ReplyUnderway} (hr : oQ.reply = some r)
    (hsession : mP.sessions[c.x25519Public sQ]? = none) (nowSeconds : Nat) : ∃ inbound,
      InboundTagWindow.new c r.tagSets.outbound mP.config.maxTagLookAhead = .ok inbound ∧
      Coherent c sP sQ (mP.paired r.slot (c.x25519Public sQ) ⟨r.tagSets.inbound, inbound, nowSeconds⟩) mQ oP
        { oQ with reply := none } used := by
  obtain ⟨hnone, hexisting⟩ := h.near.silent hsession
  obtain ⟨session, hspeaks⟩ : ∃ session, mQ.sessions[c.x25519Public sP]? = some session := by
    refine Option.ne_none_iff_exists'.mp fun hs => ?_
    cases hr.symm.trans (h.far.silent hs).1
  obtain ⟨root, first, hstream⟩ := h.far.spoken session hspeaks
  obtain ⟨rfl, rfl, hfreshIn, hdistinctIn, hreceiving⟩ := hstream.replied r hr
  obtain ⟨inbound, hinbound, -⟩ := InboundTagWindow.Tracks.new hstream.fresh hstream.distinct mP.config.lookAhead_le
  refine ⟨inbound, hinbound, ⟨?_, ?_, ?_, fun _ _ _ => rfl, peer_insert h.near.peer rfl⟩,
    ⟨h.far.table.congr (fun _ _ hp => hp) rfl fun _ hp => hp, fun hs => ⟨rfl, (h.far.silent hs).2⟩, ?_, ?_, h.far.peer⟩⟩
  · have htable := h.near.table
    rw [hr] at htable
    have hslots := htable.slots
    simp only [handshakes, Option.toList_some, map_cons, map_nil, singleton_append,
      nodup_cons] at hslots
    exact { htable with
      pending := fun h' hmem => by
        refine (htable.pending h' (mem_cons_of_mem _ hmem)).paired (fun heq => hslots.1 ?_) _ _
        exact heq ▸ mem_map_of_mem hmem
      slots := hslots.2
      replySealed := fun r hr => by cases hr }
  · simp [EciesSessionManager.paired]
  · intro session' hpaired
    simp only [EciesSessionManager.paired, getElem?_insert_self, Option.some.injEq] at hpaired
    subst hpaired
    refine ⟨r.tagSets.inbound, 0, hfreshIn, hdistinctIn, ?_, ?_, fun _ => ⟨session, hreceiving⟩, ?_⟩
    · rw [hexisting]
      exact Sending.fresh hfreshIn
    · simp [hexisting]
    · rw [hnone]
      intro r hr
      cases hr
  · intro session' hspeaks'
    cases hspeaks.symm.trans hspeaks'
    let paired : PairedSession := ⟨r.tagSets.inbound, inbound, nowSeconds⟩
    have hreceiving' : (mP.paired r.slot (c.x25519Public sQ) paired).Receiving c r.tagSets.outbound
        (c.x25519Public sQ) ∅ paired :=
      receiving_inserted h.near.peer rfl hstream.fresh hstream.distinct hinbound
    exact ⟨r.tagSets.outbound, 0, { hstream with
      received := fun _ => ⟨paired, hreceiving'⟩
      replied := fun r hr => by cases hr }⟩
  · intro _ _ _
    exact hnone

end

theorem acceptExistingSession_ok {message : ExistingSessionMessage} {accepted : AcceptedPayload}
    (h : mP.acceptExistingSession c message = (mP', .ok accepted)) : ∃ session inbound,
      mP.sessions[accepted.remoteStaticPublic]? = some session ∧
      mP' = { mP with
        sessions := mP.sessions.insert accepted.remoteStaticPublic
          ⟨session.outbound, inbound, session.lastUsedSeconds⟩ } := by
  unfold acceptExistingSession at h
  split at h
  · cases h
  next remote session inbound index hconsume =>
    dsimp only at h
    split at h
    · cases h
    cases h
    exact ⟨session, _, mem_toList_iff_getElem?_eq_some.mp (consumeTag_eq_some hconsume).1, rfl⟩

theorem Coherent.deliverExisting (h : Coherent c sP sQ mP mQ oP oQ used) (hr : oQ.reply = none) {letter : Letter}
    {rest : List Letter} (hexisting : oQ.existing = letter :: rest) (nowSeconds : Nat)
    (hmay : mP.MayDeliver (c.x25519Public sQ) letter.message) : ∃ mP',
      mP.receive c sP letter.message.encode nowSeconds = (mP', .ok letter.payload) ∧
      Coherent c sP sQ mP' mQ oP { oQ with existing := rest } used := by
  obtain ⟨sessionQ, hspeaks⟩ : ∃ session, mQ.sessions[c.x25519Public sP]? = some session := by
    refine Option.ne_none_iff_exists'.mp fun hs => ?_
    cases hexisting.symm.trans (h.far.silent hs).2
  obtain ⟨root, first, hstream⟩ := h.far.spoken sessionQ hspeaks
  obtain ⟨session, hreceiving⟩ := hstream.received hr
  obtain ⟨hletter, hfirst, hshort⟩ := hstream.letters 0 letter (by rw [hexisting]; rfl)
  rw [Nat.add_zero] at hletter hfirst
  rw [hletter] at hmay ⊢
  obtain ⟨mP', session', hreceive, haccept, hreceiving'⟩ :=
    hreceiving.receive_existing sP nowSeconds h.near.peer hstream.distinct hfirst hshort hmay
  obtain ⟨session₀, inbound, hsession₀, rfl⟩ := acceptExistingSession_ok haccept
  cases hreceiving.paired.symm.trans hsession₀
  have hsettled : oP.reply = none := h.far.settled sessionQ hspeaks hr
  refine ⟨_, hreceive, ⟨h.near.table.congr (fun _ _ hp => hp.congr rfl rfl) rfl fun _ hp => hp, ?_, ?_,
    fun _ _ _ => hr, peer_insert h.near.peer rfl⟩,
    ⟨h.far.table.congr (fun _ _ hp => hp) rfl fun _ hp => hp, ?_, ?_, h.far.settled, h.far.peer⟩⟩
  · simp
  · intro session'' hpaired
    simp only [getElem?_insert_self, Option.some.injEq] at hpaired
    subst hpaired
    obtain ⟨root', first', hstream'⟩ := h.near.spoken session hreceiving.paired
    refine ⟨root', first', { hstream' with replied := fun r hr' => ?_ }⟩
    rw [hsettled] at hr'
    cases hr'
  · intro hs
    cases hspeaks.symm.trans hs
  · intro session'' hspeaks'
    cases hspeaks.symm.trans hspeaks'
    have hsending := hstream.sending
    rw [hexisting, length_cons, ← Nat.add_assoc, Nat.add_right_comm] at hsending
    refine ⟨root, first + 1, hstream.fresh, hstream.distinct, hsending, fun i letter' hget => ?_,
      fun _ => ⟨_, hreceiving'⟩, fun r hr' => ?_⟩
    · have := hstream.letters (i + 1) letter' (by rw [hexisting]; exact hget)
      rwa [Nat.add_comm i 1, ← Nat.add_assoc] at this
    · rw [hr] at hr'
      cases hr'

end I2pr.Ecies

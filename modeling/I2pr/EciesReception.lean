import I2pr.EciesPlain

namespace I2pr.Ecies

open EciesTagSet Std InboundTagWindow

variable {c : EciesCrypto} {root : EciesTagSet} {remote : Key} {m : EciesSessionManager} {opened : Finset Nat} {n : Nat}

namespace EciesSessionManager

theorem consumeTag_eq {tag : Tag} {session : PairedSession} {sessions : List (Key × PairedSession)}
    (hmem : (remote, session) ∈ sessions) (hone : ∀ p ∈ sessions, p.1 = remote → p.2 = session)
    (hapart : ∀ p ∈ sessions, p.1 ≠ remote → p.2.inbound.entries[tag]? = none) :
    consumeTag c tag sessions =
      (session.inbound.consume c tag).map fun found => (remote, session, found.1, found.2) := by
  induction sessions with
  | nil => simp at hmem
  | cons p rest ih =>
    obtain ⟨other, t⟩ := p
    by_cases hother : other = remote
    · subst hother
      cases hone _ List.mem_cons_self rfl
      unfold consumeTag
      cases hconsume : t.inbound.consume c tag with
      | some found => rfl
      | none =>
        simp only [Option.map_none]
        by_cases hagain : ∃ t', (other, t') ∈ rest
        · obtain ⟨t', ht'⟩ := hagain
          cases hone _ (List.mem_cons_of_mem _ ht') rfl
          rw [ih ht' (fun p hp => hone p (List.mem_cons_of_mem _ hp))
            (fun p hp => hapart p (List.mem_cons_of_mem _ hp)), hconsume]
          rfl
        · have hnone (rest : List (Key × PairedSession)) (h : ∀ p ∈ rest, p.2.inbound.entries[tag]? = none) :
              consumeTag c tag rest = none := by
            induction rest with
            | nil => rfl
            | cons p rest ih =>
              have hp : p.2.inbound.consume c tag = none := by
                rw [consume, h p List.mem_cons_self]
              rw [consumeTag, hp, ih fun q hq => h q (List.mem_cons_of_mem _ hq)]
          refine hnone rest fun p hp => hapart p (List.mem_cons_of_mem _ hp) fun hkey => hagain ⟨p.2, ?_⟩
          rw [← hkey]
          exact hp
    · have hskip : t.inbound.consume c tag = none := by
        rw [consume, hapart _ List.mem_cons_self hother]
      rw [consumeTag, hskip]
      refine ih ?_ (fun p hp => hone p (List.mem_cons_of_mem _ hp)) (fun p hp => hapart p (List.mem_cons_of_mem _ hp))
      rcases List.mem_cons.mp hmem with heq | hmem
      · exact absurd (congrArg Prod.fst heq).symm hother
      · exact hmem

variable (c) in
/-- A paired session whose inbound direction started from `root` and opened the messages in `opened`: the keys
below the last but one of them are gone. No other session has a tag of this root. -/
structure Receiving (root : EciesTagSet) (remote : Key) (opened : Finset Nat) (m : EciesSessionManager)
    (session : PairedSession) : Prop where
  paired : m.sessions[remote]? = some session
  tracks : session.inbound.Tracks c root opened
  full : session.inbound.tagSet.nextIndex = min (maxTagSetIndex - 1) (opened.card + session.inbound.capacity)
  lookAhead : 0 < session.inbound.capacity ∧ session.inbound.capacity ≤ maxTagLookAhead
  base : session.inbound.tagSet.symmKeysBase = opened.sup (· - 1)
  derived : session.inbound.tagSet.symmKeysBase + session.inbound.tagSet.symmKeys.length = opened.sup (· + 1)
  apart : ∀ other t, m.sessions[other]? = some t → other ≠ remote →
    ∀ n < maxTagSetIndex - 1, t.inbound.entries[root.tagAt c n]? = none

variable {session : PairedSession}

section

variable (h : m.Receiving c root remote opened session)
include h

theorem Receiving.consumeTag (hn : n < maxTagSetIndex - 1) :
    EciesSessionManager.consumeTag c (root.tagAt c n) m.sessions.toList =
      (session.inbound.consume c (root.tagAt c n)).map fun found => (remote, session, found.1, found.2) := by
  refine consumeTag_eq ?_ ?_ ?_
  · exact ExtTreeMap.mem_toList_iff_getElem?_eq_some.mpr h.paired
  · rintro ⟨other, t⟩ hp rfl
    have := ExtTreeMap.mem_toList_iff_getElem?_eq_some.mp hp
    exact Option.some.inj (this.symm.trans h.paired)
  · rintro ⟨other, t⟩ hp hne
    exact h.apart other t (ExtTreeMap.mem_toList_iff_getElem?_eq_some.mp hp) hne n hn

/-- The keys a session retains, and those it has to derive for a remembered tag, are few. -/
theorem Receiving.few (hn : n < session.inbound.tagSet.nextIndex) : session.inbound.tagSet.symmKeys.length ≤ 2 ∧
      n + 1 - session.inbound.tagSet.symmKeysBase ≤ maxTagLookAhead + 2 := by
  have hsup : opened.sup (· + 1) ≤ opened.sup (· - 1) + 2 := by
    refine Finset.sup_le fun j hj => ?_
    have : j - 1 ≤ opened.sup (· - 1) := Finset.le_sup (f := (· - 1)) hj
    omega
  have hcard : opened.card ≤ opened.sup (· + 1) := by
    rw [← Finset.card_range (opened.sup (· + 1))]
    refine Finset.card_le_card fun j hj => Finset.mem_range.mpr ?_
    exact Nat.lt_of_lt_of_le (Nat.lt_succ_self j) (Finset.le_sup (f := (· + 1)) hj)
  have hbase := h.base
  have hderived := h.derived
  have hfull := h.full
  have hlook := h.lookAhead
  omega

theorem Receiving.base_le_iff : session.inbound.tagSet.symmKeysBase ≤ n ↔ ∀ j ∈ opened, j ≤ n + 1 := by
  rw [h.base, Finset.sup_le_iff]
  refine forall₂_congr fun j _ => ?_
  omega

theorem Receiving.refused (hn : n < maxTagSetIndex - 1)
    (hunknown : session.inbound.contains (root.tagAt c n) = false) (payload : List UInt8) :
    m.acceptExistingSession c (sealedMessage c root n payload) = (m, .error (.error .unknownSessionTag)) := by
  have hnone : session.inbound.consume c (root.tagAt c n) = none := by
    rw [contains, ExtTreeMap.contains_eq_isSome_getElem?, Option.isSome_eq_false_iff,
      Option.isNone_iff_eq_none] at hunknown
    rw [consume, hunknown]
  have hconsume := h.consumeTag hn
  rw [hnone, Option.map_none] at hconsume
  unfold acceptExistingSession
  simp only [sealedMessage, hconsume]

theorem Receiving.contains_iff (hdistinct : root.TagsDistinct c)
    (hn : n < maxTagSetIndex - 1) : session.inbound.contains (root.tagAt c n) = true ↔
      n < session.inbound.tagSet.nextIndex ∧ n ∉ opened := by
  rw [contains, ExtTreeMap.contains_eq_isSome_getElem?, Option.isSome_iff_exists]
  constructor
  · rintro ⟨k, hk⟩
    obtain ⟨hlt, hunused, htag⟩ := (h.tracks.entries _ _).mp hk
    have hbound := h.tracks.bound
    cases hdistinct _ _ hn (by omega) htag
    exact ⟨hlt, hunused⟩
  · rintro ⟨hlt, hunused⟩
    exact ⟨n, (h.tracks.entries _ _).mpr ⟨hlt, hunused, rfl⟩⟩

/-- A message whose tag is remembered is opened if its key is still derivable, and is a panic otherwise. -/
theorem Receiving.accept (hdistinct : root.TagsDistinct c)
    (hn : n < session.inbound.tagSet.nextIndex) (hunused : n ∉ opened) (payload : List UInt8) :
    (session.inbound.tagSet.symmKeysBase ≤ n → ∃ m' session',
      m.acceptExistingSession c (sealedMessage c root n payload) = (m', .ok ⟨payload, remote⟩) ∧
      m'.Receiving c root remote (insert n opened) session' ∧
      session'.inbound.capacity = session.inbound.capacity) ∧
    (n < session.inbound.tagSet.symmKeysBase →
      (m.acceptExistingSession c (sealedMessage c root n payload)).2 = .error .panicked) := by
  have hbound := h.tracks.bound
  have hconst : maxTagSetIndex = 65535 ∧ maxTagSetRetainedKeys = 4096 ∧ maxTagLookAhead = 32 := ⟨rfl, rfl, rfl⟩
  obtain ⟨hfew, hnear⟩ := h.few hn
  obtain ⟨w, hconsume, htracks, hfull, hcap, hbase, hkeys⟩ := h.tracks.consume hdistinct h.full hn hunused
  have hfound := h.consumeTag (show n < maxTagSetIndex - 1 by omega)
  rw [hconsume] at hfound
  have hlong : ¬ (sealedMessage c root n payload).encryptedPayloadSection.length < aeadTagLen := by
    rw [sealedMessage, c.length_encrypt]
    omega
  unfold acceptExistingSession
  simp only [show (sealedMessage c root n payload).tag = root.tagAt c n from rfl, hfound, Option.map_some]
  constructor
  · intro hat
    obtain ⟨t, hopen, hrooted, hnext, hbase', hlength⟩ := openExistingSession_sealed htracks.rooted
      (show n < maxTagSetIndex by omega) (by rw [hbase]; exact hat) (by rw [hbase]; omega) (by rw [hkeys]; omega)
      payload
    simp only [hopen]
    refine ⟨_, ⟨session.outbound, ⟨t.trimKeysBelow (n - 1), w.entries, w.capacity⟩, session.lastUsedSeconds⟩, rfl,
      ⟨by simp, ⟨hrooted.trimKeysBelow _, ?_, ?_, ?_, ?_⟩, ?_, ?_, ?_, ?_, ?_⟩, hcap⟩
    · simpa only [trimKeysBelow, hnext] using htracks.bound
    · simpa only [trimKeysBelow, hnext] using htracks.used_lt
    · simpa only [trimKeysBelow, hnext] using htracks.entries
    · simpa only [trimKeysBelow, hnext] using htracks.size
    · simpa only [trimKeysBelow, hnext, hcap] using hfull
    · rw [hcap]
      exact h.lookAhead
    · have hold := h.base
      simp only [trimKeysBelow, Finset.sup_insert, ← hold, hbase', hbase, hlength, hkeys]
      change _ = max (n - 1) _
      omega
    · have hold := h.derived
      have hbase₀ := h.base
      simp only [trimKeysBelow, Finset.sup_insert, ← hold, hbase', hbase, hlength, hkeys, List.length_drop]
      change _ = max (n + 1) _
      omega
    · intro other s hs hne k hk
      rw [TreeMap.getElem?_insert_of_ne (Ne.symm hne)] at hs
      exact h.apart other s hs hne k hk
  · intro hbelow
    have hopen : openExistingSession c w.tagSet n (sealedMessage c root n payload) = (w.tagSet, .error .panicked) := by
      rw [openExistingSession, if_neg hlong, symmKey_below (by omega) (by rw [hbase]; exact hbelow)]
    simp only [hopen, Failure.ecies]

end

variable (c) in
/-- A manager that was just paired with `remote`: the inbound window is the first look-ahead over `root`, whose
tags differ from each other and from those of the other sessions. -/
structure JustPaired (root : EciesTagSet) (remote : Key) (lookAhead : Nat) (m : EciesSessionManager) : Prop where
  fresh : root.Fresh
  distinct : root.TagsDistinct c
  bounds : 0 < lookAhead ∧ lookAhead ≤ maxTagLookAhead
  paired : ∃ session, m.sessions[remote]? = some session ∧ InboundTagWindow.new c root lookAhead = .ok session.inbound
  apart : ∀ other t, m.sessions[other]? = some t → other ≠ remote →
    ∀ n < maxTagSetIndex - 1, t.inbound.entries[root.tagAt c n]? = none

variable {lookAhead : Nat}

theorem JustPaired.receiving (h : m.JustPaired c root remote lookAhead) :
    ∃ session, m.Receiving c root remote ∅ session ∧ session.inbound.capacity = lookAhead := by
  obtain ⟨session, hsession, hwindow⟩ := h.paired
  have hlook : lookAhead ≤ maxTagSetIndex - 1 := h.bounds.2.trans (by decide)
  obtain ⟨w, hnew, htracks, hnext, hcap, hbase, hkeys⟩ := InboundTagWindow.Tracks.new h.fresh h.distinct hlook
  obtain rfl : w = session.inbound := Except.ok.inj (hnew.symm.trans hwindow)
  refine ⟨session, ⟨hsession, htracks, ?_, ?_, ?_, ?_, h.apart⟩, hcap⟩
  · rw [hnext, hcap, Finset.card_empty]
    omega
  · rw [hcap]
    exact h.bounds
  · rw [hbase, Finset.sup_empty]
    rfl
  · rw [hbase, hkeys, Finset.sup_empty]
    rfl

variable (c) in
/-- The states in which some of the messages have been given to the manager, in any order and any number of
times; the list has the indices of those it opened. -/
inductive Reached (messages : List ExistingSessionMessage) (m₀ : EciesSessionManager) :
    List Nat → EciesSessionManager → Prop
  | start : Reached messages m₀ [] m₀
  | opened {past m m'} {n : Nat} {message accepted} (hreached : Reached messages m₀ past m) (hn : messages[n]? = some message)
      (haccept : m.acceptExistingSession c message = (m', .ok accepted)) : Reached messages m₀ (n :: past) m'
  | refused {past m m'} {n : Nat} {message e} (hreached : Reached messages m₀ past m) (hn : messages[n]? = some message)
      (haccept : m.acceptExistingSession c message = (m', .error (.error e))) : Reached messages m₀ past m'

theorem Reached.opened_of {messages : List ExistingSessionMessage} {m₀ : EciesSessionManager} {past : List Nat}
    (hreached : Reached c messages m₀ past m) {message : ExistingSessionMessage} {accepted : AcceptedPayload}
    (hn : messages[n]? = some message) (haccept : (m.acceptExistingSession c message).2 = .ok accepted) :
    Reached c messages m₀ (n :: past) (m.acceptExistingSession c message).1 :=
  .opened hreached hn (Prod.ext rfl haccept)

def sampleRoot : EciesTagSet :=
  (dhInitialize .plain (.replicate 32 5) (.replicate 32 6)).beginTagRatchet .plain

def sampleRemote : Key := .replicate 32 9

def sampleWindow (lookAhead : Nat) : InboundTagWindow :=
  (InboundTagWindow.refill .plain ⟨sampleRoot, ∅, lookAhead⟩).1

def sampleManager (lookAhead : Nat) : EciesSessionManager :=
  { EciesSessionManager.new ⟨1, 1, 1, 1, by decide, by decide, by decide, by decide⟩ with
    sessions := (∅ : ExtTreeMap Key PairedSession).insert sampleRemote ⟨sampleRoot, sampleWindow lookAhead, 0⟩ }

def samplePayloads (count : Nat) : List (List UInt8) :=
  (List.range count).map fun n => [UInt8.ofNat n]

def sampleMessages (count : Nat) : List ExistingSessionMessage :=
  match sealAll .plain sampleRoot (samplePayloads count) with
  | .ok messages => messages
  | .error _ => []

theorem sampleManager_justPaired (h : 0 < lookAhead ∧ lookAhead ≤ maxTagLookAhead) :
    (sampleManager lookAhead).JustPaired .plain sampleRoot sampleRemote lookAhead := by
  have hfresh : sampleRoot.Fresh := ⟨rfl, rfl, rfl⟩
  have hdistinct : sampleRoot.TagsDistinct .plain := tagsDistinct_plain (by decide +kernel)
  refine ⟨hfresh, hdistinct, h, ⟨⟨sampleRoot, sampleWindow lookAhead, 0⟩, by simp [sampleManager], ?_⟩, ?_⟩
  · obtain ⟨w, hnew, -⟩ := InboundTagWindow.Tracks.new hfresh hdistinct (h.2.trans (by decide))
    rw [hnew]
    unfold InboundTagWindow.new at hnew
    split at hnew
    next w' heq =>
      cases hnew
      rw [sampleWindow, heq]
    · cases hnew
  · intro other t ht hne
    simp only [sampleManager] at ht
    rw [TreeMap.getElem?_insert_of_ne (Ne.symm hne)] at ht
    simp at ht

def sampleAhead : EciesSessionManager :=
  ((sampleManager 3).acceptExistingSession .plain ((sampleMessages 3).getD 2 ⟨.replicate 8 0, []⟩)).1

theorem reached_sampleAhead : Reached .plain (sampleMessages 3) (sampleManager 3) [2] sampleAhead :=
  Reached.opened_of .start (n := 2) (by decide +kernel)
    (show _ = Except.ok ⟨[2], sampleRemote⟩ by decide +kernel)

section Sealed

variable {payloads : List (List UInt8)} {messages : List ExistingSessionMessage} {message : ExistingSessionMessage}
  {m₀ : EciesSessionManager} {past : List Nat}

theorem JustPaired.sealed (h : m₀.JustPaired c root remote lookAhead) (hsealed : sealAll c root payloads = .ok messages)
    (hn : messages[n]? = some message) :
    ∃ payload, payloads[n]? = some payload ∧ message = sealedMessage c root n payload ∧ n < maxTagSetIndex - 1 := by
  obtain ⟨hfits, hget⟩ := getElem?_sealAll h.fresh.rooted
    (by rw [h.fresh.symmKeysBase, h.fresh.symmKeys, h.fresh.nextIndex]; rfl) (by simp [h.fresh.symmKeys]) hsealed
  rw [hget, Option.map_eq_some_iff] at hn
  obtain ⟨payload, hpayload, rfl⟩ := hn
  refine ⟨payload, hpayload, by rw [h.fresh.nextIndex, Nat.zero_add], ?_⟩
  have hlt := (List.getElem?_eq_some_iff.mp hpayload).1
  have := hfits (by rintro rfl; simp at hpayload)
  omega

theorem Receiving.answer (h : m.Receiving c root remote opened session) (hdistinct : root.TagsDistinct c)
    (hn : n < maxTagSetIndex - 1) (payload : List UInt8) :
    (session.inbound.contains (root.tagAt c n) = false ∧
      m.acceptExistingSession c (sealedMessage c root n payload) = (m, .error (.error .unknownSessionTag))) ∨
    (session.inbound.contains (root.tagAt c n) = true ∧ session.inbound.tagSet.symmKeysBase ≤ n ∧ ∃ m' session',
      m.acceptExistingSession c (sealedMessage c root n payload) = (m', .ok ⟨payload, remote⟩) ∧
      m'.Receiving c root remote (insert n opened) session' ∧ session'.inbound.capacity = session.inbound.capacity) ∨
    (session.inbound.contains (root.tagAt c n) = true ∧ n < session.inbound.tagSet.symmKeysBase ∧
      (m.acceptExistingSession c (sealedMessage c root n payload)).2 = .error .panicked) := by
  cases hcontains : session.inbound.contains (root.tagAt c n) with
  | false => exact .inl ⟨rfl, h.refused hn hcontains payload⟩
  | true =>
    obtain ⟨hlt, hunused⟩ := (h.contains_iff hdistinct hn).mp hcontains
    obtain ⟨hopen, hpanic⟩ := h.accept hdistinct hlt hunused payload
    by_cases hbase : session.inbound.tagSet.symmKeysBase ≤ n
    · exact .inr (.inl ⟨rfl, hbase, hopen hbase⟩)
    · exact .inr (.inr ⟨rfl, by omega, hpanic (by omega)⟩)

theorem Reached.receiving (hreached : Reached c messages m₀ past m) (hpaired : m₀.JustPaired c root remote lookAhead)
    (hsealed : sealAll c root payloads = .ok messages) :
    ∃ session, m.Receiving c root remote past.toFinset session := by
  induction hreached with
  | start =>
    obtain ⟨session, hreceiving, -⟩ := hpaired.receiving
    exact ⟨session, hreceiving⟩
  | opened _ hn haccept ih =>
    obtain ⟨session, hreceiving⟩ := ih
    obtain ⟨payload, -, rfl, hlt⟩ := hpaired.sealed hsealed hn
    rcases hreceiving.answer hpaired.distinct hlt payload with ⟨-, hrefused⟩ | ⟨-, -, m', session', hok, hnext, -⟩ |
      ⟨-, -, hpanic⟩
    · cases haccept.symm.trans hrefused
    · cases haccept.symm.trans hok
      exact ⟨session', by rwa [List.toFinset_cons]⟩
    · rw [haccept] at hpanic
      cases hpanic
  | refused _ hn haccept ih =>
    obtain ⟨session, hreceiving⟩ := ih
    obtain ⟨payload, -, rfl, hlt⟩ := hpaired.sealed hsealed hn
    rcases hreceiving.answer hpaired.distinct hlt payload with ⟨-, hrefused⟩ | ⟨-, -, m', session', hok, -⟩ |
      ⟨-, -, hpanic⟩
    · cases haccept.symm.trans hrefused
      exact ⟨session, hreceiving⟩
    · cases haccept.symm.trans hok
    · rw [haccept] at hpanic
      cases hpanic

/-- A remembered message is opened exactly when it is at most one behind every message opened before it; otherwise
its key was trimmed and looking it up panics. -/
theorem acceptExistingSession_remembered_iff (hpaired : m₀.JustPaired c root remote lookAhead)
    (hsealed : sealAll c root payloads = .ok messages) (hreached : Reached c messages m₀ past m)
    (hsession : m.sessions[remote]? = some session) (hn : messages[n]? = some message) {payload : List UInt8}
    (hpayload : payloads[n]? = some payload) (htag : session.inbound.contains message.tag = true) :
    ((m.acceptExistingSession c message).2 = .ok ⟨payload, remote⟩ ↔ ∀ j ∈ past, j ≤ n + 1) ∧
      ((m.acceptExistingSession c message).2 = .error .panicked ↔ ∃ j ∈ past, n + 1 < j) ∧
      (session.inbound.tagSet.symmKeysBase ≤ n ↔ ∀ j ∈ past, j ≤ n + 1) := by
  obtain ⟨session', hreceiving⟩ := hreached.receiving hpaired hsealed
  cases hsession.symm.trans hreceiving.paired
  obtain ⟨payload', hpayload', rfl, hlt⟩ := hpaired.sealed hsealed hn
  cases hpayload.symm.trans hpayload'
  have hbase : session.inbound.tagSet.symmKeysBase ≤ n ↔ ∀ j ∈ past, j ≤ n + 1 := by
    rw [hreceiving.base_le_iff]
    simp only [List.mem_toFinset]
  have hbehind : (∃ j ∈ past, n + 1 < j) ↔ ¬ session.inbound.tagSet.symmKeysBase ≤ n := by
    rw [hbase]
    simp only [not_forall, Nat.not_le, exists_prop]
  rw [hbehind, ← hbase]
  rcases hreceiving.answer hpaired.distinct hlt payload with ⟨hunknown, -⟩ | ⟨-, hat, m', -, hok, -⟩ |
    ⟨-, hbelow, hpanic⟩
  · exact absurd (htag.symm.trans hunknown) (by decide)
  · simp [hok, hat]
  · simp [hpanic, hbelow]

set_option maxRecDepth 4000 in
theorem sampleAhead_panics : (sampleManager 3).JustPaired .plain sampleRoot sampleRemote 3 ∧
      sealAll .plain sampleRoot (samplePayloads 3) = .ok (sampleMessages 3) ∧
      Reached .plain (sampleMessages 3) (sampleManager 3) [2] sampleAhead ∧
      ∃ session message, sampleAhead.sessions[sampleRemote]? = some session ∧ (sampleMessages 3)[0]? = some message ∧
        session.inbound.contains message.tag = true ∧
        (sampleAhead.acceptExistingSession .plain message).2 = .error .panicked :=
  ⟨sampleManager_justPaired (by decide), rfl, reached_sampleAhead, _, _, rfl, rfl, by decide +kernel, by decide +kernel⟩

set_option maxRecDepth 4000 in
theorem acceptExistingSession_remembered_iff_sample :
    ∃ session message, sampleAhead.sessions[sampleRemote]? = some session ∧ (sampleMessages 3)[1]? = some message ∧
      (sampleAhead.acceptExistingSession .plain message).2 = .ok ⟨[1], sampleRemote⟩ := by
  refine ⟨_, _, rfl, rfl, ?_⟩
  have hpaired := @sampleManager_justPaired 3 (by decide)
  have hsealed : sealAll .plain sampleRoot (samplePayloads 3) = .ok (sampleMessages 3) := rfl
  exact (acceptExistingSession_remembered_iff hpaired hsealed reached_sampleAhead rfl
    (show (sampleMessages 3)[1]? = _ from rfl) rfl (by decide +kernel)).1.mpr (by decide)

variable (c) in
def acceptAll : EciesSessionManager → List ExistingSessionMessage →
    List (Except (Failure EciesSessionError) AcceptedPayload)
  | _, [] => []
  | m, message :: rest =>
    (m.acceptExistingSession c message).2 :: acceptAll (m.acceptExistingSession c message).1 rest

theorem Receiving.acceptAll_inOrder (hdistinct : root.TagsDistinct c) {arrivals : List Nat}
    (h : m.Receiving c root remote opened session) (horder : arrivals.Pairwise (· < ·))
    (hpast : ∀ j ∈ opened, ∀ n ∈ arrivals, j < n) (hbound : ∀ n ∈ arrivals, n < maxTagSetIndex - 1)
    (payloadOf : Nat → List UInt8) :
    acceptAll c m (arrivals.map fun n => sealedMessage c root n (payloadOf n)) =
        arrivals.map (fun n => .ok ⟨payloadOf n, remote⟩) ↔
      ∀ k n, arrivals[k]? = some n → n < opened.card + k + session.inbound.capacity := by
  induction arrivals generalizing m opened session with
  | nil => simp [acceptAll]
  | cons n rest ih =>
    obtain ⟨hfirst, horder⟩ := List.pairwise_cons.mp horder
    have hn := hbound n List.mem_cons_self
    have hnew : n ∉ opened := fun hmem => absurd (hpast n hmem n List.mem_cons_self) (Nat.lt_irrefl n)
    have hroom : session.inbound.contains (root.tagAt c n) = true ↔ n < opened.card + session.inbound.capacity := by
      rw [h.contains_iff hdistinct hn, h.full]
      simp only [lt_min_iff, hn, true_and, hnew, not_false_eq_true, and_true]
    have hbase : session.inbound.tagSet.symmKeysBase ≤ n := by
      rw [h.base_le_iff]
      intro j hj
      have := hpast j hj n List.mem_cons_self
      omega
    rw [List.map_cons, List.map_cons, acceptAll]
    rcases h.answer hdistinct hn (payloadOf n) with ⟨hunknown, hrefused⟩ | ⟨hknown, -, m', session', hok, hnext, hcap⟩ |
      ⟨-, hbelow, -⟩
    · -- The first of them is out of the window, and both sides fail there.
      have hfar : ¬ n < opened.card + session.inbound.capacity := by
        rw [← hroom, hunknown]
        decide
      rw [hrefused]
      constructor
      · intro heq
        cases (List.cons.inj heq).1
      · intro hall
        exact absurd (hall 0 n rfl) (by simpa using hfar)
    · have hnear := hroom.mp hknown
      have hcard : (insert n opened).card = opened.card + 1 := Finset.card_insert_of_notMem hnew
      have hrest := ih hnext horder
        (fun j hj k hk => by
          rcases Finset.mem_insert.mp hj with rfl | hj
          · exact hfirst k hk
          · exact hpast j hj k (List.mem_cons_of_mem _ hk))
        (fun k hk => hbound k (List.mem_cons_of_mem _ hk))
      rw [hok, List.cons.injEq, and_iff_right rfl, hrest, hcard, hcap]
      constructor
      · intro hall k j hj
        cases k with
        | zero =>
          cases hj
          simpa using hnear
        | succ k =>
          have := hall k j hj
          omega
      · intro hall k j hj
        have := hall (k + 1) j hj
        omega
    · omega

/-- Messages that arrive in order, some of them lost, are all accepted exactly when each has fewer losses before
it than the look-ahead: the tags of lost messages stay in the window for good. -/
theorem acceptAll_inOrder_iff (hpaired : m₀.JustPaired c root remote lookAhead)
    (hsealed : sealAll c root payloads = .ok messages) {arrivals : List Nat} (horder : arrivals.Pairwise (· < ·))
    (hsent : ∀ n ∈ arrivals, n < messages.length) :
    acceptAll c m₀ (arrivals.map fun n => messages.getD n ⟨.replicate 8 0, []⟩) =
        arrivals.map (fun n => .ok ⟨payloads.getD n [], remote⟩) ↔
      ∀ k n, arrivals[k]? = some n → n < k + lookAhead := by
  obtain ⟨session, hreceiving, hcap⟩ := hpaired.receiving
  have hmessage (n : Nat) (hn : n ∈ arrivals) :
      messages.getD n ⟨.replicate 8 0, []⟩ = sealedMessage c root n (payloads.getD n []) ∧ n < maxTagSetIndex - 1 := by
    obtain ⟨payload, hpayload, hmessage, hlt⟩ := hpaired.sealed hsealed (List.getElem?_eq_getElem (hsent n hn))
    rw [List.getD_eq_getElem?_getD, List.getD_eq_getElem?_getD, hpayload, List.getElem?_eq_getElem (hsent n hn)]
    exact ⟨hmessage, hlt⟩
  rw [List.map_congr_left fun n hn => (hmessage n hn).1]
  have := hreceiving.acceptAll_inOrder hpaired.distinct horder (by simp) (fun n hn => (hmessage n hn).2)
    (fun n => payloads.getD n [])
  simpa [hcap] using this

/-- Every second message is lost, and the session is stuck after the first. -/
theorem alternate_losses_wedge : (sampleManager 2).JustPaired .plain sampleRoot sampleRemote 2 ∧
      sealAll .plain sampleRoot (samplePayloads 4) = .ok (sampleMessages 4) ∧
      acceptAll .plain (sampleManager 2) ([1, 3].map fun n => (sampleMessages 4).getD n ⟨.replicate 8 0, []⟩) =
        [.ok ⟨[1], sampleRemote⟩, .error (.error .unknownSessionTag)] :=
  ⟨sampleManager_justPaired (by decide), by decide +kernel, by decide +kernel⟩

theorem acceptAll_inOrder_iff_sample :
    acceptAll .plain (sampleManager 3) ([0, 2, 4].map fun n => (sampleMessages 5).getD n ⟨.replicate 8 0, []⟩) =
      [0, 2, 4].map (fun n => .ok ⟨(samplePayloads 5).getD n [], sampleRemote⟩) := by
  have hpaired := @sampleManager_justPaired 3 (by decide)
  have hsealed : sealAll .plain sampleRoot (samplePayloads 5) = .ok (sampleMessages 5) := by decide +kernel
  refine (acceptAll_inOrder_iff hpaired hsealed (by decide) (by decide +kernel)).mpr fun k n hn => ?_
  have hk := (List.getElem?_eq_some_iff.mp hn).1
  rw [show [0, 2, 4].length = 3 from rfl] at hk
  interval_cases k <;> cases hn <;> decide

end Sealed

end EciesSessionManager

end I2pr.Ecies

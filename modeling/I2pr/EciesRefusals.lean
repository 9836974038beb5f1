import I2pr.EciesReplay

namespace I2pr.Ecies

open Std

variable {c : EciesCrypto}

namespace InboundTagWindow

variable {w w' : InboundTagWindow}

theorem refillFrom_issues (rounds : Nat) (w : InboundTagWindow) :
    (w.refillFrom c rounds).1 = w ∨ w.tagSet.nextIndex < (w.refillFrom c rounds).1.tagSet.nextIndex := by
  induction rounds generalizing w with
  | zero => exact .inl rfl
  | succ rounds ih =>
    unfold refillFrom
    split
    · unfold EciesTagSet.nextEntry
      split
      · exact .inl rfl
      next hentry =>
        split at hentry
        · cases hentry
        cases hentry
        right
        rcases ih { w with tagSet := _, entries := w.entries.insert _ _ } with heq | hlt
        · rw [heq]
          exact Nat.lt_succ_self _
        · exact Nat.lt_trans (Nat.lt_succ_self _) hlt
    · exact .inl rfl

/-- A tag that was used is gone, unless its set has issued others since. -/
theorem consume_eq_some {tag : Tag} {index : Nat} (h : w.consume c tag = some (w', index)) :
    tag ∈ w.entries ∧ (w'.entries = w.entries.erase tag ∨ w.tagSet.nextIndex < w'.tagSet.nextIndex) := by
  unfold consume at h
  split at h
  · cases h
  next hfound =>
    cases h
    refine ⟨TreeMap.mem_of_getElem? hfound, ?_⟩
    rcases refillFrom_issues (c := c) _ { w with entries := w.entries.erase tag } with heq | hlt
    · exact .inl (congrArg entries heq)
    · exact .inr hlt

end InboundTagWindow

theorem openExistingSession_nextIndex (t : EciesTagSet) (index : Nat) (message : ExistingSessionMessage) :
    (openExistingSession c t index message).1.nextIndex = t.nextIndex := by
  have hkey := t.symmKey_nextIndex c index
  unfold openExistingSession
  split
  · rfl
  split
  next heq =>
    rw [heq] at hkey
    exact hkey
  next heq =>
    rw [heq] at hkey
    split <;> exact hkey

namespace EciesSessionManager

variable {m : EciesSessionManager} {e : EciesSessionError}

section Refused

variable {localStaticSecret localStaticPublic : Key} {nowSeconds : Nat}

theorem acceptNewSession_refused_iff {message : BoundNewSessionMessage}
    (h : (m.acceptNewSession c localStaticSecret localStaticPublic message nowSeconds).2 = .error (.error e)) :
    (m.acceptNewSession c localStaticSecret localStaticPublic message nowSeconds).1 = m ↔
      ∀ maximum, e ≠ .pendingHandshakeCapacity maximum := by
  unfold acceptNewSession at h ⊢
  by_cases hseen : m.seenNewSessionEphemerals.contains message.representative = true
  · rw [if_pos hseen] at h ⊢
    cases h
    simp
  rw [if_neg hseen] at h ⊢
  cases hopen : openBoundNewSession c localStaticSecret localStaticPublic message with
  | error failure =>
    cases failure with
    | panicked =>
      rw [hopen] at h
      cases h
    | error failure =>
      rw [hopen] at h
      cases h
      simp
  | ok opened =>
    simp only [hopen] at h ⊢
    split at h
    next hfull =>
      cases h
      rw [if_pos hfull]
      refine iff_of_false (fun heq => hseen ?_) fun hne => hne _ rfl
      rw [← congrArg seenNewSessionEphemerals heq]
      simp [rememberNewSessionEphemeral]
    · cases h

theorem acceptNewSessionReply_refused_iff {reply : NewSessionReplyMessage}
    (h : (m.acceptNewSessionReply c localStaticSecret reply nowSeconds).2 = .error (.error e)) :
    (m.acceptNewSessionReply c localStaticSecret reply nowSeconds).1 = m ↔ e = .noPendingHandshake := by
  unfold acceptNewSessionReply at h ⊢
  cases hlook : m.pendingReplyTags[reply.tag]? with
  | none =>
    rw [hlook] at h
    cases h
    simp
  | some slot =>
    simp only [hlook] at h ⊢
    rcases hslot : m.pendingInitiated[slot]? with _ | _ | pending
    · rw [hslot] at h
      cases h
    · rw [hslot] at h
      cases h
      simp
    · -- The slot is free from here on, whatever the reply opens to.
      have htaken {m' : EciesSessionManager} (hslots : m'.pendingInitiated = m.pendingInitiated.set slot none) :
          m' ≠ m := by
        rintro rfl
        have hlt := (List.getElem?_eq_some_iff.mp hslot).1
        rw [hslots, List.getElem?_set_self (by simpa using hlt)] at hslot
        cases hslot
      simp only [hslot] at h ⊢
      refine iff_of_false (htaken ?_) ?_
      · repeat' split
        all_goals rfl
      · repeat' split at h
        all_goals cases h
        all_goals exact EciesSessionError.noConfusion

theorem acceptExistingSession_refused_iff {message : ExistingSessionMessage}
    (h : (m.acceptExistingSession c message).2 = .error (.error e)) :
    (m.acceptExistingSession c message).1 = m ↔ e = .unknownSessionTag := by
  unfold acceptExistingSession at h ⊢
  cases hfound : consumeTag c message.tag m.sessions.toList with
  | none =>
    rw [hfound] at h
    cases h
    simp
  | some found =>
    obtain ⟨remote, session, inbound, index⟩ := found
    obtain ⟨hmem, hconsume⟩ := consumeTag_eq_some hfound
    obtain ⟨htag, hused⟩ := InboundTagWindow.consume_eq_some hconsume
    have hnext := openExistingSession_nextIndex (c := c) inbound.tagSet index message
    simp only [hfound] at h ⊢
    have hchanged {m' : EciesSessionManager} (hsession : m'.sessions[remote]? = some ⟨session.outbound,
        { inbound with tagSet := (openExistingSession c inbound.tagSet index message).1 }, session.lastUsedSeconds⟩) :
        m' ≠ m := by
      rintro rfl
      have hsame := Option.some.inj (hsession.symm.trans (ExtTreeMap.mem_toList_iff_getElem?_eq_some.mp hmem))
      have hentries := congrArg (·.inbound.entries) hsame
      have hindex := congrArg (·.inbound.tagSet.nextIndex) hsame
      rcases hused with herased | hlt
      · rw [← hentries, herased] at htag
        simp at htag
      · simp only at hindex
        omega
    cases hopen : (openExistingSession c inbound.tagSet index message).2 with
    | error failure =>
      simp only [hopen] at h ⊢
      refine iff_of_false (hchanged (by simp)) ?_
      cases failure <;> cases h
      exact EciesSessionError.noConfusion
    | ok payload =>
      rw [hopen] at h
      cases h

end Refused

def sampleInitiator : EciesSessionManager :=
  (new sampleConfig).run .plain countingRng [.encryptToRemote (sampleSecret 1) (samplePublic 2) [4, 5] 0 3]

def sampleReply : NewSessionReplyMessage :=
  match (sampleResponder.sealNewSessionReplyFor .plain countingRng (sampleSecret 2) (samplePublic 1) [6] 0 8).2 with
  | .error _ => ⟨.replicate 8 0, .replicate 32 0, [], []⟩
  | .ok (message, _) => message

/-- The genuine reply with other bytes where its authentication code was. -/
def sampleForged : NewSessionReplyMessage :=
  { sampleReply with encryptedPayloadSection := List.replicate 17 0 }

end EciesSessionManager

end I2pr.Ecies

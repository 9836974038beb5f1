import I2pr.EciesInbound

namespace I2pr.Ecies

namespace EciesSessionManager

variable (c : EciesCrypto)

/-- A handshake that waits for its reply in a slot, with the first tag of its reply window registered. -/
structure Pending (m : EciesSessionManager) (slot : Nat) (sender : BoundNewSessionSender) : Prop where
  waits : ∃ createdSeconds, m.pendingInitiated[slot]? = some (some ⟨sender, createdSeconds⟩)
  tag : m.pendingReplyTags[(sender.replyTagSet c).tagAt c 0]? = some slot

variable {c} {m m' : EciesSessionManager} {sender sender' : BoundNewSessionSender} {slot createdSeconds : Nat}

theorem Pending.congr (h : m.Pending c slot sender) (hslots : m'.pendingInitiated = m.pendingInitiated)
    (htags : m'.pendingReplyTags = m.pendingReplyTags) : m'.Pending c slot sender :=
  ⟨hslots ▸ h.waits, htags ▸ h.tag⟩

theorem installReplyTags_first {rounds : Nat} {window : EciesTagSet} {tags : Std.ExtTreeMap Tag Nat}
    {tag : Tag} (h : tags[tag]? = some slot) :
    (installReplyTags c slot rounds window tags).1[tag]? = some slot := by
  induction rounds generalizing window tags with
  | zero => exact h
  | succ rounds ih =>
    have hinsert (other : Tag) : (tags.insert other slot)[tag]? = some slot := by
      rw [Std.ExtTreeMap.getElem?_insert]
      split
      · rfl
      · exact h
    unfold installReplyTags
    split
    · exact h
    · dsimp only
      split
      · exact hinsert _
      · exact ih (hinsert _)

variable (c sender) in
theorem fresh_replyTagSet : (sender.replyTagSet c).Fresh := ⟨rfl, rfl, rfl⟩

variable (c sender) in
theorem installReplyTags_succ (slot rounds : Nat) (tags : Std.ExtTreeMap Tag Nat) :
    ∃ window, installReplyTags c slot (rounds + 1) (sender.replyTagSet c) tags =
      if tags.contains ((sender.replyTagSet c).tagAt c 0) then
        (tags.insert ((sender.replyTagSet c).tagAt c 0) slot, Except.error EciesSessionError.replyTagCollision)
      else installReplyTags c slot rounds window (tags.insert ((sender.replyTagSet c).tagAt c 0) slot) := by
  have hfresh := fresh_replyTagSet c sender
  obtain ⟨window, hentry⟩ := hfresh.nextEntry c
  exact ⟨window, by rw [installReplyTags, hentry]⟩

theorem installReplyTags_keeps {rounds : Nat} {window : EciesTagSet} {tags : Std.ExtTreeMap Tag Nat} {tag : Tag}
    {value : Nat} (h : tags[tag]? = some value) (hok : (installReplyTags c slot rounds window tags).2 = .ok ()) :
    (installReplyTags c slot rounds window tags).1[tag]? = some value := by
  induction rounds generalizing window tags with
  | zero => exact h
  | succ rounds ih =>
    unfold installReplyTags at hok ⊢
    split at hok
    · cases hok
    next window' entry hentry =>
      dsimp only at hok ⊢
      split at hok
      · cases hok
      next hnew =>
        rw [if_neg hnew]
        refine ih ?_ hok
        rw [TreeMap.getElem?_insert_of_ne, h]
        rintro rfl
        rw [Std.ExtTreeMap.contains_eq_isSome_getElem?, h] at hnew
        exact hnew rfl

theorem freeSlot_lt_openSlots : m.freeSlot < m.openSlots.length := by
  unfold openSlots
  split
  next h => exact h
  next h =>
    have : m.freeSlot ≤ m.pendingInitiated.length := List.findIdx_le_length
    simp only [List.length_append, List.length_singleton]
    omega

theorem freeSlot_free {value : Option PendingInitiated} (h : m.pendingInitiated[m.freeSlot]? = some value) :
    value = none := by
  obtain ⟨hlt, rfl⟩ := List.getElem?_eq_some_iff.mp h
  exact Option.isNone_iff_eq_none.mp (List.findIdx_getElem (w := hlt))

theorem getElem?_openSlots {value : Option PendingInitiated} (h : m.pendingInitiated[slot]? = some value) :
    m.openSlots[slot]? = some value := by
  unfold openSlots
  split
  · exact h
  rw [List.getElem?_append_left (List.getElem?_eq_some_iff.mp h).1]
  exact h

theorem Pending.ne_freeSlot (h : m.Pending c slot sender) : slot ≠ m.freeSlot := by
  rintro rfl
  obtain ⟨createdSeconds, hslot⟩ := h.waits
  cases freeSlot_free hslot

theorem installPending_pending (h : m.installPending c sender createdSeconds = (m', .ok ())) :
    m'.Pending c m.freeSlot sender ∧ (∀ slot sender', m.Pending c slot sender' → m'.Pending c slot sender') ∧
      m'.sessions = m.sessions ∧ m'.provisionalResponders = m.provisionalResponders ∧
      m'.seenNewSessionEphemerals = m.seenNewSessionEphemerals ∧ m'.config = m.config := by
  obtain ⟨rounds, hrounds⟩ := Nat.exists_eq_add_one.mpr m.config.lookAhead_ok.1
  obtain ⟨window, hsucc⟩ := installReplyTags_succ c sender m.freeSlot rounds m.pendingReplyTags
  unfold installPending at h
  split at h
  · cases h
  next tags heq =>
    cases h
    refine ⟨⟨⟨createdSeconds, List.getElem?_set_self freeSlot_lt_openSlots⟩, ?_⟩, fun slot sender' hpending => ⟨?_, ?_⟩, rfl, rfl, rfl, rfl⟩
    · rw [hrounds, hsucc] at heq
      split at heq
      · cases heq
      have hfirst := congrArg Prod.fst heq
      simp only at hfirst
      rw [← hfirst]
      exact installReplyTags_first (by simp)
    · obtain ⟨created, hslot⟩ := hpending.waits
      refine ⟨created, ?_⟩
      rw [List.getElem?_set_ne hpending.ne_freeSlot.symm]
      exact getElem?_openSlots hslot
    · have hkept := installReplyTags_keeps hpending.tag (congrArg Prod.snd heq)
      rwa [heq] at hkept

end EciesSessionManager

end I2pr.Ecies

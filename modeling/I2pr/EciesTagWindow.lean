import I2pr.EciesSessionManager

namespace I2pr.Ecies

namespace EciesTagSet

variable (c : EciesCrypto)

/-- The tag of message `n` of a session that starts from `root`. -/
def tagAt (root : EciesTagSet) (n : Nat) : Tag :=
  KeyChain.output (ratchetTag c root.tagConstant) root.tagChainKey n

def keyAt (root : EciesTagSet) (n : Nat) : Key :=
  KeyChain.output (ratchetKey c) root.symmChainKey n

structure Fresh (root : EciesTagSet) : Prop where
  nextIndex : root.nextIndex = 0
  symmKeys : root.symmKeys = []
  symmKeysBase : root.symmKeysBase = 0

/-- A set that `root` has become: both chains stand where the counters say. -/
structure Rooted (root t : EciesTagSet) : Prop where
  tagConstant : t.tagConstant = root.tagConstant
  tagChainKey : t.tagChainKey = KeyChain.state (ratchetTag c root.tagConstant) root.tagChainKey t.nextIndex
  symmKeys : t.symmKeys = KeyChain.outputs (ratchetKey c) root.symmChainKey t.symmKeysBase t.symmKeys.length
  symmChainKey : t.symmChainKey =
    KeyChain.state (ratchetKey c) root.symmChainKey (t.symmKeysBase + t.symmKeys.length)

variable {c} {root t : EciesTagSet} {index : Nat}

theorem Fresh.rooted (h : root.Fresh) : Rooted c root root := by
  constructor
  · rfl
  · rw [h.nextIndex]
    rfl
  · rw [h.symmKeys]
    rfl
  · rw [h.symmKeysBase, h.symmKeys]
    rfl

theorem Rooted.nextEntry (h : Rooted c root t) (hroom : t.nextIndex < maxTagSetIndex - 1) :
    ∃ t', t.nextEntry c = .ok (t', ⟨t.nextIndex, root.tagAt c t.nextIndex⟩) ∧ Rooted c root t' ∧
      t'.nextIndex = t.nextIndex + 1 ∧ t'.symmKeysBase = t.symmKeysBase ∧ t'.symmKeys = t.symmKeys := by
  have hstep := KeyChain.step_state (ratchetTag c root.tagConstant) root.tagChainKey t.nextIndex
  refine ⟨{ t with
      tagChainKey := KeyChain.state (ratchetTag c root.tagConstant) root.tagChainKey (t.nextIndex + 1)
      nextIndex := t.nextIndex + 1 }, ?_, ⟨h.tagConstant, rfl, h.symmKeys, h.symmChainKey⟩, rfl, rfl, rfl⟩
  rw [EciesTagSet.nextEntry, if_neg (by rw [maxTagSetIndex] at *; omega), h.tagConstant, h.tagChainKey]
  simp only [hstep]
  rfl

variable (c) in
theorem Fresh.nextEntry (h : root.Fresh) : ∃ t, root.nextEntry c = .ok (t, ⟨0, root.tagAt c 0⟩) := by
  obtain ⟨t, hentry, -⟩ := (h.rooted (c := c)).nextEntry (by rw [h.nextIndex]; decide)
  rw [h.nextIndex] at hentry
  exact ⟨t, hentry⟩

theorem nextEntry_exhausted (hfull : maxTagSetIndex - 1 ≤ t.nextIndex) : t.nextEntry c = .error .tagSetExhausted := by
  rw [EciesTagSet.nextEntry, if_pos (by rw [maxTagSetIndex] at *; omega)]

theorem Rooted.deriveKeys (h : Rooted c root t) {rounds : Nat}
    (hroom : t.symmKeys.length + rounds ≤ maxTagSetRetainedKeys) :
    ∃ t', t.deriveKeys c rounds = (t', true) ∧ Rooted c root t' ∧ t'.nextIndex = t.nextIndex ∧
      t'.symmKeysBase = t.symmKeysBase ∧ t'.symmKeys.length = t.symmKeys.length + rounds := by
  induction rounds generalizing t with
  | zero => exact ⟨t, rfl, h, rfl, rfl, rfl⟩
  | succ rounds ih =>
    have hstep := KeyChain.step_state (ratchetKey c) root.symmChainKey (t.symmKeysBase + t.symmKeys.length)
    rw [← h.symmChainKey] at hstep
    have hnext : Rooted c root { t with
        symmChainKey := KeyChain.state (ratchetKey c) root.symmChainKey (t.symmKeysBase + t.symmKeys.length + 1)
        symmKeys := t.symmKeys ++
          [KeyChain.output (ratchetKey c) root.symmChainKey (t.symmKeysBase + t.symmKeys.length)] } := by
      refine ⟨h.tagConstant, h.tagChainKey, ?_, ?_⟩
      · simp only [List.length_append, List.length_singleton, KeyChain.outputs_succ, ← h.symmKeys]
      · simp only [List.length_append, List.length_singleton, Nat.add_assoc]
    obtain ⟨t', hderive, hrooted, hnextIndex, hbase, hlength⟩ := ih hnext (by simp; omega)
    refine ⟨t', ?_, hrooted, hnextIndex, hbase, by rw [hlength]; simp; omega⟩
    rw [EciesTagSet.deriveKeys, if_neg (by omega), hstep]
    exact hderive

variable (c t) in
theorem deriveKeys_nextIndex (rounds : Nat) : (t.deriveKeys c rounds).1.nextIndex = t.nextIndex := by
  induction rounds generalizing t with
  | zero => rfl
  | succ rounds ih =>
    unfold EciesTagSet.deriveKeys
    split
    · rfl
    · exact ih _

variable (c t) in
theorem symmKey_nextIndex (index : Nat) : (t.symmKey c index).1.nextIndex = t.nextIndex := by
  have hderive := t.deriveKeys_nextIndex c (index + 1 - (t.symmKeysBase + t.symmKeys.length))
  unfold EciesTagSet.symmKey
  split
  · rfl
  · split
    next heq =>
      rw [heq] at hderive
      exact hderive
    next heq =>
      rw [heq] at hderive
      repeat' split
      all_goals exact hderive

theorem Rooted.symmKey (h : Rooted c root t) (hindex : index < maxTagSetIndex) (hbase : t.symmKeysBase ≤ index)
    (hroom : index + 1 - t.symmKeysBase ≤ maxTagSetRetainedKeys)
    (hretained : t.symmKeys.length ≤ maxTagSetRetainedKeys) :
    ∃ t', t.symmKey c index = (t', .ok (root.keyAt c index)) ∧ Rooted c root t' ∧ t'.nextIndex = t.nextIndex ∧
      t'.symmKeysBase = t.symmKeysBase ∧
      t'.symmKeys.length = max t.symmKeys.length (index + 1 - t.symmKeysBase) := by
  obtain ⟨t', hderive, hrooted, hnext, hbase', hlength⟩ :=
    h.deriveKeys (show t.symmKeys.length + (index + 1 - (t.symmKeysBase + t.symmKeys.length)) ≤ _ by omega)
  refine ⟨t', ?_, hrooted, hnext, hbase', by omega⟩
  have hkey : t'.symmKeys[index - t'.symmKeysBase]? = some (root.keyAt c index) := by
    rw [hrooted.symmKeys, KeyChain.getElem?_outputs _ _ (by omega), hbase']
    congr 2
    omega
  rw [EciesTagSet.symmKey, if_neg (by omega), hderive]
  simp only [hkey, if_neg (show ¬ index < t'.symmKeysBase by omega)]

/-- A key below the base is gone, and asking for it is a panic. -/
theorem symmKey_below (hindex : index < maxTagSetIndex) (hbelow : index < t.symmKeysBase) :
    t.symmKey c index = (t, .error .panicked) := by
  rw [EciesTagSet.symmKey, if_neg (by omega), show index + 1 - (t.symmKeysBase + t.symmKeys.length) = 0 by omega]
  simp only [deriveKeys, if_pos hbelow]

theorem Rooted.trimKeysBelow (h : Rooted c root t) (index : Nat) : Rooted c root (t.trimKeysBelow index) := by
  refine ⟨h.tagConstant, h.tagChainKey, ?_, ?_⟩
  · simp only [EciesTagSet.trimKeysBelow, List.length_drop]
    conv_lhs => rw [h.symmKeys]
    rw [KeyChain.drop_outputs, KeyChain.length_outputs]
  · simp only [EciesTagSet.trimKeysBelow, List.length_drop]
    rw [h.symmChainKey]
    congr 1
    omega

end EciesTagSet

open EciesTagSet Finset

variable (c : EciesCrypto)

def sealedMessage (root : EciesTagSet) (n : Nat) (payload : List UInt8) : ExistingSessionMessage :=
  ⟨root.tagAt c n, c.encrypt (root.keyAt c n) n payload (root.tagAt c n).toList⟩

/-- The messages of a sender that seals the payloads one after the other, if none of them fails. -/
def sealAll : EciesTagSet → List (List UInt8) → Except (Failure EciesError) (List ExistingSessionMessage)
  | _, [] => .ok []
  | t, payload :: payloads =>
    match sealExistingSession c t payload with
    | (_, .error e) => .error e
    | (t, .ok message) => (sealAll t payloads).map (message :: ·)

variable {c} {root t : EciesTagSet}

theorem sealExistingSession_eq (h : Rooted c root t) (hkeys : t.symmKeysBase + t.symmKeys.length = t.nextIndex)
    (hone : t.symmKeys.length ≤ 1) (hroom : t.nextIndex < maxTagSetIndex - 1) {payload : List UInt8}
    (hpayload : payload.length ≤ maxNewSessionCiphertext) :
    ∃ t', sealExistingSession c t payload = (t', .ok (sealedMessage c root t.nextIndex payload)) ∧
      Rooted c root t' ∧ t'.nextIndex = t.nextIndex + 1 ∧
      t'.symmKeysBase + t'.symmKeys.length = t'.nextIndex ∧ t'.symmKeys.length ≤ 1 := by
  have hmax : maxTagSetIndex = 65535 ∧ maxTagSetRetainedKeys = 4096 := ⟨rfl, rfl⟩
  obtain ⟨t₁, hentry, hrooted₁, hnext₁, hbase₁, hkeys₁⟩ := h.nextEntry hroom
  obtain ⟨t₂, hkey, hrooted₂, hnext₂, hbase₂, hlength₂⟩ :=
    hrooted₁.symmKey (show t.nextIndex < maxTagSetIndex by omega) (by omega) (by omega) (by rw [hkeys₁]; omega)
  rw [hkeys₁] at hlength₂
  refine ⟨t₂.trimKeysBelow t.nextIndex, ?_, hrooted₂.trimKeysBelow _, hnext₂.trans hnext₁, ?_, ?_⟩
  · rw [sealExistingSession, if_neg (by omega), hentry]
    simp only [hkey]
    rfl
  · simp only [trimKeysBelow, List.length_drop]
    omega
  · simp only [trimKeysBelow, List.length_drop]
    omega

theorem sealExistingSession_ok {payload : List UInt8} {message : ExistingSessionMessage}
    (h : (sealExistingSession c t payload).2 = .ok message) :
    payload.length ≤ maxNewSessionCiphertext ∧ t.nextIndex < maxTagSetIndex - 1 := by
  unfold sealExistingSession at h
  split at h
  · cases h
  next hsize =>
    refine ⟨by omega, ?_⟩
    by_contra hfull
    rw [nextEntry_exhausted (by omega)] at h
    cases h

theorem getElem?_sealAll (h : Rooted c root t) (hkeys : t.symmKeysBase + t.symmKeys.length = t.nextIndex)
    (hone : t.symmKeys.length ≤ 1) {payloads : List (List UInt8)} {messages : List ExistingSessionMessage}
    (hsealed : sealAll c t payloads = .ok messages) :
    (payloads ≠ [] → t.nextIndex + payloads.length ≤ maxTagSetIndex - 1) ∧
      ∀ n, messages[n]? = (payloads[n]?).map fun payload => sealedMessage c root (t.nextIndex + n) payload := by
  induction payloads generalizing t messages with
  | nil =>
    cases hsealed
    simp
  | cons first payloads ih =>
    rw [sealAll] at hsealed
    split at hsealed
    · cases hsealed
    next t' message hseal =>
      obtain ⟨hsize, hroom⟩ := sealExistingSession_ok (congrArg Prod.snd hseal)
      obtain ⟨t'', hseal', hrooted, hnext, hkeys', hone'⟩ := sealExistingSession_eq h hkeys hone hroom hsize
      obtain ⟨rfl, hmessage⟩ := Prod.mk.inj (hseal.symm.trans hseal')
      cases hmessage
      cases hrest : sealAll c t' payloads with
      | error e =>
        rw [hrest] at hsealed
        cases hsealed
      | ok rest =>
        rw [hrest] at hsealed
        cases hsealed
        obtain ⟨hfits, hget⟩ := ih hrooted hkeys' hone' hrest
        refine ⟨fun _ => ?_, fun n => ?_⟩
        · by_cases hlast : payloads = []
          · subst hlast
            simpa using hroom
          · have := hfits hlast
            rw [List.length_cons]
            omega
        · cases n with
          | zero => rfl
          | succ n => rw [List.getElem?_cons_succ, hget, hnext, List.getElem?_cons_succ, Nat.add_right_comm,
              Nat.add_assoc]

theorem openExistingSession_sealed (h : Rooted c root t) {index : Nat} (hindex : index < maxTagSetIndex)
    (hbase : t.symmKeysBase ≤ index) (hroom : index + 1 - t.symmKeysBase ≤ maxTagSetRetainedKeys)
    (hretained : t.symmKeys.length ≤ maxTagSetRetainedKeys) (payload : List UInt8) :
    ∃ t', openExistingSession c t index (sealedMessage c root index payload) =
        (t'.trimKeysBelow (index - 1), .ok payload) ∧ Rooted c root t' ∧ t'.nextIndex = t.nextIndex ∧
      t'.symmKeysBase = t.symmKeysBase ∧
      t'.symmKeys.length = max t.symmKeys.length (index + 1 - t.symmKeysBase) := by
  obtain ⟨t', hkey, hrooted⟩ := h.symmKey hindex hbase hroom hretained
  have hplain : c.aeadDecrypt (root.keyAt c index) index (sealedMessage c root index payload).encryptedPayloadSection
      (sealedMessage c root index payload).tag.toList = .ok payload := c.aeadDecrypt_encrypt ..
  refine ⟨t', ?_, hrooted⟩
  rw [openExistingSession, if_neg (by rw [sealedMessage, c.length_encrypt]; omega), hkey]
  simp only [hplain]

variable (c) in
/-- The tags of one root are pairwise distinct, as far as a set can issue them. -/
def EciesTagSet.TagsDistinct (root : EciesTagSet) : Prop :=
  ∀ m n, m < maxTagSetIndex - 1 → n < maxTagSetIndex - 1 → root.tagAt c m = root.tagAt c n → m = n

namespace InboundTagWindow

variable (c) in
/-- The window remembers the tags its set has issued and that were not used. -/
structure Tracks (root : EciesTagSet) (used : Finset Nat) (w : InboundTagWindow) : Prop where
  rooted : Rooted c root w.tagSet
  bound : w.tagSet.nextIndex ≤ maxTagSetIndex - 1
  used_lt : ∀ n ∈ used, n < w.tagSet.nextIndex
  entries : ∀ tag n, w.entries[tag]? = some n ↔ n < w.tagSet.nextIndex ∧ n ∉ used ∧ tag = root.tagAt c n
  size : w.entries.size + used.card = w.tagSet.nextIndex

variable {used : Finset Nat} {w : InboundTagWindow} {n : Nat}

theorem Tracks.issue (h : w.Tracks c root used) (hdistinct : root.TagsDistinct c)
    (hroom : w.tagSet.nextIndex < maxTagSetIndex - 1) :
    ∃ tagSet, w.tagSet.nextEntry c = .ok (tagSet, ⟨w.tagSet.nextIndex, root.tagAt c w.tagSet.nextIndex⟩) ∧
      Tracks c root used
        ⟨tagSet, w.entries.insert (root.tagAt c w.tagSet.nextIndex) w.tagSet.nextIndex, w.capacity⟩ ∧
      tagSet.nextIndex = w.tagSet.nextIndex + 1 ∧ tagSet.symmKeysBase = w.tagSet.symmKeysBase ∧
      tagSet.symmKeys = w.tagSet.symmKeys := by
  obtain ⟨tagSet, hentry, hrooted, hnext, hbase, hkeys⟩ := h.rooted.nextEntry hroom
  have hfresh : w.entries[root.tagAt c w.tagSet.nextIndex]? = none := by
    cases hlook : w.entries[root.tagAt c w.tagSet.nextIndex]? with
    | none => rfl
    | some n =>
      obtain ⟨hlt, -, htag⟩ := (h.entries _ _).mp hlook
      have := hdistinct _ _ hroom (by omega) htag
      omega
  refine ⟨tagSet, hentry, ⟨hrooted, ?_, ?_, ?_, ?_⟩, hnext, hbase, hkeys⟩
  · simp only [hnext]
    omega
  · intro n hn
    have := h.used_lt n hn
    simp only [hnext]
    omega
  · intro tag n
    simp only [hnext, TreeMap.getElem?_insert]
    by_cases htag : root.tagAt c w.tagSet.nextIndex = tag
    · subst htag
      simp only [if_true, Option.some.injEq]
      constructor
      · rintro rfl
        refine ⟨by omega, fun hused => ?_, rfl⟩
        have := h.used_lt _ hused
        omega
      · rintro ⟨hlt, -, htag⟩
        exact hdistinct _ _ hroom (by omega) htag
    · rw [if_neg htag, h.entries]
      constructor
      · rintro ⟨hlt, hunused, rfl⟩
        exact ⟨by omega, hunused, rfl⟩
      · rintro ⟨hlt, hunused, rfl⟩
        refine ⟨lt_of_le_of_ne (by omega) ?_, hunused, rfl⟩
        rintro rfl
        exact htag rfl
  · have hnew : ¬ w.entries.contains (root.tagAt c w.tagSet.nextIndex) := by
      rw [Std.ExtTreeMap.contains_eq_isSome_getElem?, hfresh]
      simp
    have := h.size
    simp only [Std.ExtTreeMap.size_insert, hnext]
    rw [if_neg (by simpa using hnew)]
    omega

theorem Tracks.refillFrom (hdistinct : root.TagsDistinct c) {rounds : Nat} (h : w.Tracks c root used)
    (hroom : w.tagSet.nextIndex ≤ used.card + w.capacity) (hrounds : rounds = maxTagSetIndex - 1 - w.tagSet.nextIndex) :
    (w.refillFrom c rounds).1.Tracks c root used ∧
      (w.refillFrom c rounds).1.tagSet.nextIndex = min (maxTagSetIndex - 1) (used.card + w.capacity) ∧
      (w.refillFrom c rounds).1.capacity = w.capacity ∧
      (w.refillFrom c rounds).1.tagSet.symmKeysBase = w.tagSet.symmKeysBase ∧
      (w.refillFrom c rounds).1.tagSet.symmKeys = w.tagSet.symmKeys ∧
      (used.card + w.capacity ≤ maxTagSetIndex - 1 → (w.refillFrom c rounds).2 = .ok ()) := by
  have hbound := h.bound
  have hsize := h.size
  induction rounds generalizing w with
  | zero =>
    refine ⟨h, by simp only [InboundTagWindow.refillFrom]; omega, rfl, rfl, rfl, fun hfits => ?_⟩
    rw [InboundTagWindow.refillFrom, if_neg (by omega)]
  | succ rounds ih =>
    unfold InboundTagWindow.refillFrom
    split
    next hshort =>
      obtain ⟨tagSet, hentry, hnext, hindex, hbase, hkeys⟩ := h.issue hdistinct (by omega)
      rw [hentry]
      have hstep := ih hnext (show tagSet.nextIndex ≤ used.card + w.capacity by omega)
        (show rounds = maxTagSetIndex - 1 - tagSet.nextIndex by omega) hnext.bound hnext.size
      rw [← hbase, ← hkeys]
      exact hstep
    next hfull =>
      refine ⟨h, ?_, rfl, rfl, rfl, fun _ => rfl⟩
      simp only
      omega

theorem Tracks.new (hfresh : root.Fresh) (hdistinct : root.TagsDistinct c) {capacity : Nat}
    (hcapacity : capacity ≤ maxTagSetIndex - 1) :
    ∃ w, InboundTagWindow.new c root capacity = .ok w ∧ w.Tracks c root ∅ ∧ w.tagSet.nextIndex = capacity ∧
      w.capacity = capacity ∧ w.tagSet.symmKeysBase = 0 ∧ w.tagSet.symmKeys = [] := by
  have hstart : (InboundTagWindow.mk root ∅ capacity).Tracks c root ∅ := by
    refine ⟨hfresh.rooted, ?_, by simp, ?_, ?_⟩
    · simp [hfresh.nextIndex]
    · simp [hfresh.nextIndex]
    · simp [hfresh.nextIndex]
  obtain ⟨htracks, hnext, hcap, hbase, hkeys, hok⟩ :=
    hstart.refillFrom hdistinct (by simp [hfresh.nextIndex]) rfl
  refine ⟨_, ?_, htracks, ?_, hcap, hbase.trans hfresh.symmKeysBase, hkeys.trans hfresh.symmKeys⟩
  · have hok := hok (by simpa using hcapacity)
    unfold InboundTagWindow.new refill
    split
    next w heq => rw [heq]
    next e heq => simp [heq] at hok
  · rw [hnext]
    simpa using hcapacity

theorem Tracks.consume (h : w.Tracks c root used) (hdistinct : root.TagsDistinct c)
    (hfull : w.tagSet.nextIndex = min (maxTagSetIndex - 1) (used.card + w.capacity))
    (hn : n < w.tagSet.nextIndex) (hunused : n ∉ used) :
    ∃ w', w.consume c (root.tagAt c n) = some (w', n) ∧ w'.Tracks c root (insert n used) ∧
      w'.tagSet.nextIndex = min (maxTagSetIndex - 1) ((insert n used).card + w.capacity) ∧
      w'.capacity = w.capacity ∧ w'.tagSet.symmKeysBase = w.tagSet.symmKeysBase ∧
      w'.tagSet.symmKeys = w.tagSet.symmKeys := by
  have hlook : w.entries[root.tagAt c n]? = some n := (h.entries _ _).mpr ⟨hn, hunused, rfl⟩
  have hmem : root.tagAt c n ∈ w.entries := by
    rw [Std.ExtTreeMap.mem_iff_isSome_getElem?, hlook]
    rfl
  have hcard : (insert n used).card = used.card + 1 := card_insert_of_notMem hunused
  have herased : Tracks c root (insert n used) { w with entries := w.entries.erase (root.tagAt c n) } := by
    refine ⟨h.rooted, h.bound, ?_, ?_, ?_⟩
    · intro k hk
      rcases mem_insert.mp hk with rfl | hk
      · exact hn
      · exact h.used_lt k hk
    · intro tag k
      rw [TreeMap.getElem?_erase]
      by_cases htag : root.tagAt c n = tag
      · subst htag
        simp only [if_true, reduceCtorEq, false_iff, mem_insert, not_or]
        rintro ⟨hlt, ⟨hne, -⟩, htag⟩
        have hbound := h.bound
        exact hne (hdistinct _ _ (by omega) (by omega) htag).symm
      · rw [if_neg htag, h.entries]
        constructor
        · rintro ⟨hlt, hk, rfl⟩
          refine ⟨hlt, fun hk' => ?_, rfl⟩
          rcases mem_insert.mp hk' with rfl | hk'
          · exact htag rfl
          · exact hk hk'
        · rintro ⟨hlt, hk, rfl⟩
          exact ⟨hlt, fun hk' => hk (mem_insert_of_mem hk'), rfl⟩
    · have := h.size
      have hlt : used.card + 1 ≤ w.tagSet.nextIndex := by
        rw [← hcard, ← card_range w.tagSet.nextIndex]
        refine card_le_card (insert_subset (mem_range.mpr hn) fun k hk => ?_)
        exact mem_range.mpr (h.used_lt k hk)
      simp only [Std.ExtTreeMap.size_erase, hcard]
      rw [if_pos (by simpa using hmem)]
      omega
  obtain ⟨htracks, hnext, hcap, hbase, hkeys, -⟩ := herased.refillFrom hdistinct (by simp only [hcard]; omega) rfl
  refine ⟨_, ?_, htracks, hnext, hcap, hbase, hkeys⟩
  rw [InboundTagWindow.consume, hlook]
  rfl

end InboundTagWindow

end I2pr.Ecies

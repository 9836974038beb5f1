import I2pr.Ssu2Fragments

namespace I2pr.Ssu2

open BigEndian Finset ReassemblyEntry

variable (m : OutboundMessage)

def OutboundMessage.piece (i : Nat) : List UInt8 :=
  (m.fragments[i]?.map (·.bytes)).getD []

theorem OutboundMessage.flatten_pieces :
    ((List.range m.fragments.length).map m.piece).flatten = m.fragments.flatMap (·.bytes) := by
  rw [List.flatMap_def]
  congr 1
  apply List.ext_getElem?
  intro i
  rw [List.getElem?_map, List.getElem?_map]
  by_cases hi : i < m.fragments.length
  · simp [List.getElem?_range hi, OutboundMessage.piece, List.getElem?_eq_getElem hi]
  rw [List.getElem?_eq_none (by simpa using hi), List.getElem?_eq_none (by simpa using hi)]
  rfl

variable {m} {bytes : List UInt8}

theorem SplitOf.body_ne_nil (hm : SplitOf bytes m) : m.fragments.flatMap (·.bytes) ≠ [] := by
  obtain ⟨f, fragments, hcons⟩ := List.exists_cons_of_length_pos hm.nonempty
  rw [hcons, List.flatMap_cons]
  exact List.append_ne_nil_of_left_ne_nil f.nonempty _

theorem SplitOf.id_eq (hm : SplitOf bytes m) : u32At bytes 1 = m.messageId := by
  rw [← hm.joined]
  exact (u32At_encodeMessage _ _ _ _).1

/-- An entry with the pieces `stored` of a message, and the header fields that the pieces `seen` brought. -/
structure ReassemblyEntry.Holds (e : ReassemblyEntry) (m : OutboundMessage) (seen stored : Finset Nat) : Prop where
  subset : stored ⊆ Finset.range m.fragments.length
  fragments : ∀ k : UInt8, e.fragments[k]? = if k.toNat ∈ stored then some (m.piece k.toNat) else none
  size : e.fragments.size = stored.card
  messageType : e.messageType = if 0 ∈ seen then some m.messageType else none
  expirationSecs : e.expirationSecs = if 0 ∈ seen then some m.expirationSecs else none
  total : e.total = if m.fragments.length - 1 ∈ seen then some (UInt8.ofNat m.fragments.length) else none

namespace ReassemblyEntry

variable {e : ReassemblyEntry} {stored : Finset Nat} {j : Nat}

theorem placeholder_holds (m : OutboundMessage) (nowMs : Nat) : (placeholder nowMs).Holds m ∅ ∅ := by
  constructor <;> simp [placeholder]

theorem toNat_number (hm : SplitOf bytes m) (hj : j ≤ m.fragments.length) : (UInt8.ofNat j).toNat = j := by
  have := hm.length_le
  have hmax : maxI2npFragments = 64 := rfl
  exact UInt8.toNat_ofNat_of_lt' (by change j < 256; omega)

theorem Holds.store (h : e.Holds m (insert j stored) stored) (hm : SplitOf bytes m) (hj : j < m.fragments.length)
    (hnew : j ∉ stored) (nowMs : Nat) :
    (e.store (UInt8.ofNat j) (m.piece j) nowMs).Holds m (insert j stored) (insert j stored) := by
  have hnumber := toNat_number hm hj.le
  have hfree : UInt8.ofNat j ∉ e.fragments := by
    rw [Std.ExtTreeMap.mem_iff_isSome_getElem?, h.fragments, hnumber, if_neg hnew]
    simp
  refine ⟨?_, fun k => ?_, ?_, h.messageType, h.expirationSecs, h.total⟩
  · exact insert_subset (mem_range.mpr hj) h.subset
  · rw [ReassemblyEntry.store, TreeMap.getElem?_insert]
    by_cases hk : UInt8.ofNat j = k
    · subst hk
      simp [hnumber]
    have hne : k.toNat ≠ j := fun heq => hk (UInt8.toNat_inj.mp (hnumber.trans heq.symm))
    rw [if_neg hk, h.fragments]
    simp [hne]
  · rw [ReassemblyEntry.store, Std.ExtTreeMap.size_insert, if_neg (by simpa using hfree), h.size, card_insert_of_notMem hnew]

theorem Holds.assemble (h : e.Holds m stored stored) (hm : SplitOf bytes m) :
    e.assemble m.messageId = if stored = range m.fragments.length then some bytes else none := by
  have hpos := hm.nonempty
  have htotal := toNat_number hm le_rfl
  split
  next hall =>
    have hpieces : (List.range m.fragments.length).mapM (fun number => e.fragments[UInt8.ofNat number]?) =
        some ((List.range m.fragments.length).map m.piece) := by
      refine Collect.mapM_eq_some fun i hi => ?_
      rw [List.mem_range] at hi
      rw [h.fragments, toNat_number hm hi.le, if_pos (by simp [hall, hi])]
    have hlast : m.fragments.length - 1 ∈ stored := by
      simp only [hall, mem_range]
      omega
    have hzero : 0 ∈ stored := by simp [hall, hpos]
    have hcard : stored.card = m.fragments.length := by simp [hall]
    unfold ReassemblyEntry.assemble
    rw [h.total, h.messageType, h.expirationSecs, if_pos hlast, if_pos hzero, if_pos hzero, h.size, hcard]
    simp only [Option.bind_eq_bind, Option.bind_some, htotal, ne_eq, not_true, if_false, hpieces, m.flatten_pieces]
    rw [if_neg, hm.joined]
    exact not_or_intro hm.body_ne_nil (not_lt.mpr hm.bounded)
  next hnot =>
    unfold ReassemblyEntry.assemble
    rw [h.total]
    split
    · have hfewer : e.fragments.size ≠ (UInt8.ofNat m.fragments.length).toNat := by
        rw [h.size, htotal]
        intro hcard
        exact hnot (eq_of_subset_of_card_le h.subset (by simp [hcard]))
      simp only [Option.bind_eq_bind, Option.bind_some, if_pos hfewer]
    · rfl

end ReassemblyEntry

/-- The pieces `held` of a message are what the reassembly state has under its id; none means no entry. -/
def Inbound.Keeps (i : Inbound) (m : OutboundMessage) (held : Finset Nat) : Prop :=
  (held = ∅ ∧ i.reassembly[m.messageId]? = none) ∨
    (held ≠ ∅ ∧ ∃ entry, i.reassembly[m.messageId]? = some entry ∧ entry.Holds m held held)

theorem Inbound.Keeps.entryOr {i : Inbound} {held : Finset Nat} (h : i.Keeps m held) (nowMs : Nat) :
    (i.entryOr m.messageId nowMs).Holds m held held := by
  unfold Inbound.entryOr
  rcases h with ⟨rfl, hnone⟩ | ⟨-, entry, hsome, hholds⟩
  · rw [hnone]
    exact placeholder_holds m nowMs
  · rw [hsome]
    exact hholds

namespace Ssu2Session

/-- What became of a piece of a message that is kept as `held` with it: nothing is delivered before the
last piece, and then the message is. -/
structure Placed (r : Ssu2Session) (bytes : List UInt8) (m : OutboundMessage) (held : Finset Nat) (nowMs : Nat)
    (out : Ssu2Session × List SessionEvent) : Prop where
  partly : held ≠ Finset.range m.fragments.length →
    out.2 = [] ∧ out.1.inbound.Keeps m held ∧ out.1.inbound.delivered = r.inbound.delivered
  wholly : held = Finset.range m.fragments.length → out.1.inbound.reassembly[m.messageId]? = none ∧
    (r.inbound.isDuplicate m.messageId m.expirationSecs nowMs = false → out.2 = [.i2npMessage bytes] ∧
      out.1.inbound.delivered = Inbound.remember r.inbound.delivered ⟨m.messageId, m.expirationSecs, nowMs⟩)

variable {r : Ssu2Session} {held : Finset Nat} {j nowMs : Nat}

theorem deliverCompleteMessage_message (r : Ssu2Session) (hm : SplitOf bytes m) (nowMs : Nat) :
    r.deliverCompleteMessage bytes nowMs =
      if r.inbound.isDuplicate m.messageId m.expirationSecs nowMs then (r, [])
      else ({ r with inbound := r.inbound.recordDelivered m.messageId m.expirationSecs nowMs }, [.i2npMessage bytes]) := by
  have hlong : ¬ bytes.length < 9 := by
    rw [← hm.joined, length_encodeMessage, shortTransportHeaderSize]
    omega
  obtain ⟨hid, hexpiration⟩ := u32At_encodeMessage m.messageType m.messageId m.expirationSecs
    (m.fragments.flatMap (·.bytes))
  rw [hm.joined] at hid hexpiration
  unfold deliverCompleteMessage
  rw [if_neg hlong, hid, hexpiration]

theorem dropReassembly_inbound (r : Ssu2Session) (messageId : UInt32) :
    (r.dropReassembly messageId).inbound.reassembly[messageId]? = none ∧
      (r.dropReassembly messageId).inbound.delivered = r.inbound.delivered := by
  unfold dropReassembly
  split
  next hnone => exact ⟨hnone, rfl⟩
  · exact ⟨by simp [countReassembly], rfl⟩

theorem deliver_dropped (hm : SplitOf bytes m) (u : Ssu2Session) (nowMs : Nat) :
    ((u.dropReassembly m.messageId).deliverCompleteMessage bytes nowMs).1.inbound.reassembly[m.messageId]? = none ∧
      (u.inbound.isDuplicate m.messageId m.expirationSecs nowMs = false →
        ((u.dropReassembly m.messageId).deliverCompleteMessage bytes nowMs).2 = [.i2npMessage bytes] ∧
        ((u.dropReassembly m.messageId).deliverCompleteMessage bytes nowMs).1.inbound.delivered =
          Inbound.remember u.inbound.delivered ⟨m.messageId, m.expirationSecs, nowMs⟩) := by
  obtain ⟨hnone, hdelivered⟩ := u.dropReassembly_inbound m.messageId
  have hsame : (u.dropReassembly m.messageId).inbound.isDuplicate m.messageId m.expirationSecs nowMs =
      u.inbound.isDuplicate m.messageId m.expirationSecs nowMs := by
    unfold Inbound.isDuplicate
    rw [hdelivered]
  rw [deliverCompleteMessage_message _ hm, hsame]
  cases hdup : u.inbound.isDuplicate m.messageId m.expirationSecs nowMs with
  | true => exact ⟨hnone, by simp⟩
  | false => exact ⟨hnone, fun _ => ⟨rfl, by simp [Inbound.recordDelivered, hdelivered]⟩⟩

theorem placeFragment_placed (hm : SplitOf bytes m) {entry : ReassemblyEntry}
    (h : entry.Holds m (insert j held) held) (hj : j < m.fragments.length)
    (hopen : held ≠ range m.fragments.length) (r : Ssu2Session) (nowMs : Nat) :
    r.Placed bytes m (insert j held) nowMs
      (r.placeFragment m.messageId entry (UInt8.ofNat j) (m.piece j) nowMs) := by
  have hlookup := h.fragments (UInt8.ofNat j)
  rw [toNat_number hm hj.le] at hlookup
  unfold placeFragment
  by_cases hmem : j ∈ held
  · rw [if_pos hmem] at hlookup
    rw [insert_eq_of_mem hmem] at h ⊢
    simp only [hlookup, ne_eq, not_true, if_false]
    refine ⟨fun _ => ⟨rfl, Or.inr ⟨?_, entry, ?_, h⟩, rfl⟩, fun hall => absurd hall hopen⟩
    · rintro rfl
      simp at hmem
    · simp [Inbound.setEntry]
  · rw [if_neg hmem] at hlookup
    have hstored := h.store hm hj hmem nowMs
    simp only [hlookup]
    unfold storeFragment maybeCompleteReassembly
    simp only [countReassembly, Inbound.setEntry, Std.ExtTreeMap.getElem?_insert_self, Option.bind_some,
      hstored.assemble hm]
    by_cases hall : insert j held = range m.fragments.length
    · rw [if_pos hall]
      refine ⟨fun hne => absurd hall hne, fun _ => ?_⟩
      exact deliver_dropped hm _ nowMs
    · rw [if_neg hall]
      refine ⟨fun _ => ⟨rfl, Or.inr ⟨insert_ne_empty j held, _, ?_, hstored⟩, rfl⟩, fun heq => absurd heq hall⟩
      simp

theorem ingestFirstFragment_placed (hm : SplitOf bytes m) (htwo : 2 ≤ m.fragments.length) {fragment : FirstFragmentBlock}
    (hid : fragment.messageId = m.messageId) (htype : fragment.messageType.code = m.messageType)
    (hexpiration : fragment.expirationSeconds = m.expirationSecs) (hpiece : fragment.fragment = m.piece 0)
    (hkeeps : r.inbound.Keeps m held) (hopen : held ≠ range m.fragments.length)
    (hfresh : r.inbound.isDuplicate m.messageId m.expirationSecs nowMs = false)
    (hroom : r.inbound.refuses m.messageId (m.piece 0) = false) :
    r.Placed bytes m (insert 0 held) nowMs (r.ingestFirstFragment fragment nowMs) := by
  have hentry := hkeeps.entryOr nowMs
  unfold ingestFirstFragment
  simp only [hid, hexpiration, hpiece, htype, hfresh, hroom, Bool.false_eq_true, if_false]
  have hagree : ((r.inbound.entryOr m.messageId nowMs).messageType.any (· ≠ m.messageType) ||
      ((r.inbound.entryOr m.messageId nowMs).messageType.isSome &&
        (r.inbound.entryOr m.messageId nowMs).expirationSecs ≠ some m.expirationSecs)) = false := by
    rw [hentry.messageType, hentry.expirationSecs]
    split <;> simp
  rw [if_neg (by simpa using hagree)]
  have htold : ReassemblyEntry.Holds { r.inbound.entryOr m.messageId nowMs with
      messageType := some m.messageType
      expirationSecs := some m.expirationSecs } m (insert 0 held) held := by
    refine ⟨hentry.subset, hentry.fragments, hentry.size, by simp, by simp, ?_⟩
    have : m.fragments.length - 1 ≠ 0 := by omega
    simp [this, hentry.total]
  exact placeFragment_placed hm htold (by omega) hopen r nowMs

/-- A follow-on fragment, which does not consult the delivered messages. -/
theorem ingestFollowOnFragment_placed (hm : SplitOf bytes m) (hj : j < m.fragments.length) (hpos : j ≠ 0)
    {fragment : FollowOnFragmentBlock} (hid : fragment.messageId = m.messageId)
    (hnumber : fragment.fragNumber = UInt8.ofNat j) (hlast : fragment.isLast = true ↔ j + 1 = m.fragments.length)
    (hpiece : fragment.fragment = m.piece j) (hkeeps : r.inbound.Keeps m held)
    (hopen : held ≠ range m.fragments.length)
    (hroom : r.inbound.refuses m.messageId (m.piece j) = false) (nowMs : Nat) :
    r.Placed bytes m (insert j held) nowMs (r.ingestFollowOnFragment fragment nowMs) := by
  have hentry := hkeeps.entryOr nowMs
  have hmax : maxI2npFragments = 64 := rfl
  have hle := hm.length_le
  have hcard : held.card < m.fragments.length := by
    refine lt_of_le_of_ne ?_ fun heq => hopen (eq_of_subset_of_card_le hentry.subset (by simp [heq]))
    simpa using card_le_card hentry.subset
  have hzero : 0 ∈ insert j held ↔ 0 ∈ held := by simp [Ne.symm hpos]
  unfold ingestFollowOnFragment
  simp only [hid, hpiece, hroom, hnumber, hentry.size, Bool.false_eq_true, if_false]
  rw [if_neg (by omega)]
  by_cases hend : j + 1 = m.fragments.length
  · rw [if_pos (hlast.mpr hend)]
    have htotal : UInt8.ofNat j + 1 = UInt8.ofNat m.fragments.length := by
      rw [← hend]
      apply UInt8.toNat_inj.mp
      simp
    have hnat := toNat_number hm le_rfl
    rw [htotal, hnat, if_neg]
    · have hagree : (r.inbound.entryOr m.messageId nowMs).total.any (· ≠ UInt8.ofNat m.fragments.length) = false := by
        rw [hentry.total]
        split <;> simp
      rw [if_neg (by simpa using hagree)]
      have htold : ReassemblyEntry.Holds { r.inbound.entryOr m.messageId nowMs with
          total := some (UInt8.ofNat m.fragments.length) } m (insert j held) held := by
        refine ⟨hentry.subset, hentry.fragments, hentry.size, ?_, ?_, ?_⟩
        · simp [hzero, hentry.messageType]
        · simp [hzero, hentry.expirationSecs]
        · have : m.fragments.length - 1 = j := by omega
          simp [this]
      exact placeFragment_placed hm htold hj hopen r nowMs
    · rintro (h0 | hlarge)
      · rw [h0] at hnat
        simp at hnat
        omega
      · omega
  · rw [if_neg (fun h => hend (hlast.mp h))]
    refine placeFragment_placed hm ⟨hentry.subset, hentry.fragments, hentry.size, ?_, ?_, ?_⟩ hj hopen r nowMs
    · simp [hzero, hentry.messageType]
    · simp [hzero, hentry.expirationSecs]
    · have : m.fragments.length - 1 ≠ j := by omega
      simp [this, hentry.total]

end Ssu2Session

namespace Inbound

def Unknown (i : Inbound) (messageId : UInt32) : Prop :=
  ∀ entry ∈ i.delivered, entry.messageId ≠ messageId

instance (i : Inbound) (messageId : UInt32) : Decidable (i.Unknown messageId) :=
  inferInstanceAs (Decidable (∀ entry ∈ i.delivered, entry.messageId ≠ messageId))

/-- The message was delivered at `deliveredMs`, and `others` messages at most after it. -/
def Remembers (i : Inbound) (m : OutboundMessage) (deliveredMs others : Nat) : Prop :=
  ∃ pre post, i.delivered = pre ++ ⟨m.messageId, m.expirationSecs, deliveredMs⟩ :: post ∧ post.length ≤ others

variable {i : Inbound} {messageId : UInt32} {deliveredMs others nowMs : Nat}

theorem Unknown.isDuplicate (h : i.Unknown messageId) (expirationSecs : UInt32) (nowMs : Nat) :
    i.isDuplicate messageId expirationSecs nowMs = false := by
  unfold Inbound.isDuplicate
  rw [List.any_eq_false]
  intro entry hentry
  simp [h entry hentry]

theorem Remembers.isDuplicate (h : i.Remembers m deliveredMs others)
    (hsoon : nowMs < deliveredMs + dataDupRetentionSeconds * 1000) :
    i.isDuplicate m.messageId m.expirationSecs nowMs = true := by
  obtain ⟨pre, post, hdelivered, -⟩ := h
  unfold Inbound.isDuplicate
  rw [hdelivered, List.any_eq_true]
  refine ⟨_, List.mem_append_right pre List.mem_cons_self, ?_⟩
  have hperiod : 0 < dataDupRetentionSeconds * 1000 := by decide
  have : nowMs - deliveredMs < dataDupRetentionSeconds * 1000 := by omega
  simp [this]

theorem mem_remember {delivered : List DeliveredEntry} {entry e : DeliveredEntry} (h : e ∈ remember delivered entry) :
    e ∈ delivered ∨ e = entry := by
  have hkept (delivered : List DeliveredEntry) : expireDelivered entry.deliveredMs delivered ⊆ delivered := by
    induction delivered with
    | nil => exact fun _ hx => hx
    | cons front rest ih =>
      unfold expireDelivered
      split
      · exact fun _ hx => List.mem_cons_of_mem _ (ih hx)
      · exact fun _ hx => hx
  rw [remember, List.mem_append, List.mem_singleton] at h
  rcases h with h | h
  · split at h
    · exact Or.inl (hkept delivered (List.mem_of_mem_drop h))
    · exact Or.inl (hkept delivered h)
  · exact Or.inr h

theorem expireDelivered_recent {e : DeliveredEntry} (hsoon : nowMs < e.deliveredMs + dataDupRetentionSeconds * 1000)
    (post : List DeliveredEntry) : expireDelivered nowMs (e :: post) = e :: post := by
  have hperiod : 0 < dataDupRetentionSeconds * 1000 := by decide
  unfold expireDelivered
  split
  · omega
  · rfl

/-- A delivery that is still within its period keeps its place when older ones expire. -/
theorem expireDelivered_append {e : DeliveredEntry} (hsoon : nowMs < e.deliveredMs + dataDupRetentionSeconds * 1000)
    (pre post : List DeliveredEntry) : ∃ kept, expireDelivered nowMs (pre ++ e :: post) = kept ++ e :: post := by
  induction pre with
  | nil => exact ⟨[], expireDelivered_recent hsoon post⟩
  | cons front pre ih =>
    rw [List.cons_append]
    unfold expireDelivered
    split
    · exact ih
    · exact ⟨front :: pre, rfl⟩

theorem Remembers.remember {entry : DeliveredEntry} {j : Inbound} (h : i.Remembers m deliveredMs others)
    (hdelivered : j.delivered = Inbound.remember i.delivered entry)
    (hsoon : entry.deliveredMs < deliveredMs + dataDupRetentionSeconds * 1000)
    (hroom : others + 1 < dataDupCacheEntries) : j.Remembers m deliveredMs (others + 1) := by
  obtain ⟨pre, post, hi, hpost⟩ := h
  obtain ⟨kept, hkept⟩ := expireDelivered_append (e := ⟨m.messageId, m.expirationSecs, deliveredMs⟩) hsoon pre post
  rw [Inbound.remember, hi, hkept] at hdelivered
  refine ⟨if dataDupCacheEntries ≤ (kept ++ ⟨m.messageId, m.expirationSecs, deliveredMs⟩ :: post).length
    then kept.drop 1 else kept, post ++ [entry], ?_, by simpa using hpost⟩
  rw [hdelivered]
  split
  next hfull =>
    -- what falls out of a full cache is older than the message
    cases kept with
    | nil =>
      simp only [List.nil_append, List.length_cons] at hfull
      omega
    | cons front kept => simp
  · simp

theorem Keeps.congr {j : Inbound} {held : Finset Nat} (h : i.Keeps m held)
    (heq : j.reassembly[m.messageId]? = i.reassembly[m.messageId]?) : j.Keeps m held := by
  unfold Keeps at h ⊢
  rwa [heq]

theorem Keeps.none_iff {held : Finset Nat} (h : i.Keeps m held) : i.reassembly[m.messageId]? = none ↔ held = ∅ := by
  rcases h with ⟨hempty, hnone⟩ | ⟨hne, entry, hsome, -⟩
  · exact ⟨fun _ => hempty, fun _ => hnone⟩
  · rw [hsome]
    exact ⟨fun h => by simp at h, fun h => absurd h hne⟩

/-- Nothing changes for the message id, neither its entry nor the deliveries. -/
def Apart (messageId : UInt32) (i j : Inbound) : Prop :=
  j.reassembly[messageId]? = i.reassembly[messageId]? ∧ j.delivered = i.delivered

theorem setEntry_apart (i : Inbound) {other : UInt32} (hne : other ≠ messageId) (entry : ReassemblyEntry) :
    i.Apart messageId (i.setEntry other entry) := by
  exact ⟨TreeMap.getElem?_insert_of_ne hne, rfl⟩

end Inbound

/-- The block belongs to a message of another id. -/
def DecodedBlock.OfOther (messageId : UInt32) : DecodedBlock → Prop
  | .i2np message => u32At message.bytes 1 ≠ messageId
  | .firstFragment fragment => fragment.messageId ≠ messageId
  | .followOnFragment fragment => fragment.messageId ≠ messageId
  | _ => False

namespace Ssu2Session

/-- What a block of another message does, as far as the message id goes: at most a delivery of that
other message. -/
structure OtherEffect (r : Ssu2Session) (messageId : UInt32) (nowMs : Nat) (out : Ssu2Session × List SessionEvent) :
    Prop where
  entry : out.1.inbound.reassembly[messageId]? = r.inbound.reassembly[messageId]?
  delivery : (out.2 = [] ∧ out.1.inbound.delivered = r.inbound.delivered) ∨
    ∃ encoded, u32At encoded 1 ≠ messageId ∧ out.2 = [.i2npMessage encoded] ∧
      out.1.inbound.delivered =
        Inbound.remember r.inbound.delivered ⟨u32At encoded 1, u32At encoded 5, nowMs⟩

variable {r : Ssu2Session} {messageId other : UInt32} {nowMs : Nat}

theorem OtherEffect.silent {r' : Ssu2Session} (h : r.inbound.Apart messageId r'.inbound) :
    r.OtherEffect messageId nowMs (r', []) :=
  ⟨h.1, Or.inl ⟨rfl, h.2⟩⟩

theorem OtherEffect.after {r' : Ssu2Session} {out : Ssu2Session × List SessionEvent}
    (hout : r'.OtherEffect messageId nowMs out) (h : r.inbound.Apart messageId r'.inbound) :
    r.OtherEffect messageId nowMs out := by
  obtain ⟨hentry, hdelivered⟩ := h
  obtain ⟨hentry', hdelivery⟩ := hout
  rw [hentry] at hentry'
  rw [hdelivered] at hdelivery
  exact ⟨hentry', hdelivery⟩

theorem dropReassembly_apart (r : Ssu2Session) (hne : other ≠ messageId) :
    r.inbound.Apart messageId (r.dropReassembly other).inbound := by
  unfold dropReassembly
  split
  · exact ⟨rfl, rfl⟩
  exact ⟨TreeMap.getElem?_erase_of_ne hne, rfl⟩

theorem deliverCompleteMessage_other (r : Ssu2Session) {encoded : List UInt8} (hne : u32At encoded 1 ≠ messageId)
    (nowMs : Nat) : r.OtherEffect messageId nowMs (r.deliverCompleteMessage encoded nowMs) := by
  unfold deliverCompleteMessage
  split
  · exact .silent ⟨rfl, rfl⟩
  · split
    · exact .silent ⟨rfl, rfl⟩
    · exact ⟨rfl, Or.inr ⟨encoded, hne, rfl, rfl⟩⟩

theorem assemble_id {entry : ReassemblyEntry} {encoded : List UInt8} (h : entry.assemble other = some encoded) :
    u32At encoded 1 = other := by
  unfold assemble at h
  simp only [Option.bind_eq_bind, Option.bind_eq_some_iff] at h
  obtain ⟨total, -, h⟩ := h
  split at h
  · cases h
  · simp only [Option.bind_eq_some_iff] at h
    obtain ⟨pieces, -, messageType, -, expirationSecs, -, h⟩ := h
    split at h
    · cases h
    · cases Option.some.inj h
      exact (u32At_encodeMessage messageType other expirationSecs _).1

theorem placeFragment_other (r : Ssu2Session) (hne : other ≠ messageId) (entry : ReassemblyEntry) (number : UInt8)
    (fragment : List UInt8) (nowMs : Nat) :
    r.OtherEffect messageId nowMs (r.placeFragment other entry number fragment nowMs) := by
  have hset := r.inbound.setEntry_apart hne entry
  unfold placeFragment
  split
  next existing =>
    split
    · exact OtherEffect.after (.silent (dropReassembly_apart _ hne)) hset
    · exact .silent hset
  · let r' := countReassembly { r with inbound :=
      { (r.inbound.setEntry other entry).setEntry other (entry.store number fragment nowMs) with
        reassemblyBytes := r.inbound.reassemblyBytes + fragment.length } }
    suffices r'.OtherEffect messageId nowMs (r'.maybeCompleteReassembly other nowMs) by
      have hstored := (r.inbound.setEntry other entry).setEntry_apart hne (entry.store number fragment nowMs)
      exact OtherEffect.after this ⟨hstored.1.trans hset.1, rfl⟩
    unfold maybeCompleteReassembly
    split
    · exact .silent ⟨rfl, rfl⟩
    next encoded hencoded =>
      obtain ⟨stored, -, hassemble⟩ := Option.bind_eq_some_iff.mp hencoded
      refine OtherEffect.after (deliverCompleteMessage_other _ ?_ nowMs) (dropReassembly_apart _ hne)
      rwa [assemble_id hassemble]

theorem deliverBlock_other (r : Ssu2Session) {block : DecodedBlock} (hblock : block.OfOther messageId) (nowMs : Nat) :
    r.OtherEffect messageId nowMs (r.deliverBlock nowMs block) := by
  cases block with
  | i2np message => exact deliverCompleteMessage_other r hblock nowMs
  | firstFragment fragment =>
    have hset := r.inbound.setEntry_apart hblock (r.inbound.entryOr fragment.messageId nowMs)
    simp only [deliverBlock, ingestFirstFragment]
    split
    · exact .silent ⟨rfl, rfl⟩
    · split
      · exact .silent ⟨rfl, rfl⟩
      · split
        · exact OtherEffect.after (.silent (dropReassembly_apart _ hblock)) hset
        · exact placeFragment_other r hblock _ _ _ nowMs
  | followOnFragment fragment =>
    have hset := r.inbound.setEntry_apart hblock (r.inbound.entryOr fragment.messageId nowMs)
    simp only [deliverBlock, ingestFollowOnFragment]
    split
    · exact .silent ⟨rfl, rfl⟩
    · split
      · exact .silent hset
      · split
        · split
          · exact .silent hset
          · split
            · exact OtherEffect.after (.silent (dropReassembly_apart _ hblock)) hset
            · exact placeFragment_other r hblock _ _ _ nowMs
        · exact placeFragment_other r hblock _ _ _ nowMs
  | _ => exact hblock.elim

end Ssu2Session

variable (m) in
/-- The block `fragment_to_block` makes of a fragment of the message, as the peer's parser reports it. -/
def OutboundMessage.block (index : Fin m.fragments.length) : DecodedBlock :=
  (m.retransmittable (m.fragments.get index)).toBlock.decoded

variable (m) in
theorem OutboundMessage.piece_get (index : Fin m.fragments.length) : (m.fragments.get index).bytes = m.piece index := by
  simp [OutboundMessage.piece]

theorem SplitOf.block_cases (hm : SplitOf bytes m) (index : Fin m.fragments.length) :
    (m.fragments.length = 1 ∧ ∃ b, m.block index = .i2np b ∧ b.bytes = bytes) ∨
      (2 ≤ m.fragments.length ∧ index.val = 0 ∧ ∃ b, m.block index = .firstFragment b ∧ b.messageId = m.messageId ∧
        b.messageType.code = m.messageType ∧ b.expirationSeconds = m.expirationSecs ∧ b.fragment = m.piece 0) ∨
      (2 ≤ m.fragments.length ∧ index.val ≠ 0 ∧ ∃ b, m.block index = .followOnFragment b ∧
        b.messageId = m.messageId ∧ b.fragNumber = UInt8.ofNat index ∧
        (b.isLast = true ↔ index + 1 = m.fragments.length) ∧ b.fragment = m.piece index) := by
  have hpos := hm.nonempty
  have hindex := index.isLt
  obtain ⟨hnumber, hlast, htotal⟩ := hm.numbered index (m.fragments.get index) (by simp)
  have hpiece := m.piece_get index
  have hone : (m.retransmittable (m.fragments.get index)).totalFragments ≤ 1 ↔ m.fragments.length = 1 := by
    change (m.fragments.get index).totalFragments ≤ 1 ↔ _
    rw [htotal, UInt8.le_iff_toNat_le, toNat_number hm le_rfl]
    change _ ≤ 1 ↔ _
    omega
  have hfirst : (m.retransmittable (m.fragments.get index)).fragNumber = 0 ↔ index.val = 0 := by
    change (m.fragments.get index).fragNumber = 0 ↔ _
    rw [hnumber, ← UInt8.toNat_inj, toNat_number hm hindex.le]
    rfl
  unfold OutboundMessage.block RetransmittableFragment.toBlock
  by_cases h1 : m.fragments.length = 1
  · refine Or.inl ⟨h1, ?_⟩
    rw [if_pos (hone.mpr h1)]
    refine ⟨_, rfl, ?_⟩
    have hall := hm.joined
    rw [← m.flatten_pieces, h1] at hall
    have h0 : index.val = 0 := by omega
    change encodeMessage m.messageType m.messageId m.expirationSecs (m.fragments.get index).bytes = bytes
    rw [hpiece, h0]
    simpa using hall
  · rw [if_neg (mt hone.mp h1)]
    by_cases h0 : index.val = 0
    · refine Or.inr (Or.inl ⟨by omega, h0, ?_⟩)
      rw [dif_pos (hfirst.mpr h0)]
      exact ⟨_, rfl, rfl, MessageType.code_fromCode _, rfl, hpiece.trans (by rw [h0])⟩
    · refine Or.inr (Or.inr ⟨by omega, h0, ?_⟩)
      rw [dif_neg (mt hfirst.mp h0)]
      exact ⟨_, rfl, rfl, hnumber, hlast, hpiece⟩

/-- What the peer is fed: a block of the message, or one of another message. -/
inductive Arrival (m : OutboundMessage) where
  | own (nowMs : Nat) (index : Fin m.fragments.length)
  | other (nowMs : Nat) (block : DecodedBlock) (ofOther : block.OfOther m.messageId)

namespace Arrival

def nowMs : Arrival m → Nat
  | own nowMs _ => nowMs
  | other nowMs _ _ => nowMs

def block : Arrival m → DecodedBlock
  | own _ index => m.block index
  | other _ block _ => block

def index? : Arrival m → Option Nat
  | own _ index => some index
  | other _ _ _ => none

variable (arrivals : List (Arrival m))

def indices : Finset Nat :=
  (arrivals.filterMap index?).toFinset

def Complete : Prop :=
  indices arrivals = Finset.range m.fragments.length

instance (arrivals : List (Arrival m)) : Decidable (Complete arrivals) :=
  inferInstanceAs (Decidable (indices arrivals = Finset.range m.fragments.length))

/-- No fragment but the first arrives again once the message is complete. -/
def NoLateFollowOn : Prop :=
  ∀ before nowMs index after, arrivals = before ++ own nowMs index :: after → Complete before → index.val = 0

/-- Any two arrivals are within one retention period. -/
def WithinRetention : Prop :=
  arrivals.Pairwise fun a b => b.nowMs < a.nowMs + dataDupRetentionSeconds * 1000

instance (arrivals : List (Arrival m)) : Decidable (WithinRetention arrivals) :=
  inferInstanceAs (Decidable (arrivals.Pairwise fun a b => b.nowMs < a.nowMs + dataDupRetentionSeconds * 1000))

theorem indices_append (before after : List (Arrival m)) : indices (before ++ after) = indices before ∪ indices after := by
  simp [indices]

theorem indices_own (nowMs : Nat) (index : Fin m.fragments.length) (after : List (Arrival m)) :
    indices (own nowMs index :: after) = insert index.val (indices after) := by
  simp [indices, index?]

theorem indices_other (nowMs : Nat) (block : DecodedBlock) (h : block.OfOther m.messageId) (after : List (Arrival m)) :
    indices (other nowMs block h :: after) = indices after := by
  rw [indices, List.filterMap_cons_none rfl, indices]

theorem indices_subset : indices arrivals ⊆ range m.fragments.length := by
  induction arrivals with
  | nil => simp [indices]
  | cons a arrivals ih =>
    cases a with
    | own nowMs index =>
      rw [indices_own]
      exact insert_subset (mem_range.mpr index.isLt) ih
    | other nowMs block h => rwa [indices_other]

theorem mem_indices {arrivals : List (Arrival m)} {j : Nat} :
    j ∈ indices arrivals ↔ ∃ nowMs index, own nowMs index ∈ arrivals ∧ index.val = j := by
  simp only [indices, List.mem_toFinset, List.mem_filterMap]
  constructor
  · rintro ⟨_ | _, hmem, hindex⟩
    · exact ⟨_, _, hmem, Option.some.inj hindex⟩
    · cases hindex
  · rintro ⟨nowMs, index, hmem, rfl⟩
    exact ⟨_, hmem, rfl⟩

theorem Complete.mono {before arrivals : List (Arrival m)} (h : Complete before) (hinitial : before <+: arrivals) :
    Complete arrivals := by
  obtain ⟨rest, rfl⟩ := hinitial
  unfold Complete at h ⊢
  rw [indices_append, h]
  exact union_eq_left.mpr (indices_subset rest)

theorem noLateFollowOn_iff {before after : List (Arrival m)} {last : Arrival m} (hbefore : ¬ Complete before)
    (hlast : Complete (before ++ [last])) :
    NoLateFollowOn (before ++ last :: after) ↔ (indices after).erase 0 = ∅ := by
  rw [eq_empty_iff_forall_notMem]
  constructor
  · intro h j hj
    obtain ⟨hne, hmem⟩ := mem_erase.mp hj
    obtain ⟨nowMs, index, hown, rfl⟩ := mem_indices.mp hmem
    obtain ⟨between, rest, rfl⟩ := List.append_of_mem hown
    exact hne (h (before ++ last :: between) nowMs index rest (by simp)
      (hlast.mono ⟨between, by simp⟩))
  · intro h past nowMs index rest heq hpast
    by_contra hne
    refine h index.val (mem_erase.mpr ⟨hne, mem_indices.mpr ⟨nowMs, index, ?_, rfl⟩⟩)
    rcases List.append_eq_append_iff.mp heq with ⟨between, rfl, htail⟩ | ⟨between, rfl, htail⟩
    · cases between with
      | nil => exact absurd (by simpa using hpast) hbefore
      | cons a between =>
        rw [List.cons_append, List.cons.injEq] at htail
        rw [htail.2]
        simp
    · exact absurd (hpast.mono ⟨between, rfl⟩) hbefore

theorem exists_last {held : Finset Nat} (hopen : held ≠ range m.fragments.length) (arrivals : List (Arrival m))
    (hall : held ∪ indices arrivals = range m.fragments.length) :
    ∃ before nowMs index after, arrivals = before ++ own nowMs index :: after ∧
      held ∪ indices before ≠ range m.fragments.length ∧
      insert index.val (held ∪ indices before) = range m.fragments.length := by
  induction arrivals generalizing held with
  | nil => simp [indices, hopen] at hall
  | cons a arrivals ih =>
    cases a with
    | own nowMs index =>
      by_cases hlast : insert index.val held = range m.fragments.length
      · exact ⟨[], nowMs, index, arrivals, rfl, by simpa [indices] using hopen, by simpa [indices] using hlast⟩
      rw [indices_own, union_insert, ← insert_union] at hall
      obtain ⟨before, nowMs', index', after, rfl, hbefore, hdone⟩ := ih hlast hall
      refine ⟨own nowMs index :: before, nowMs', index', after, rfl, ?_, ?_⟩ <;>
        rwa [indices_own, union_insert, ← insert_union]
    | other nowMs block h =>
      rw [indices_other] at hall
      obtain ⟨before, nowMs', index', after, rfl, hbefore, hdone⟩ := ih hopen hall
      refine ⟨other nowMs block h :: before, nowMs', index', after, rfl, ?_, ?_⟩ <;> rwa [indices_other]

end Arrival

namespace Ssu2Session

open Arrival

def feed (r : Ssu2Session) (a : Arrival m) : Ssu2Session × List SessionEvent :=
  r.deliverBlock a.nowMs a.block

def feedAll : Ssu2Session → List (Arrival m) → Ssu2Session × List SessionEvent
  | r, [] => (r, [])
  | r, a :: arrivals => ((r.feed a).1.feedAll arrivals).map id ((r.feed a).2 ++ ·)

/-- The reassembly quotas refuse no fragment of the message in the state it meets. -/
def RoomAlong : Ssu2Session → List (Arrival m) → Prop
  | _, [] => True
  | r, a :: arrivals =>
    (2 ≤ m.fragments.length → ∀ index ∈ a.index?, r.inbound.refuses m.messageId (m.piece index) = false) ∧
      (r.feed a).1.RoomAlong arrivals

theorem feedAll_append (r : Ssu2Session) (before after : List (Arrival m)) : r.feedAll (before ++ after) =
      (((r.feedAll before).1.feedAll after).1, (r.feedAll before).2 ++ ((r.feedAll before).1.feedAll after).2) := by
  induction before generalizing r with
  | nil => simp [feedAll]
  | cons a before ih => simp [feedAll, ih]

theorem roomAlong_append {r : Ssu2Session} {before after : List (Arrival m)} :
    r.RoomAlong (before ++ after) ↔ r.RoomAlong before ∧ (r.feedAll before).1.RoomAlong after := by
  induction before generalizing r with
  | nil => simp [feedAll, RoomAlong]
  | cons a before ih => simp [feedAll, RoomAlong, ih, and_assoc]

/-- Before the message is complete: what arrived of it is kept, and it is not known as delivered. -/
structure Collecting (r : Ssu2Session) (m : OutboundMessage) (held : Finset Nat) : Prop where
  keeps : r.inbound.Keeps m held
  unknown : r.inbound.Unknown m.messageId

/-- After the message was delivered: it is remembered, and an entry can only come from follow-on fragments. -/
structure Finished (r : Ssu2Session) (m : OutboundMessage) (held : Finset Nat) (deliveredMs others : Nat) : Prop where
  keeps : r.inbound.Keeps m held
  noFirst : 0 ∉ held
  remembers : r.inbound.Remembers m deliveredMs others

variable {r : Ssu2Session} {bytes : List UInt8} {held : Finset Nat} {nowMs deliveredMs others : Nat}
  {index : Fin m.fragments.length}

theorem Collecting.placed (h : r.Collecting m held) (hm : SplitOf bytes m) (hopen : held ≠ range m.fragments.length)
    (hroom : 2 ≤ m.fragments.length → r.inbound.refuses m.messageId (m.piece index) = false) (nowMs : Nat) :
    r.Placed bytes m (insert index.val held) nowMs (r.deliverBlock nowMs (m.block index)) := by
  have hfresh := h.unknown.isDuplicate m.expirationSecs nowMs
  rcases hm.block_cases index with ⟨hone, b, hb, hbytes⟩ | ⟨htwo, hzero, b, hb, hid, htype, hexp, hpiece⟩ |
    ⟨htwo, hpos, b, hb, hid, hnumber, hlast, hpiece⟩
  · have hempty : held = ∅ := by
      have hsub := (h.keeps.entryOr nowMs).subset
      rw [hone, range_one, subset_singleton_iff] at hsub
      rw [hone, range_one] at hopen
      exact hsub.resolve_right hopen
    have hall : insert index.val held = range m.fragments.length := by
      have := index.isLt
      rw [hempty, show index.val = 0 by omega, hone]
      rfl
    refine ⟨fun hne => absurd hall hne, fun _ => ?_⟩
    rw [hb, deliverBlock, hbytes, deliverCompleteMessage_message r hm, hfresh]
    exact ⟨h.keeps.none_iff.mpr hempty, fun _ => ⟨rfl, rfl⟩⟩
  · rw [hb, hzero]
    rw [hzero] at hroom
    exact ingestFirstFragment_placed hm htwo hid htype hexp hpiece h.keeps hopen hfresh (hroom htwo)
  · rw [hb]
    exact ingestFollowOnFragment_placed hm index.isLt hpos hid hnumber hlast hpiece h.keeps hopen (hroom htwo) nowMs

/-- A fragment repeated after its message was delivered: the first one is recognised, the others are kept. -/
theorem Finished.repeated (h : r.Finished m held deliveredMs others) (hm : SplitOf bytes m)
    (hsoon : nowMs < deliveredMs + dataDupRetentionSeconds * 1000)
    (hroom : 2 ≤ m.fragments.length → r.inbound.refuses m.messageId (m.piece index) = false) :
    (r.deliverBlock nowMs (m.block index)).2 = [] ∧
      (r.deliverBlock nowMs (m.block index)).1.Finished m
        (if index.val = 0 then held else insert index.val held) deliveredMs others := by
  have hknown := h.remembers.isDuplicate hsoon
  rcases hm.block_cases index with ⟨hone, b, hb, hbytes⟩ | ⟨htwo, hzero, b, hb, hid, htype, hexp, hpiece⟩ |
    ⟨htwo, hpos, b, hb, hid, hnumber, hlast, hpiece⟩
  · have hzero : index.val = 0 := by
      have := index.isLt
      omega
    rw [hb, deliverBlock, hbytes, deliverCompleteMessage_message r hm, hknown, if_pos hzero]
    exact ⟨rfl, h⟩
  · rw [hb, deliverBlock, ingestFirstFragment, if_pos hzero]
    simp only [hid, hexp, hknown, if_true]
    exact ⟨trivial, h⟩
  · have hopen (held : Finset Nat) (hno : 0 ∉ held) : held ≠ range m.fragments.length := by
      rintro rfl
      exact hno (mem_range.mpr hm.nonempty)
    have hno : 0 ∉ insert index.val held := by simp [Ne.symm hpos, h.noFirst]
    rw [hb, if_neg hpos]
    obtain ⟨hevents, hkeeps, hdelivered⟩ := (ingestFollowOnFragment_placed hm index.isLt hpos hid
      hnumber hlast hpiece h.keeps (hopen held h.noFirst) (hroom htwo) nowMs).partly (hopen _ hno)
    refine ⟨hevents, hkeeps, hno, ?_⟩
    obtain ⟨pre, post, hr, hpost⟩ := h.remembers
    exact ⟨pre, post, hdelivered.trans hr, hpost⟩

variable {out : Ssu2Session × List SessionEvent}

theorem Collecting.other (h : r.Collecting m held)
    (hout : r.OtherEffect m.messageId nowMs out) : out.1.Collecting m held := by
  refine ⟨h.keeps.congr hout.entry, fun entry hentry => ?_⟩
  rcases hout.delivery with ⟨-, hsame⟩ | ⟨encoded, hid, -, hmore⟩
  · exact h.unknown entry (hsame ▸ hentry)
  · rcases Inbound.mem_remember (hmore ▸ hentry) with hold | rfl
    · exact h.unknown entry hold
    · exact hid

def otherDeliveries (bytes : List UInt8) (events : List SessionEvent) : Nat :=
  events.countP (· ≠ .i2npMessage bytes)

theorem OtherEffect.events (hout : r.OtherEffect m.messageId nowMs out)
    (hm : SplitOf bytes m) : .i2npMessage bytes ∉ out.2 ∧ otherDeliveries bytes out.2 = out.2.length := by
  have hne (encoded : List UInt8) (hid : u32At encoded 1 ≠ m.messageId) : encoded ≠ bytes := by
    rintro rfl
    exact hid hm.id_eq
  rcases hout.delivery with ⟨hnone, -⟩ | ⟨encoded, hid, hone, -⟩
  · simp [hnone, otherDeliveries]
  · simp [hone, otherDeliveries, hne encoded hid, Ne.symm (hne encoded hid)]

theorem Finished.other (h : r.Finished m held deliveredMs others)
    (hout : r.OtherEffect m.messageId nowMs out) (hsoon : nowMs < deliveredMs + dataDupRetentionSeconds * 1000)
    (hroom : others + out.2.length < dataDupCacheEntries) :
    out.1.Finished m held deliveredMs (others + out.2.length) := by
  refine ⟨h.keeps.congr hout.entry, h.noFirst, ?_⟩
  rcases hout.delivery with ⟨hnone, hsame⟩ | ⟨encoded, hid, hone, hmore⟩
  · obtain ⟨pre, post, hr, hpost⟩ := h.remembers
    exact ⟨pre, post, hsame.trans hr, by simpa [hnone] using hpost⟩
  · rw [hone] at hroom ⊢
    exact h.remembers.remember hmore hsoon hroom

variable {arrivals : List (Arrival m)}

/-- The run before completion: the indices add up and nothing is delivered. -/
theorem Collecting.feedAll (h : r.Collecting m held) (hm : SplitOf bytes m)
    (hopen : held ∪ indices arrivals ≠ range m.fragments.length) (hroom : r.RoomAlong arrivals) :
    (r.feedAll arrivals).1.Collecting m (held ∪ indices arrivals) ∧ .i2npMessage bytes ∉ (r.feedAll arrivals).2 := by
  induction arrivals generalizing r held with
  | nil => exact ⟨by simpa [Ssu2Session.feedAll, indices] using h, by simp [Ssu2Session.feedAll]⟩
  | cons a arrivals ih =>
    obtain ⟨hfirst, hrest⟩ := hroom
    simp only [Ssu2Session.feedAll, Prod.map_fst, Prod.map_snd, id_eq, List.mem_append, not_or]
    cases a with
    | own nowMs index =>
      rw [indices_own, union_insert, ← insert_union] at hopen ⊢
      have hmore : insert index.val held ≠ range m.fragments.length := by
        intro heq
        rw [heq] at hopen
        exact hopen (union_eq_left.mpr (indices_subset arrivals))
      have hnow : held ≠ range m.fragments.length := by
        rintro rfl
        exact hmore (insert_eq_of_mem (mem_range.mpr index.isLt))
      obtain ⟨hevents, hkeeps, hdelivered⟩ := (h.placed hm hnow (fun htwo => hfirst htwo index.val rfl) nowMs).partly hmore
      have hnext : (r.feed (own nowMs index)).1.Collecting m (insert index.val held) :=
        ⟨hkeeps, fun entry hentry => h.unknown entry (hdelivered ▸ hentry)⟩
      obtain ⟨hlater, hnone⟩ := ih hnext hopen hrest
      exact ⟨hlater, by simp [feed, Arrival.nowMs, Arrival.block, hevents], hnone⟩
    | other nowMs block hblock =>
      rw [indices_other] at hopen ⊢
      have hout := r.deliverBlock_other hblock nowMs
      obtain ⟨hlater, hnone⟩ := ih (h.other hout) hopen hrest
      exact ⟨hlater, (hout.events hm).1, hnone⟩

theorem Finished.feedAll (h : r.Finished m held deliveredMs others) (hm : SplitOf bytes m)
    (hsoon : ∀ a ∈ arrivals, a.nowMs < deliveredMs + dataDupRetentionSeconds * 1000)
    (hothers : others + otherDeliveries bytes (r.feedAll arrivals).2 < dataDupCacheEntries)
    (hroom : r.RoomAlong arrivals) :
    (r.feedAll arrivals).1.inbound.Keeps m (held ∪ (indices arrivals).erase 0) ∧
      .i2npMessage bytes ∉ (r.feedAll arrivals).2 := by
  induction arrivals generalizing r held others with
  | nil => exact ⟨by simpa [Ssu2Session.feedAll, indices] using h.keeps, by simp [Ssu2Session.feedAll]⟩
  | cons a arrivals ih =>
    obtain ⟨hfirst, hrest⟩ := hroom
    have hnow := hsoon a List.mem_cons_self
    have hlater := fun b hb => hsoon b (List.mem_cons_of_mem a hb)
    simp only [Ssu2Session.feedAll, Prod.map_fst, Prod.map_snd, id_eq, List.mem_append, not_or, otherDeliveries,
      List.countP_append] at hothers ⊢
    cases a with
    | own nowMs index =>
      obtain ⟨hevents, hnext⟩ := h.repeated hm hnow fun htwo => hfirst htwo index.val rfl
      have hsilent : (r.feed (own nowMs index)).2 = [] := hevents
      rw [hsilent, List.countP_nil, Nat.zero_add] at hothers
      rw [hsilent]
      obtain ⟨hkeeps, hnone⟩ := ih hnext hlater hothers hrest
      refine ⟨?_, by simp, hnone⟩
      rw [indices_own]
      split at hkeeps
      next hzero => rwa [hzero, erase_insert_eq_erase]
      next hpos => rwa [erase_insert_of_ne hpos, union_insert, ← insert_union]
    | other nowMs block hblock =>
      have hout := r.deliverBlock_other hblock nowMs
      obtain ⟨hnot, hcount⟩ := hout.events hm
      rw [indices_other]
      have hmore : others + (r.deliverBlock nowMs block).2.length + otherDeliveries bytes
          ((r.deliverBlock nowMs block).1.feedAll arrivals).2 < dataDupCacheEntries := by
        rw [← hcount, Nat.add_assoc]
        exact hothers
      obtain ⟨hkeeps, hnone⟩ := ih (h.other hout hnow (by omega)) hlater hmore hrest
      exact ⟨hkeeps, hnot, hnone⟩

/-- Exactly one event with the message's bytes, at the arrival of its last missing fragment. -/
def DeliversOnce (r : Ssu2Session) (bytes : List UInt8) (arrivals : List (Arrival m)) : Prop :=
  ∃ before last after, arrivals = before ++ last :: after ∧ ¬ Complete before ∧ Complete (before ++ [last]) ∧
    .i2npMessage bytes ∉ (r.feedAll before).2 ∧
    ((r.feedAll before).1.feed last).2 = [.i2npMessage bytes] ∧
    .i2npMessage bytes ∉ (((r.feedAll before).1.feed last).1.feedAll after).2

/-- A message that `queue_i2np_message` cut arrives whole and once at a peer that does not know it, in
whatever order its blocks come and however often. No entry remains exactly when no follow-on fragment is
repeated after completion. -/
theorem queuedMessage_arrives {s t : Ssu2Session} {messageId : UInt32}
    (hqueue : s.queueI2npMessage bytes = .ok (t, messageId)) (hlast : t.send.outbound = s.send.outbound ++ [m])
    (hentry : r.inbound.reassembly[m.messageId]? = none) (hunknown : r.inbound.Unknown m.messageId)
    {arrivals : List (Arrival m)} (hall : Complete arrivals) (hroom : r.RoomAlong arrivals)
    (htimes : WithinRetention arrivals) (hothers : otherDeliveries bytes (r.feedAll arrivals).2 < dataDupCacheEntries) :
    r.DeliversOnce bytes arrivals ∧
      ((r.feedAll arrivals).1.inbound.reassembly[m.messageId]? = none ↔ NoLateFollowOn arrivals) := by
  have hm : SplitOf bytes m := by
    obtain ⟨m', hsplit, -, rfl⟩ := queueI2npMessage_split hqueue
    cases (List.append_cancel_left hlast)
    exact hsplit
  have hstart : r.Collecting m ∅ := ⟨Or.inl ⟨rfl, hentry⟩, hunknown⟩
  have hne : (∅ : Finset Nat) ≠ range m.fragments.length := by
    intro heq
    have hzero : 0 ∈ range m.fragments.length := mem_range.mpr hm.nonempty
    rw [← heq] at hzero
    simp at hzero
  obtain ⟨before, nowMs, index, after, rfl, hbefore, hdone⟩ := exists_last hne arrivals
    ((empty_union _).trans hall)
  obtain ⟨hroomBefore, hroomLast, hroomAfter⟩ := roomAlong_append.mp hroom
  obtain ⟨hcollecting, hnone⟩ := hstart.feedAll hm hbefore hroomBefore
  have hplaced := hcollecting.placed hm hbefore (fun htwo => hroomLast htwo index.val rfl) nowMs
  obtain ⟨hgone, hdelivery⟩ := hplaced.wholly hdone
  obtain ⟨hevents, hdelivered⟩ := hdelivery (hcollecting.unknown.isDuplicate _ _)
  have hfinished : ((r.feedAll before).1.feed (own nowMs index)).1.Finished m ∅ nowMs 0 := by
    refine ⟨Or.inl ⟨rfl, hgone⟩, by simp, ?_⟩
    rw [Inbound.remember] at hdelivered
    exact ⟨_, [], hdelivered, le_rfl⟩
  have hsoon : ∀ a ∈ after, a.nowMs < nowMs + dataDupRetentionSeconds * 1000 :=
    (List.pairwise_cons.mp (List.pairwise_append.mp htimes).2.1).1
  rw [feedAll_append] at hothers ⊢
  simp only [Ssu2Session.feedAll, otherDeliveries, Prod.map_fst, Prod.map_snd, id_eq, List.countP_append] at hothers ⊢
  obtain ⟨hkeeps, hnone'⟩ := hfinished.feedAll hm hsoon (by unfold otherDeliveries; omega) hroomAfter
  have hopen : ¬ Complete before := by simpa [Complete] using hbefore
  have hcomplete : Complete (before ++ [own nowMs index]) := by
    rw [Complete, indices_append, indices_own, ← hdone]
    simp [indices]
  refine ⟨⟨before, own nowMs index, after, rfl, hopen, hcomplete, hnone, hevents, hnone'⟩, ?_⟩
  rw [noLateFollowOn_iff hopen hcomplete, hkeeps.none_iff, empty_union]

end Ssu2Session

def smallSession : Ssu2Session :=
  let config := SessionConfig.sample 0
  .start { config with maxPayloadBytes := 128 } .sample

def twoPartBytes : List UInt8 :=
  [1, 0, 0, 0, 7, 0, 0, 0, 9] ++ List.replicate 65 42

def twoPartMessage : OutboundMessage where
  messageId := 7
  messageType := 1
  expirationSecs := 9
  fragments := [⟨0, false, 2, List.replicate 64 42, by decide, by decide, by decide⟩,
    ⟨1, true, 2, [42], by decide, by decide, by decide⟩]
  inFlight := 0

theorem smallSession_queues : ∃ t, smallSession.queueI2npMessage twoPartBytes = .ok (t, 7) ∧
    t.send.outbound = smallSession.send.outbound ++ [twoPartMessage] :=
  ⟨_, rfl, rfl⟩

/-- Both fragments, the last one first, and another message between them. -/
def twoPartArrivals : List (Arrival twoPartMessage) :=
  [.own 10 ⟨1, by decide⟩, .other 15 (.i2np ⟨[1, 0, 0, 0, 8, 0, 0, 0, 9, 5], by decide, by decide⟩)
      (show u32At [1, 0, 0, 0, 8, 0, 0, 0, 9, 5] 1 ≠ 7 by decide),
    .own 20 ⟨0, by decide⟩, .own 30 ⟨0, by decide⟩]

/-- The same with the follow-on fragment once more. -/
def lateArrivals : List (Arrival twoPartMessage) :=
  twoPartArrivals ++ [.own 40 ⟨1, by decide⟩]

theorem lateArrivals_leaves_entry : (∃ t, smallSession.queueI2npMessage twoPartBytes = .ok (t, 7) ∧
      t.send.outbound = smallSession.send.outbound ++ [twoPartMessage]) ∧
    peerSession.inbound.reassembly[twoPartMessage.messageId]? = none ∧
    peerSession.inbound.Unknown twoPartMessage.messageId ∧ Arrival.Complete lateArrivals ∧
    peerSession.RoomAlong lateArrivals ∧ Arrival.WithinRetention lateArrivals ∧
    Ssu2Session.otherDeliveries twoPartBytes (peerSession.feedAll lateArrivals).2 < dataDupCacheEntries ∧
    (peerSession.feedAll lateArrivals).1.inbound.reassembly[twoPartMessage.messageId]?.isSome := by
  refine ⟨smallSession_queues, ?_, ?_, ?_, ⟨?_, ?_, ?_, ?_, ?_, trivial⟩, ?_, ?_, ?_⟩
  all_goals decide +kernel

namespace Ssu2Session

theorem queuedMessage_arrives_two_parts : peerSession.DeliversOnce twoPartBytes twoPartArrivals ∧
    ((peerSession.feedAll twoPartArrivals).1.inbound.reassembly[twoPartMessage.messageId]? = none ↔
      Arrival.NoLateFollowOn twoPartArrivals) := by
  obtain ⟨t, hqueue, hlast⟩ := smallSession_queues
  refine queuedMessage_arrives hqueue hlast ?_ ?_ ?_ ⟨?_, ?_, ?_, ?_, trivial⟩ ?_ ?_
  all_goals decide +kernel

end Ssu2Session

end I2pr.Ssu2

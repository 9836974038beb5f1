import I2pr.ReassemblyOrder

namespace I2pr

open Fallible PartialMessage TreeMap

variable {r : BoundedReassembler} {key : ReassemblyKey} {fragment : TunnelFragment} {delivery : Option DeliveryInstruction}

theorem PartialMessage.apply_ok {p next : PartialMessage} (h : p.apply fragment delivery = .ok next) :
    next.bytes = p.bytes + fragment.body.length ∧ next.bytes ≤ maxReassemblyBytesPerMessage ∧
      next.received = p.received.insert fragment.sequence fragment.body := by
  obtain ⟨hlimit, h⟩ := ite_error_eq_ok.mp h
  cases fragment with
  | unfragmented body | first id body | followOn id sequence isLast body =>
    cases h
    exact ⟨rfl, not_lt.mp hlimit, rfl⟩

/-- The bytes of an entry are those of its fragments, within the limit of one message. -/
structure PartialMessage.Accounted (p : PartialMessage) : Prop where
  bytes : p.bytes = TreeMap.total (fun _ body => body.length) p.received
  limit : p.bytes ≤ maxReassemblyBytesPerMessage

theorem PartialMessage.accounted_new (nowMs : Nat) : (new nowMs).Accounted :=
  ⟨by simp [new], Nat.zero_le _⟩

theorem PartialMessage.Accounted.apply {p next : PartialMessage} (hp : p.Accounted)
    (hnew : fragment.sequence ∉ p.received)
    (h : p.apply fragment delivery = .ok next) : next.Accounted := by
  obtain ⟨hbytes, hlimit, hreceived⟩ := apply_ok h
  refine ⟨?_, hlimit⟩
  rw [hbytes, hreceived, total_insert hnew, hp.bytes]

namespace BoundedReassembler

def insert (r : BoundedReassembler) (key : ReassemblyKey) (fragment : TunnelFragment) :
    BoundedReassembler × Except ReassemblyError (Option (List UInt8)) :=
  let out := r.insertWithDelivery key fragment none
  (out.1, out.2.map fun completed => completed.map ReassembledFragment.message)

def purge (r : BoundedReassembler) : BoundedReassembler :=
  { r with partials := ∅, aggregateBytes := 0 }

inductive Operation where
  | insert (key : ReassemblyKey) (fragment : TunnelFragment)
  | insertWithDelivery (key : ReassemblyKey) (fragment : TunnelFragment) (delivery : Option DeliveryInstruction)
  | setNow (nowMs : Nat)
  | expireDue
  | purge

def perform (r : BoundedReassembler) : Operation → BoundedReassembler
  | .insert key fragment => (r.insert key fragment).1
  | .insertWithDelivery key fragment delivery => (r.insertWithDelivery key fragment delivery).1
  | .setNow nowMs => r.setNow nowMs
  | .expireDue => r.expireDue
  | .purge => r.purge

def afterOperations (r : BoundedReassembler) (operations : List Operation) : BoundedReassembler :=
  operations.foldl perform r

def Entry (r : BoundedReassembler) (key : ReassemblyKey) (p : PartialMessage) : Prop :=
  r.partials[key]? = some p ∨
    r.partials[key]? = none ∧ p = .new r.nowMs ∧ r.partials.size < r.capacity

/-- Everything an insertion can do, once the expired entries are gone. -/
inductive Outcome (r : BoundedReassembler) (key : ReassemblyKey) (fragment : TunnelFragment)
    (delivery : Option DeliveryInstruction) :
    BoundedReassembler × Except ReassemblyError (Option ReassembledFragment) → Prop
  | unchanged {result} : Outcome r key fragment delivery (r, result)
  | dropped {error} : Outcome r key fragment delivery (r.dropPartial key, .error error)
  | completed {p next message} (hentry : r.Entry key p)
    (hnew : p.classify fragment delivery = .ok (.inserted fragment.body.length))
    (hbudget : r.aggregateBytes + fragment.body.length ≤ r.aggregateBytesMax)
    (happly : { p with lastTouchedMs := r.nowMs }.apply fragment delivery = .ok next) :
    Outcome r key fragment delivery
      ({ r with partials := r.partials.erase key, aggregateBytes := r.aggregateBytes + fragment.body.length - next.bytes },
        .ok (some ⟨message, next.firstDelivery⟩))
  | retained {p next} (hentry : r.Entry key p)
    (hnew : p.classify fragment delivery = .ok (.inserted fragment.body.length))
    (hbudget : r.aggregateBytes + fragment.body.length ≤ r.aggregateBytesMax)
    (happly : { p with lastTouchedMs := r.nowMs }.apply fragment delivery = .ok next) :
    Outcome r key fragment delivery
      ({ r with partials := r.partials.insert key next, aggregateBytes := r.aggregateBytes + fragment.body.length }, .ok none)

variable {p next : PartialMessage}

theorem classify_new (nowMs : Nat) (h : ∀ body, fragment ≠ .unfragmented body) :
    (PartialMessage.new nowMs).classify fragment delivery = classifyNewPartial fragment delivery := by
  cases fragment with
  | unfragmented body => exact absurd rfl (h body)
  | first id body | followOn id sequence isLast body => simp [PartialMessage.new, PartialMessage.classify, classifyNewPartial]

theorem classify_inserted {added : Nat}
    (h : p.classify fragment delivery = .ok (.inserted added)) :
    added = fragment.body.length ∧ fragment.sequence ∉ p.received := by
  cases fragment with
  | unfragmented body =>
    rw [classify] at h
    split at h
    · obtain ⟨-, h⟩ := ite_error_eq_ok.mp h
      cases h
    next hnone =>
      cases h
      exact ⟨rfl, notMem_of_getElem? hnone⟩
  | first id body =>
    rw [classify] at h
    split at h
    · obtain ⟨-, h⟩ := ite_error_eq_ok.mp h
      obtain ⟨-, h⟩ := ite_error_eq_ok.mp h
      cases h
    next hnone =>
      cases h
      exact ⟨rfl, notMem_of_getElem? hnone⟩
  | followOn id sequence isLast body =>
    obtain ⟨-, h⟩ := ite_error_eq_ok.mp h
    obtain ⟨-, h⟩ := ite_error_eq_ok.mp h
    split at h
    · obtain ⟨-, h⟩ := ite_error_eq_ok.mp h
      obtain ⟨-, h⟩ := ite_error_eq_ok.mp h
      cases h
    next hnone =>
      obtain ⟨-, h⟩ := ite_error_eq_ok.mp h
      cases h
      exact ⟨rfl, notMem_of_getElem? hnone⟩

theorem admitFragment_outcome {disposition : FragmentInsertDisposition} (hentry : r.Entry key p)
    (h : p.classify fragment delivery = .ok disposition) :
    Outcome r key fragment delivery (r.admitFragment key p fragment delivery disposition) := by
  unfold admitFragment
  split
  · exact .unchanged
  next added =>
    obtain ⟨rfl, -⟩ := classify_inserted h
    split
    · exact .unchanged
    next hbudget =>
      split
      · exact .dropped
      next next happly =>
        dsimp only
        split
        · exact .completed hentry h (not_lt.mp hbudget) happly
        · exact .retained hentry h (not_lt.mp hbudget) happly

theorem classifyAndAdmit_outcome (h : ∀ body, fragment ≠ .unfragmented body) :
    Outcome r key fragment delivery (r.classifyAndAdmit key fragment delivery) := by
  unfold classifyAndAdmit
  split
  next p hp =>
    split
    · exact .dropped
    next hclassify => exact admitFragment_outcome (.inl hp) hclassify
  next hnone =>
    split
    · exact .unchanged
    next hroom =>
      split
      · exact .unchanged
      next hclassify =>
        rw [← classify_new r.nowMs h] at hclassify
        exact admitFragment_outcome (.inr ⟨hnone, rfl, not_le.mp hroom⟩) hclassify

theorem insertWithDelivery_outcome (r : BoundedReassembler) (key : ReassemblyKey) (fragment : TunnelFragment)
    (delivery : Option DeliveryInstruction) :
    (∃ result, r.insertWithDelivery key fragment delivery = (r, result)) ∨
      Outcome r.expireDue key fragment delivery (r.insertWithDelivery key fragment delivery) := by
  unfold insertWithDelivery
  split
  · exact .inl ⟨_, rfl⟩
  next hfragmented =>
    split
    · exact .inl ⟨_, rfl⟩
    · exact .inr (classifyAndAdmit_outcome hfragmented)

def heldBytes (_ : ReassemblyKey) (p : PartialMessage) : Nat := p.bytes

structure Accounted (r : BoundedReassembler) : Prop where
  partials : ∀ (key : ReassemblyKey) p, r.partials[key]? = some p → p.Accounted
  aggregate : r.aggregateBytes = TreeMap.total heldBytes r.partials
  capacity : r.partials.size ≤ r.capacity
  budget : r.aggregateBytes ≤ r.aggregateBytesMax

theorem accounted_new (capacity aggregateBytesMax expiryMs nowMs : Nat) :
    (new capacity aggregateBytesMax expiryMs nowMs).Accounted where
  partials := by simp [new]
  aggregate := by simp [new]
  capacity := by simp [new]
  budget := Nat.zero_le _

theorem getElem?_expireDue (h : r.expireDue.partials[key]? = some p) : r.partials[key]? = some p :=
  getElem?_of_eraseAll h

theorem getElem?_expireDue_of_fresh (h : r.partials[key]? = some p)
    (hfresh : r.nowMs - p.lastTouchedMs < r.expiryMs) : r.expireDue.partials[key]? = some p := by
  refine (getElem?_eraseAll_of_notMem ?_).trans h
  rintro ⟨k, q⟩ hdue rfl
  obtain ⟨hmem, hold⟩ := List.mem_filter.mp hdue
  rw [Std.ExtTreeMap.mem_toList_iff_getElem?_eq_some.mp hmem] at h
  cases h
  have hold := of_decide_eq_true hold
  dsimp only at hold
  omega

section

variable (h : r.Accounted)
include h

theorem Accounted.expireDue : r.expireDue.Accounted := by
  have hdue := (pairwise_toList r.partials).filter fun e => decide (r.expiryMs ≤ r.nowMs - e.2.lastTouchedMs)
  have hheld : ∀ e ∈ r.partials.toList.filter fun e => decide (r.expiryMs ≤ r.nowMs - e.2.lastTouchedMs),
      r.partials[e.1]? = some e.2 :=
    fun e he => Std.ExtTreeMap.mem_toList_iff_getElem?_eq_some.mp (List.mem_of_mem_filter he)
  have htotal := h.aggregate.trans (total_eraseAll hdue hheld)
  refine ⟨fun k p hp => h.partials k p (getElem?_expireDue hp), ?_, ?_, ?_⟩
  · exact Nat.sub_eq_of_eq_add htotal
  · refine le_trans (size_le_size fun k hk => ?_) h.capacity
    obtain ⟨p, hp⟩ := Option.isSome_iff_exists.mp (Std.ExtTreeMap.mem_iff_isSome_getElem?.mp hk)
    exact mem_of_getElem? (getElem?_expireDue hp)
  · exact (Nat.sub_le ..).trans h.budget

theorem Accounted.erase (hp : r.partials[key]? = some p) :
    Accounted { r with partials := r.partials.erase key, aggregateBytes := r.aggregateBytes - p.bytes } := by
  have htotal := h.aggregate.trans (total_erase hp)
  refine ⟨fun k q hq => h.partials k q (getElem?_of_erase hq), ?_, ?_, ?_⟩
  · exact Nat.sub_eq_of_eq_add htotal
  · exact Std.ExtTreeMap.size_erase_le.trans h.capacity
  · exact (Nat.sub_le ..).trans h.budget

theorem Accounted.dropPartial (key : ReassemblyKey) : (r.dropPartial key).Accounted := by
  unfold BoundedReassembler.dropPartial
  split
  next p hp => exact h.erase hp
  · exact h

theorem Accounted.retain (hentry : r.Entry key p)
    (hnew : fragment.sequence ∉ p.received) (hbudget : r.aggregateBytes + fragment.body.length ≤ r.aggregateBytesMax)
    (happly : { p with lastTouchedMs := r.nowMs }.apply fragment delivery = .ok next) :
    Accounted { r with
      partials := r.partials.insert key next, aggregateBytes := r.aggregateBytes + fragment.body.length } := by
  obtain ⟨hbytes, -, -⟩ := PartialMessage.apply_ok happly
  have hp : p.Accounted := by
    rcases hentry with hp | ⟨-, rfl, -⟩
    · exact h.partials key p hp
    · exact PartialMessage.accounted_new _
  have htouched : PartialMessage.Accounted { p with lastTouchedMs := r.nowMs } := ⟨hp.bytes, hp.limit⟩
  have hnext := htouched.apply hnew happly
  refine ⟨fun k q hq => ?_, ?_, ?_, hbudget⟩
  · rw [Std.ExtTreeMap.getElem?_insert] at hq
    split at hq
    · exact Option.some.inj hq ▸ hnext
    · exact h.partials k q hq
  · dsimp only at hbytes ⊢
    rcases hentry with hp | ⟨hnone, rfl, -⟩
    · have htotal : total heldBytes (r.partials.insert key next) + p.bytes =
          total heldBytes r.partials + next.bytes := total_replace hp
      rw [← h.aggregate] at htotal
      omega
    · rw [total_insert (notMem_of_getElem? hnone), ← h.aggregate, heldBytes, hbytes]
      simp [PartialMessage.new]
  · rw [Std.ExtTreeMap.size_insert]
    split
    · exact h.capacity
    next hout =>
      rcases hentry with hp | ⟨-, -, hroom⟩
      · exact absurd (mem_of_getElem? hp) hout
      · exact hroom

theorem Accounted.outcome {out : BoundedReassembler × Except ReassemblyError (Option ReassembledFragment)}
    (hout : Outcome r key fragment delivery out) : out.1.Accounted := by
  cases hout with
  | unchanged => exact h
  | dropped => exact h.dropPartial key
  | completed hentry hnew hbudget happly =>
    -- the completed entry is taken out again after its last fragment was put in
    have hretained := h.retain hentry (classify_inserted hnew).2 hbudget happly
    have herased := hretained.erase Std.ExtTreeMap.getElem?_insert_self
    rwa [erase_insert_self] at herased
  | retained hentry hnew hbudget happly => exact h.retain hentry (classify_inserted hnew).2 hbudget happly

theorem Accounted.insertWithDelivery (key : ReassemblyKey) (fragment : TunnelFragment)
    (delivery : Option DeliveryInstruction) : (r.insertWithDelivery key fragment delivery).1.Accounted := by
  rcases insertWithDelivery_outcome r key fragment delivery with ⟨result, hsame⟩ | hout
  · rwa [hsame]
  · exact h.expireDue.outcome hout

theorem Accounted.perform (operation : Operation) : (r.perform operation).Accounted := by
  cases operation with
  | insert key fragment => exact h.insertWithDelivery key fragment none
  | insertWithDelivery key fragment delivery => exact h.insertWithDelivery key fragment delivery
  | setNow nowMs => exact ⟨h.partials, h.aggregate, h.capacity, h.budget⟩
  | expireDue => exact h.expireDue
  | purge => exact ⟨by simp [BoundedReassembler.perform, purge], by simp [BoundedReassembler.perform, purge],
      by simp [BoundedReassembler.perform, purge], Nat.zero_le _⟩

theorem Accounted.afterOperations (operations : List Operation) : (r.afterOperations operations).Accounted := by
  induction operations generalizing r with
  | nil => exact h
  | cons operation operations ih => exact ih (h.perform operation)

end

/-- Nothing but the entry of the key and the entries that are due is different. -/
structure LeavesOthers (before after : BoundedReassembler) (key : ReassemblyKey) : Prop where
  kept : ∀ k p, k ≠ key → before.partials[k]? = some p → before.nowMs - p.lastTouchedMs < before.expiryMs →
    after.partials[k]? = some p
  added : ∀ k p, k ≠ key → after.partials[k]? = some p → before.partials[k]? = some p
  absent : before.partials[key]? = none → after.partials[key]? = none

theorem leavesOthers_refl (r : BoundedReassembler) (key : ReassemblyKey) : LeavesOthers r r key :=
  ⟨fun _ _ _ h _ => h, fun _ _ _ h => h, id⟩

theorem leavesOthers_expireDue (r : BoundedReassembler) (key : ReassemblyKey) : LeavesOthers r r.expireDue key where
  kept _ _ _ h hfresh := getElem?_expireDue_of_fresh h hfresh
  added _ _ _ h := getElem?_expireDue h
  absent h := by
    cases hafter : r.expireDue.partials[key]? with
    | none => rfl
    | some p =>
      rw [getElem?_expireDue hafter] at h
      cases h

theorem getElem?_dropPartial_of_ne {k : ReassemblyKey} (hne : k ≠ key) :
    (r.dropPartial key).partials[k]? = r.partials[k]? := by
  unfold BoundedReassembler.dropPartial
  split
  · exact getElem?_erase_of_ne hne.symm
  · rfl

theorem getElem?_dropPartial_self : (r.dropPartial key).partials[key]? = none := by
  unfold BoundedReassembler.dropPartial
  split
  · exact Std.ExtTreeMap.getElem?_erase_self
  next hnone => exact hnone

theorem LeavesOthers.dropPartial {before : BoundedReassembler} (h : LeavesOthers before r key) :
    LeavesOthers before (r.dropPartial key) key where
  kept k p hne hp hfresh := by
    rw [getElem?_dropPartial_of_ne hne]
    exact h.kept k p hne hp hfresh
  added k p hne hp := by
    rw [getElem?_dropPartial_of_ne hne] at hp
    exact h.added k p hne hp
  absent _ := getElem?_dropPartial_self

/-- Whatever the insertion rejects, it leaves the other entries alone. -/
def RejectsCleanly (r : BoundedReassembler) : Prop :=
  ∀ key fragment, (∀ error, (r.insert key fragment).2 = .error error → LeavesOthers r (r.insert key fragment).1 key) ∧
    ∀ delivery error, (r.insertWithDelivery key fragment delivery).2 = .error error →
      LeavesOthers r (r.insertWithDelivery key fragment delivery).1 key

theorem leavesOthers_of_error {error : ReassemblyError} (h : (r.insertWithDelivery key fragment delivery).2 = .error error) :
    LeavesOthers r (r.insertWithDelivery key fragment delivery).1 key := by
  rcases insertWithDelivery_outcome r key fragment delivery with ⟨result, hsame⟩ | hout
  · rw [hsame]
    exact leavesOthers_refl r key
  · generalize r.insertWithDelivery key fragment delivery = out at h hout
    cases hout with
    | unchanged => exact leavesOthers_expireDue r key
    | dropped => exact (leavesOthers_expireDue r key).dropPartial
    | completed | retained => cases h

theorem rejectsCleanly (r : BoundedReassembler) : r.RejectsCleanly := by
  refine fun key fragment => ⟨fun error h => ?_, fun delivery error h => leavesOthers_of_error h⟩
  cases hinner : (r.insertWithDelivery key fragment none).2 with
  | error inner => exact leavesOthers_of_error hinner
  | ok completed =>
    rw [insert] at h
    dsimp only at h
    rw [hinner] at h
    cases h

def retainedBodies (r : BoundedReassembler) : Nat :=
  TreeMap.total (fun _ p => TreeMap.total (fun _ body => body.length) p.received) r.partials

theorem Accounted.retainedBodies (h : r.Accounted) : r.aggregateBytes = r.retainedBodies := by
  rw [h.aggregate, BoundedReassembler.retainedBodies, total, total]
  refine congrArg List.sum (List.map_congr_left fun e he => ?_)
  exact (h.partials e.1 e.2 (Std.ExtTreeMap.mem_toList_iff_getElem?_eq_some.mp he)).bytes

theorem accounting_exact (capacity aggregateBytesMax expiryMs nowMs : Nat) (operations : List Operation) :
    let r := (new capacity aggregateBytesMax expiryMs nowMs).afterOperations operations
    r.aggregateBytes = r.retainedBodies ∧ r.Accounted ∧ r.RejectsCleanly := by
  intro r
  have h : r.Accounted := (accounted_new capacity aggregateBytesMax expiryMs nowMs).afterOperations operations
  exact ⟨h.retainedBodies, h, rejectsCleanly r⟩

end BoundedReassembler

end I2pr

import I2pr.ReassemblyAccounting
import I2pr.Lib.ByteOrder

namespace I2pr

open Fallible Std ExtTreeMap

namespace PartialMessage

/-- A terminal fragment is above every other fragment, and the only one. -/
def TerminalConsistent (p : PartialMessage) : Prop :=
  ∀ n, p.lastFlags[n]? = some true →
    (∀ sequence ∈ p.received, sequence ≤ n) ∧ ∀ other, p.lastFlags[other]? = some true → other = n

/-- What the entry remembers about the sequences it holds. -/
structure Ordered (p : PartialMessage) : Prop where
  observed : ∀ sequence ∈ p.received, sequence ≤ p.observedMaxSequence
  flagged : ∀ sequence isLast, p.lastFlags[sequence]? = some isLast → sequence ∈ p.received
  terminal : ∀ n, p.lastFlags[n]? = some true → ∀ sequence ∈ p.received, sequence ≤ n

variable {p : PartialMessage}

theorem Ordered.terminalConsistent (h : p.Ordered) : p.TerminalConsistent := by
  intro n hn
  refine ⟨h.terminal n hn, fun other hother => ?_⟩
  exact UInt8.le_antisymm (h.terminal n hn other (h.flagged other true hother))
    (h.terminal other hother n (h.flagged n true hn))

theorem ordered_new (nowMs : Nat) : (PartialMessage.new nowMs).Ordered := by
  constructor <;> simp [PartialMessage.new]

/-- The fragment is not above a terminal fragment the entry holds. -/
def AdmitsBelow (p : PartialMessage) : TunnelFragment → Prop
  | .followOn _ sequence _ _ => ∀ n, p.lastFlags[n]? = some true → sequence ≤ n
  | _ => True

theorem ordered_insertFirst (h : p.Ordered) (body : List UInt8) (delivery : Option DeliveryInstruction)
    (bytes nowMs : Nat) :
    Ordered { p with
      bytes := bytes, received := p.received.insert 0 body, firstDelivery := delivery, lastTouchedMs := nowMs } := by
  have hzero : ∀ bound : UInt8, (∀ sequence ∈ p.received, sequence ≤ bound) →
      ∀ sequence ∈ p.received.insert 0 body, sequence ≤ bound := by
    intro bound hbound sequence hmem
    rcases TreeMap.mem_insert.mp hmem with rfl | hmem
    · exact UInt8.zero_le
    · exact hbound sequence hmem
  exact ⟨hzero _ h.observed, fun sequence isLast hflag => mem_insert.mpr (.inr (h.flagged _ _ hflag)),
    fun n hn => hzero n (h.terminal n hn)⟩

theorem classify_followOn {messageId : UInt32} {sequence : UInt8} {isLast : Bool} {body : List UInt8}
    {delivery : Option DeliveryInstruction} {added : Nat}
    (h : p.classify (.followOn messageId sequence isLast body) delivery = .ok (.inserted added)) :
    isLast = true → p.observedMaxSequence ≤ sequence := by
  obtain ⟨-, h⟩ := ite_error_eq_ok.mp h
  obtain ⟨-, h⟩ := ite_error_eq_ok.mp h
  split at h
  · obtain ⟨-, h⟩ := ite_error_eq_ok.mp h
    obtain ⟨-, h⟩ := ite_error_eq_ok.mp h
    cases h
  · obtain ⟨hlast, -⟩ := ite_error_eq_ok.mp h
    exact fun hterminal => UInt8.not_lt.mp fun hlt => hlast ⟨hterminal, hlt⟩

theorem Ordered.apply {next : PartialMessage} {fragment : TunnelFragment} {delivery : Option DeliveryInstruction}
    {added nowMs : Nat} (h : p.Ordered) (hbelow : p.AdmitsBelow fragment)
    (hnew : p.classify fragment delivery = .ok (.inserted added))
    (happly : { p with lastTouchedMs := nowMs }.apply fragment delivery = .ok next) : next.Ordered := by
  obtain ⟨-, happly⟩ := ite_error_eq_ok.mp happly
  cases fragment with
  | unfragmented body | first id body =>
    cases happly
    exact ordered_insertFirst h body _ _ _
  | followOn id sequence isLast body =>
    have hmax := classify_followOn hnew
    cases happly
    constructor
    · intro s hs
      rcases TreeMap.mem_insert.mp hs with rfl | hs
      · exact (ByteOrder.le_max p.observedMaxSequence s).2
      · exact UInt8.le_trans (h.observed s hs) (ByteOrder.le_max p.observedMaxSequence sequence).1
    · intro s flag hflag
      rw [getElem?_insert] at hflag
      split at hflag
      next heq => exact mem_insert.mpr (.inl heq)
      · exact mem_insert.mpr (.inr (h.flagged s flag hflag))
    · intro n hn s hs
      rw [TreeMap.getElem?_insert] at hn
      split at hn
      next heq =>
        -- the fragment is the terminal one, and nothing above it was seen
        subst heq
        rcases TreeMap.mem_insert.mp hs with rfl | hs
        · exact UInt8.le_refl _
        · exact UInt8.le_trans (h.observed s hs) (hmax (Option.some.inj hn))
      · rcases TreeMap.mem_insert.mp hs with rfl | hs
        · exact hbelow n hn
        · exact h.terminal n hn s hs

end PartialMessage

namespace BoundedReassembler

def Ordered (r : BoundedReassembler) : Prop :=
  ∀ (key : ReassemblyKey) p, r.partials[key]? = some p → p.Ordered

/-- The fragment an operation inserts is not above a terminal fragment its entry holds. -/
def StaysBelow (r : BoundedReassembler) : Operation → Prop
  | .insert key fragment => ∀ p, r.expireDue.partials[key]? = some p → p.AdmitsBelow fragment
  | .insertWithDelivery key fragment _ => ∀ p, r.expireDue.partials[key]? = some p → p.AdmitsBelow fragment
  | _ => True

def AllStayBelow (r : BoundedReassembler) : List Operation → Prop
  | [] => True
  | operation :: operations => r.StaysBelow operation ∧ (r.perform operation).AllStayBelow operations

variable {r : BoundedReassembler} {key : ReassemblyKey} {fragment : TunnelFragment} {delivery : Option DeliveryInstruction}

section

variable (h : r.Ordered)
include h

theorem Ordered.expireDue : r.expireDue.Ordered :=
  fun key p hp => h key p (getElem?_expireDue hp)

theorem Ordered.erase (key : ReassemblyKey) (aggregateBytes : Nat) :
    Ordered { r with partials := r.partials.erase key, aggregateBytes := aggregateBytes } :=
  fun k p hp => h k p (TreeMap.getElem?_of_erase hp)

theorem Ordered.outcome {out : BoundedReassembler × Except ReassemblyError (Option ReassembledFragment)}
    (hbelow : ∀ p, r.partials[key]? = some p → p.AdmitsBelow fragment) (hout : Outcome r key fragment delivery out) :
    out.1.Ordered := by
  cases hout with
  | unchanged => exact h
  | dropped =>
    unfold dropPartial
    split
    · exact h.erase key _
    · exact h
  | completed => exact h.erase key _
  | retained hentry hnew _ happly =>
    intro k q hq
    rw [getElem?_insert] at hq
    split at hq
    · cases hq
      rcases hentry with hp | ⟨-, rfl, -⟩
      · exact (h key _ hp).apply (hbelow _ hp) hnew happly
      · refine (PartialMessage.ordered_new _).apply ?_ hnew happly
        cases fragment with
        | unfragmented body => exact trivial
        | first id body => exact trivial
        | followOn id sequence isLast body =>
          intro n hn
          simp [PartialMessage.new] at hn
    · exact h k q hq

theorem Ordered.insertWithDelivery (delivery : Option DeliveryInstruction)
    (hbelow : ∀ p, r.expireDue.partials[key]? = some p → p.AdmitsBelow fragment) :
    (r.insertWithDelivery key fragment delivery).1.Ordered := by
  rcases insertWithDelivery_outcome r key fragment delivery with ⟨result, hsame⟩ | hout
  · rwa [hsame]
  · exact h.expireDue.outcome hbelow hout

theorem Ordered.perform {operation : Operation} (hbelow : r.StaysBelow operation) : (r.perform operation).Ordered := by
  cases operation with
  | insert key fragment => exact h.insertWithDelivery none hbelow
  | insertWithDelivery key fragment delivery => exact h.insertWithDelivery delivery hbelow
  | setNow nowMs => exact h
  | expireDue => exact h.expireDue
  | purge =>
    intro key p hp
    simp [BoundedReassembler.perform, purge] at hp

theorem Ordered.afterOperations {operations : List Operation} (hbelow : r.AllStayBelow operations) :
    (r.afterOperations operations).Ordered := by
  induction operations generalizing r with
  | nil => exact h
  | cons operation operations ih => exact ih (h.perform hbelow.1) hbelow.2

end

/-- As long as no fragment comes in above a terminal one, no entry holds one above it. -/
theorem terminalConsistent_of_allStayBelow (capacity aggregateBytesMax expiryMs nowMs : Nat) {operations : List Operation}
    (hbelow : (new capacity aggregateBytesMax expiryMs nowMs).AllStayBelow operations) {key : ReassemblyKey}
    {p : PartialMessage}
    (hp : ((new capacity aggregateBytesMax expiryMs nowMs).afterOperations operations).partials[key]? = some p) :
    p.TerminalConsistent := by
  have hnew : (new capacity aggregateBytesMax expiryMs nowMs).Ordered := by
    intro k q hq
    simp [new] at hq
  exact (hnew.afterOperations hbelow key p hp).terminalConsistent

def sampleKey : ReassemblyKey := ⟨1, 7⟩

def sampleMiddle : Operation := .insert sampleKey (.followOn 7 1 false [10])

def sampleTerminal : Operation := .insert sampleKey (.followOn 7 2 true [20])

def sampleAbove : Operation := .insert sampleKey (.followOn 7 5 false [50])

theorem terminalConsistent_sample :
    ∃ p, ((new 4 1000 60000 0).afterOperations [sampleMiddle, sampleTerminal]).partials[sampleKey]? = some p ∧
      p.TerminalConsistent := by
  have hbelow : (new 4 1000 60000 0).AllStayBelow [sampleMiddle, sampleTerminal] := by
    refine ⟨nofun, ?_, trivial⟩
    rintro _ ⟨⟩ n hn
    have hmem : (n, true) ∈ [(1, false)] := mem_toList_iff_getElem?_eq_some.mpr hn
    simp at hmem
  obtain ⟨p, hp⟩ : ∃ p, ((new 4 1000 60000 0).afterOperations [sampleMiddle, sampleTerminal]).partials[sampleKey]? =
    some p := ⟨_, rfl⟩
  exact ⟨p, hp, terminalConsistent_of_allStayBelow 4 1000 60000 0 hbelow hp⟩

theorem not_terminalConsistent_above :
    (∃ p, ((new 4 1000 60000 0).afterOperations [sampleTerminal, sampleAbove]).partials[sampleKey]? = some p ∧
      ¬ p.TerminalConsistent) ∧
    (((new 4 1000 60000 0).perform sampleTerminal).insert sampleKey (.followOn 7 5 false [50])).2 = .ok none ∧
    (((new 4 1000 60000 0).perform sampleAbove).insert sampleKey (.followOn 7 2 true [20])).2 =
      .error (.lastBelowObservedMax 2 5) := by
  refine ⟨⟨_, rfl, fun hconsistent => ?_⟩, rfl, rfl⟩
  exact absurd ((hconsistent 2 rfl).1 5 (by decide +kernel)) (by decide)

end BoundedReassembler

end I2pr

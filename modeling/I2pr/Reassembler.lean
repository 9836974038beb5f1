import I2pr.TunnelRoles
import I2pr.Lib.Collect

namespace I2pr

def maxReassemblyMessages : Nat := 1024
def maxReassemblyBytesPerMessage : Nat := 62708 + 64
def followOnSequenceMin : UInt8 := 1
def followOnSequenceMax : UInt8 := 63
def maxReassemblyAggregateBytes : Nat := (maxReassemblyBytesPerMessage + 1) * maxReassemblyMessages / 8

structure ReassembledFragment where
  message : List UInt8
  delivery : Option DeliveryInstruction

structure ReassemblyKey where
  contextId : UInt32
  messageId : UInt32
deriving DecidableEq, Repr

/-- The derived order of the source: by context, then by message. -/
instance : Ord ReassemblyKey where
  compare := compareLex (compareOn ReassemblyKey.contextId) (compareOn ReassemblyKey.messageId)

instance : Std.TransCmp (compare : ReassemblyKey → ReassemblyKey → Ordering) :=
  inferInstanceAs
    (Std.TransCmp (compareLex (compareOn ReassemblyKey.contextId) (compareOn ReassemblyKey.messageId)))

instance : Std.LawfulEqCmp (compare : ReassemblyKey → ReassemblyKey → Ordering) where
  eq_of_compare {a b} h := by
    obtain ⟨h1, h2⟩ := compareLex_eq_eq.mp h
    cases a
    cases b
    simp only [compareOn, Std.compare_eq_iff_eq] at h1 h2
    rw [h1, h2]

inductive FragmentInsertDisposition where
  | inserted (addedBytes : Nat)
  | exactDuplicate

inductive ReassemblyError where
  | conflictingDuplicate (sequence : UInt8)
  | conflictingFirstMetadata
  | conflictingFollowOnTerminalFlag (sequence : UInt8) (expected actual : Bool)
  | unexpectedFollowOnDeliveryInstruction
  | sequenceOutOfRange (sequence : UInt8)
  | lastBelowObservedMax (last max : UInt8)
  | messageTooLarge (bytes maximum : Nat)
  | capacityExceeded (capacity : Nat)
  | aggregateBytesExceeded (bytes maximum : Nat)
deriving DecidableEq, Repr

structure PartialMessage where
  totalFragments : Option UInt8
  received : Std.ExtTreeMap UInt8 (List UInt8)
  lastFlags : Std.ExtTreeMap UInt8 Bool
  bytes : Nat
  observedMaxSequence : UInt8
  hasLast : Bool
  lastTouchedMs : Nat
  firstDelivery : Option DeliveryInstruction

def deliveryMatches (left right : Option DeliveryInstruction) : Bool :=
  match left, right with
  | none, none => true
  | some left, some right => decide (left = right)
  | _, _ => false

namespace PartialMessage

def new (nowMs : Nat) : PartialMessage :=
  ⟨none, ∅, ∅, 0, 0, false, nowMs, none⟩

variable (p : PartialMessage)

def classify (fragment : TunnelFragment) (delivery : Option DeliveryInstruction) :
    Except ReassemblyError FragmentInsertDisposition :=
  match fragment with
  | .unfragmented body =>
    match p.received[(0 : UInt8)]? with
    | some existing =>
      if existing ≠ body then .error (.conflictingDuplicate 0) else .ok .exactDuplicate
    | none => .ok (.inserted body.length)
  | .first _ body =>
    match p.received[(0 : UInt8)]? with
    | some existing =>
      if existing ≠ body then .error (.conflictingDuplicate 0)
      else if !deliveryMatches p.firstDelivery delivery then .error .conflictingFirstMetadata
      else .ok .exactDuplicate
    | none => .ok (.inserted body.length)
  | .followOn _ sequence isLast body =>
    if delivery.isSome then .error .unexpectedFollowOnDeliveryInstruction
    else if sequence < followOnSequenceMin ∨ followOnSequenceMax < sequence then
      .error (.sequenceOutOfRange sequence)
    else match p.received[sequence]? with
      | some existing =>
        if existing ≠ body then .error (.conflictingDuplicate sequence)
        else
          let priorLast := (p.lastFlags[sequence]?).getD false
          if priorLast ≠ isLast then
            .error (.conflictingFollowOnTerminalFlag sequence priorLast isLast)
          else .ok .exactDuplicate
      | none =>
        if isLast ∧ sequence < p.observedMaxSequence then
          .error (.lastBelowObservedMax sequence p.observedMaxSequence)
        else .ok (.inserted body.length)

/-- On an error the entry is rolled back, so the caller still holds the old one. -/
def apply (fragment : TunnelFragment) (delivery : Option DeliveryInstruction) : Except ReassemblyError PartialMessage :=
  let bytes := p.bytes + fragment.body.length
  if maxReassemblyBytesPerMessage < bytes then
    .error (.messageTooLarge bytes maxReassemblyBytesPerMessage)
  else match fragment with
    | .unfragmented body => .ok { p with bytes, received := p.received.insert 0 body }
    | .first _ body =>
      .ok { p with bytes, received := p.received.insert 0 body, firstDelivery := delivery }
    | .followOn _ sequence isLast body =>
      .ok { p with
        bytes
        observedMaxSequence := max p.observedMaxSequence sequence
        received := p.received.insert sequence body
        lastFlags := p.lastFlags.insert sequence isLast
        hasLast := p.hasLast || isLast
        totalFragments := if isLast then some (sequence + 1) else p.totalFragments }

def isComplete : Bool :=
  match p.totalFragments with
  | some total => decide (p.received.size = total.toNat)
  | none => false

def assemble : Option (List UInt8) :=
  if !p.isComplete then none
  else do
    let total ← p.totalFragments
    let bodies ← (List.range total.toNat).mapM fun sequence => p.received[UInt8.ofNat sequence]?
    some bodies.flatten

end PartialMessage

structure BoundedReassembler where
  capacity : Nat
  aggregateBytesMax : Nat
  partials : Std.ExtTreeMap ReassemblyKey PartialMessage
  expiryMs : Nat
  nowMs : Nat
  aggregateBytes : Nat

def classifyNewPartial (fragment : TunnelFragment) (delivery : Option DeliveryInstruction) :
    Except ReassemblyError FragmentInsertDisposition :=
  match fragment with
  | .unfragmented body => .ok (.inserted body.length)
  | .first _ body => .ok (.inserted body.length)
  | .followOn _ sequence _ body =>
    if delivery.isSome then .error .unexpectedFollowOnDeliveryInstruction
    else if sequence < followOnSequenceMin ∨ followOnSequenceMax < sequence then
      .error (.sequenceOutOfRange sequence)
    else .ok (.inserted body.length)

namespace BoundedReassembler

def new (capacity aggregateBytesMax expiryMs nowMs : Nat) : BoundedReassembler :=
  ⟨min capacity maxReassemblyMessages, min aggregateBytesMax maxReassemblyAggregateBytes, ∅, expiryMs, nowMs, 0⟩

variable (r : BoundedReassembler)

def setNow (nowMs : Nat) : BoundedReassembler :=
  { r with nowMs }

def expireDue : BoundedReassembler :=
  let expired := r.partials.toList.filter fun e => decide (r.expiryMs ≤ r.nowMs - e.2.lastTouchedMs)
  { r with
    partials := expired.foldl (fun partials e => partials.erase e.1) r.partials
    aggregateBytes := r.aggregateBytes - (expired.map fun e => e.2.bytes).sum }

def dropPartial (key : ReassemblyKey) : BoundedReassembler :=
  match r.partials[key]? with
  | some p => { r with partials := r.partials.erase key, aggregateBytes := r.aggregateBytes - p.bytes }
  | none => r

/-- The second half of an insertion, once the fragment is classified against the entry `p`. -/
def admitFragment (key : ReassemblyKey) (p : PartialMessage) (fragment : TunnelFragment)
    (delivery : Option DeliveryInstruction) (disposition : FragmentInsertDisposition) :
    BoundedReassembler × Except ReassemblyError (Option ReassembledFragment) :=
  match disposition with
  | .exactDuplicate => (r, .ok none)
  | .inserted addedBytes =>
    if r.aggregateBytesMax < r.aggregateBytes + addedBytes then
      (r, .error (.aggregateBytesExceeded (r.aggregateBytes + addedBytes) r.aggregateBytesMax))
    else match { p with lastTouchedMs := r.nowMs }.apply fragment delivery with
      | .error error => (r.dropPartial key, .error error)
      | .ok p =>
        let aggregateBytes := r.aggregateBytes + addedBytes
        match p.assemble with
        | some message =>
          ({ r with partials := r.partials.erase key, aggregateBytes := aggregateBytes - p.bytes },
            .ok (some ⟨message, p.firstDelivery⟩))
        | none => ({ r with partials := r.partials.insert key p, aggregateBytes }, .ok none)

/-- Classification against the entry of the key, or as the first fragment of a new one. -/
def classifyAndAdmit (key : ReassemblyKey) (fragment : TunnelFragment) (delivery : Option DeliveryInstruction) :
    BoundedReassembler × Except ReassemblyError (Option ReassembledFragment) :=
  match r.partials[key]? with
  | some p =>
    match p.classify fragment delivery with
    | .error error => (r.dropPartial key, .error error)
    | .ok disposition => r.admitFragment key p fragment delivery disposition
  | none =>
    if r.capacity ≤ r.partials.size then (r, .error (.capacityExceeded r.capacity))
    else match classifyNewPartial fragment delivery with
      | .error error => (r, .error error)
      | .ok disposition => r.admitFragment key (.new r.nowMs) fragment delivery disposition

def insertWithDelivery (key : ReassemblyKey) (fragment : TunnelFragment) (delivery : Option DeliveryInstruction) :
    BoundedReassembler × Except ReassemblyError (Option ReassembledFragment) :=
  match fragment with
  | .unfragmented body => (r, .ok (some ⟨body, delivery⟩))
  | fragment =>
    if fragment.messageId.getD 0 = 0 then (r, .error (.sequenceOutOfRange 0))
    else r.expireDue.classifyAndAdmit key fragment delivery

end BoundedReassembler

end I2pr

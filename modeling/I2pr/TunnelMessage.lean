import I2pr.StreamReliability
import I2pr.Lib.BigEndian

namespace I2pr

open BigEndian List UInt8

abbrev Hash := List.Vector UInt8 32

def maxPlaintextDataBytes : Nat := 1008
def checksumLen : Nat := 4
def maxTunnelMessagePayloadBytes : Nat := 62708
def maxFragmentCount : UInt8 := 64
def maxFragmentBodyBytes : Nat := maxPlaintextDataBytes - 32

inductive DeliveryInstruction where
  | localDelivery
  | tunnel (tunnelId : UInt32) (gateway : Hash)
  | router (router : Hash)
deriving DecidableEq

inductive TunnelFragment where
  | unfragmented (body : List UInt8)
  | first (messageId : UInt32) (body : List UInt8)
  | followOn (messageId : UInt32) (sequence : UInt8) (isLast : Bool) (body : List UInt8)
deriving DecidableEq

namespace TunnelFragment

def messageId : TunnelFragment → Option UInt32
  | unfragmented _ => none
  | first messageId _ => some messageId
  | followOn messageId _ _ _ => some messageId

def body : TunnelFragment → List UInt8
  | unfragmented body => body
  | first _ body => body
  | followOn _ _ _ body => body

end TunnelFragment

structure FragmentDelivery where
  delivery : Option DeliveryInstruction
  fragment : TunnelFragment
deriving DecidableEq

inductive TunnelMessageError where
  | payloadLength (actual expected : Nat)
  | checksumMismatch
  | delimiterMissing
  | reservedDeliveryType (value : UInt8)
  | delayBitUnsupported
  | extendedOptionsBitUnsupported
  | reservedControlBits (bits : UInt8)
  | fragmentSequenceOutOfRange (actual : UInt8)
  | lastBelowObservedMax (last max : UInt8)
  | zeroFragmentLength
  | fragmentLengthExceedsRemaining (declared remaining : Nat)
  | messageTooLarge (actual maximum : Nat)
  | emptyMessage
  | zeroMessageId
  | zeroTunnelId
  | randomnessUnavailable
  | tooManyFragments (actual maximum : UInt8)
  | fragmentBodyTooLarge (actual maximum : Nat)
  | paddingRetryExhausted (attempts : Nat)
  | fragmentRangeExhausted
deriving DecidableEq, Repr

def validateDelivery : DeliveryInstruction → Except TunnelMessageError Unit
  | .localDelivery => .ok ()
  | .tunnel tunnelId _ => if tunnelId = 0 then .error .zeroTunnelId else .ok ()
  | .router _ => .ok ()

def appendDeliveryExtra : DeliveryInstruction → List UInt8
  | .localDelivery => []
  | .tunnel tunnelId gateway => encode 4 tunnelId.toNat ++ gateway.toList
  | .router router => router.toList

def deliveryControl : DeliveryInstruction → UInt8
  | .localDelivery => 0b00000000
  | .tunnel _ _ => 0b00100000
  | .router _ => 0b01000000

def followOnControl (sequence : UInt8) (isLast : Bool) : UInt8 :=
  (0x80 : UInt8) ||| ((sequence &&& 0x3F) <<< 1) ||| (if isLast then 0x01 else 0x00)

/-- The two length bytes and the body that end every record. -/
def encodeBody (body : List UInt8) : Except TunnelMessageError (List UInt8) :=
  if body.length < 2 ^ 16 then .ok (encode 2 body.length ++ body)
  else .error (.fragmentLengthExceedsRemaining body.length (2 ^ 16 - 1))

def encodeRecord (record : FragmentDelivery) : Except TunnelMessageError (List UInt8) :=
  match record.fragment, record.delivery with
  | .unfragmented body, some delivery => do
    let tail ← encodeBody body
    .ok (deliveryControl delivery :: (appendDeliveryExtra delivery ++ tail))
  | .first messageId body, some delivery => do
    let tail ← encodeBody body
    .ok ((deliveryControl delivery ||| 0b00001000) ::
      (appendDeliveryExtra delivery ++ (encode 4 messageId.toNat ++ tail)))
  | .followOn messageId sequence isLast body, none => do
    let tail ← encodeBody body
    .ok (followOnControl sequence isLast :: (encode 4 messageId.toNat ++ tail))
  | _, _ => .error (.reservedControlBits 0)

def unfragmentedOverhead : DeliveryInstruction → Nat
  | .localDelivery => 1 + 2
  | .router _ => 1 + 32 + 2
  | .tunnel _ _ => 1 + 4 + 32 + 2

def fragmentedFirstOverhead : DeliveryInstruction → Nat
  | .localDelivery => 1 + 4 + 2
  | .router _ => 1 + 32 + 4 + 2
  | .tunnel _ _ => 1 + 4 + 32 + 4 + 2

def followOnOverhead : Nat := 1 + 4 + 2

def cellBodyBudget : Nat := maxPlaintextDataBytes - checksumLen - 1

/-- The loop over the bytes after the first fragment; every turn takes at least one of them. -/
def followOnFragments (messageId : UInt32) (followBodyBudget : Nat) :
    Nat → UInt8 → List UInt8 → Except TunnelMessageError (List FragmentDelivery)
  | 0, _, _ => .ok []
  | fuel + 1, sequence, rest =>
    if rest = [] then .ok []
    else if sequence = 255 then .error .fragmentRangeExhausted
    else if maxFragmentCount - 1 < sequence + 1 then
      .error (.tooManyFragments maxFragmentCount maxFragmentCount)
    else do
      let out ← followOnFragments messageId followBodyBudget fuel (sequence + 1) (rest.drop followBodyBudget)
      .ok (⟨none, .followOn messageId (sequence + 1) (decide (rest.length ≤ followBodyBudget))
        (rest.take followBodyBudget)⟩ :: out)

def fragmentCompleteMessage (delivery : DeliveryInstruction) (messageId : UInt32)
    (completeMessage : List UInt8) : Except TunnelMessageError (List FragmentDelivery) := do
  validateDelivery delivery
  if completeMessage = [] then .error .emptyMessage
  else if maxTunnelMessagePayloadBytes < completeMessage.length then
    .error (.messageTooLarge completeMessage.length maxTunnelMessagePayloadBytes)
  else if messageId = 0 then .error .zeroMessageId
  else if completeMessage.length + unfragmentedOverhead delivery ≤ cellBodyBudget then
    .ok [⟨some delivery, .unfragmented completeMessage⟩]
  else
    let firstBodyBudget := cellBodyBudget - fragmentedFirstOverhead delivery
    if firstBodyBudget = 0 then
      .error (.fragmentBodyTooLarge completeMessage.length maxFragmentBodyBytes)
    else do
      let firstLen := min firstBodyBudget completeMessage.length
      let out ← followOnFragments messageId (cellBodyBudget - followOnOverhead) completeMessage.length 0
        (completeMessage.drop firstLen)
      .ok (⟨some delivery, .first messageId (completeMessage.take firstLen)⟩ :: out)

theorem length_appendDeliveryExtra (delivery : DeliveryInstruction) :
    (appendDeliveryExtra delivery).length + 3 = unfragmentedOverhead delivery ∧
      (appendDeliveryExtra delivery).length + 7 = fragmentedFirstOverhead delivery := by
  cases delivery <;> simp [appendDeliveryExtra, unfragmentedOverhead, fragmentedFirstOverhead]

/-- The follow-on records of the listed bodies, numbered from `sequence + 1`, the last one flagged. -/
def followOnRecords (messageId : UInt32) : Nat → List (List UInt8) → List FragmentDelivery
  | _, [] => []
  | sequence, body :: bodies =>
    ⟨none, .followOn messageId (UInt8.ofNat (sequence + 1)) bodies.isEmpty body⟩ ::
      followOnRecords messageId (sequence + 1) bodies

theorem followOnFragments_turn (messageId : UInt32) (budget fuel : Nat) {sequence : Nat} {rest : List UInt8}
    (hseq : sequence < 63) (hne : rest ≠ []) :
    followOnFragments messageId budget (fuel + 1) (ofNat sequence) rest = (do
      let out ← followOnFragments messageId budget fuel (ofNat (sequence + 1)) (rest.drop budget)
      .ok (⟨none, .followOn messageId (ofNat (sequence + 1)) (decide (rest.length ≤ budget))
        (rest.take budget)⟩ :: out)) := by
  have h255 : ofNat sequence ≠ 255 := by
    intro h
    have hnat := congrArg toNat h
    rw [toNat_ofNat_of_lt' (show sequence < 256 by omega)] at hnat
    change sequence = 255 at hnat
    omega
  have hsucc : ofNat sequence + 1 = ofNat (sequence + 1) := by
    simp [ofNat_add]
  have h63 : ¬ maxFragmentCount - 1 < ofNat sequence + 1 := by
    rw [hsucc, lt_iff_toNat_lt, toNat_ofNat_of_lt' (show sequence + 1 < 256 by omega)]
    change ¬ 63 < sequence + 1
    omega
  rw [followOnFragments, if_neg hne, if_neg h255, if_neg h63, hsucc]

theorem followOnFragments_spec (messageId : UInt32) {budget : Nat} (hb : 0 < budget) (fuel sequence : Nat)
    (rest : List UInt8) (hfuel : rest.length ≤ fuel) (hroom : rest.length ≤ budget * (63 - sequence)) :
    ∃ bodies : List (List UInt8), bodies.flatten = rest ∧ (∀ b ∈ bodies, b ≠ [] ∧ b.length ≤ budget) ∧
      bodies.length ≤ 63 - sequence ∧
      followOnFragments messageId budget fuel (ofNat sequence) rest =
        .ok (followOnRecords messageId sequence bodies) := by
  induction fuel generalizing sequence rest with
  | zero =>
    have hnil : rest = [] := List.length_eq_zero_iff.mp (Nat.le_zero.mp hfuel)
    exact ⟨[], by simp [hnil], by simp, by simp, rfl⟩
  | succ fuel ih =>
    by_cases hnil : rest = []
    · exact ⟨[], by simp [hnil], by simp, by simp, by simp [followOnFragments, hnil, followOnRecords]⟩
    have hpos : 0 < rest.length := List.length_pos_iff.mpr hnil
    have hseq : sequence < 63 := by
      by_contra h
      rw [Nat.sub_eq_zero_of_le (by omega)] at hroom
      omega
    have hdrop : (rest.drop budget).length ≤ budget * (63 - (sequence + 1)) := by
      rw [show 63 - sequence = (63 - (sequence + 1)) + 1 by omega, Nat.mul_add] at hroom
      rw [List.length_drop]
      omega
    obtain ⟨bodies, hflat, hbodies, hcount, hok⟩ := ih (sequence + 1)
      (rest.drop budget) (by rw [List.length_drop]; omega) hdrop
    have hlast : decide (rest.length ≤ budget) = bodies.isEmpty := by
      have hlen : rest.length ≤ budget ↔ bodies.flatten = [] := by
        rw [hflat, List.drop_eq_nil_iff]
      rw [Bool.eq_iff_iff, decide_eq_true_eq, hlen, List.isEmpty_iff, List.flatten_eq_nil_iff]
      constructor
      · intro hall
        by_contra hne
        obtain ⟨b, hmem⟩ := List.exists_mem_of_ne_nil _ hne
        exact (hbodies b hmem).1 (hall b hmem)
      · rintro rfl
        simp
    refine ⟨rest.take budget :: bodies, ?_, ?_, ?_, ?_⟩
    · rw [List.flatten_cons, hflat, List.take_append_drop]
    · intro b hmem
      rcases List.mem_cons.mp hmem with rfl | hmem
      · refine ⟨?_, by simp⟩
        rw [Ne, ← List.length_eq_zero_iff, List.length_take]
        omega
      · exact hbodies b hmem
    · rw [List.length_cons]
      omega
    · rw [followOnFragments_turn messageId budget fuel hseq hnil, hok, hlast]
      rfl

theorem fragmentCompleteMessage_spec {delivery : DeliveryInstruction} {messageId : UInt32}
    {message : List UInt8} (hd : validateDelivery delivery = .ok ()) (hid : messageId ≠ 0)
    (hne : message ≠ []) (hlen : message.length ≤ maxTunnelMessagePayloadBytes) :
    (message.length + unfragmentedOverhead delivery ≤ cellBodyBudget ∧
      fragmentCompleteMessage delivery messageId message = .ok [⟨some delivery, .unfragmented message⟩]) ∨
    ∃ first bodies, message = first ++ bodies.flatten ∧ first ≠ [] ∧
      first.length + fragmentedFirstOverhead delivery ≤ cellBodyBudget ∧ bodies ≠ [] ∧
      (∀ b ∈ bodies, b ≠ [] ∧ b.length + followOnOverhead ≤ cellBodyBudget) ∧ bodies.length ≤ 63 ∧
      fragmentCompleteMessage delivery messageId message =
        .ok (⟨some delivery, .first messageId first⟩ :: followOnRecords messageId 0 bodies) := by
  have hmax : ¬ maxTunnelMessagePayloadBytes < message.length := not_lt.mpr hlen
  have hover : 3 ≤ unfragmentedOverhead delivery ∧
      fragmentedFirstOverhead delivery = unfragmentedOverhead delivery + 4 ∧
      fragmentedFirstOverhead delivery ≤ 43 := by
    cases delivery <;> simp [unfragmentedOverhead, fragmentedFirstOverhead]
  have hbudget : cellBodyBudget = 1003 := rfl
  by_cases hfit : message.length + unfragmentedOverhead delivery ≤ cellBodyBudget
  · left
    refine ⟨hfit, ?_⟩
    simp [fragmentCompleteMessage, hd, hne, hmax, hid, hfit, bind, Except.bind]
  · right
    set firstLen := min (cellBodyBudget - fragmentedFirstOverhead delivery) message.length with hfirst
    have hpos : 0 < message.length := length_pos_iff.mpr hne
    have hzero : cellBodyBudget - fragmentedFirstOverhead delivery ≠ 0 := by omega
    have hlenNat : message.length ≤ 62708 := hlen
    obtain ⟨bodies, hflat, hbodies, hcount, hok⟩ := followOnFragments_spec messageId
      (show 0 < cellBodyBudget - followOnOverhead by decide) message.length 0 (message.drop firstLen) (by rw [length_drop]; omega) (by
        rw [length_drop, show cellBodyBudget - followOnOverhead = 996 from rfl]
        omega)
    refine ⟨message.take firstLen, bodies, ?_, ?_, ?_, ?_, ?_, hcount, ?_⟩
    · rw [hflat, take_append_drop]
    · rw [Ne, ← length_eq_zero_iff, length_take]
      omega
    · rw [length_take]
      omega
    · rintro rfl
      have hdrop : (message.drop firstLen).length = 0 := by rw [← hflat]; rfl
      rw [length_drop] at hdrop
      omega
    · intro b hb
      refine ⟨(hbodies b hb).1, ?_⟩
      have := (hbodies b hb).2
      have hfo : followOnOverhead = 7 := rfl
      omega
    · have hok' : followOnFragments messageId (cellBodyBudget - followOnOverhead) message.length 0
          (message.drop firstLen) = .ok (followOnRecords messageId 0 bodies) := hok
      simp only [fragmentCompleteMessage, hd, bind, Except.bind, if_neg hne, if_neg hmax, if_neg hid,
        if_neg hfit, if_neg hzero, ← hfirst, hok']

theorem fragmentCompleteMessage_ok {delivery : DeliveryInstruction} {messageId : UInt32}
    {message : List UInt8} {fragments : List FragmentDelivery}
    (h : fragmentCompleteMessage delivery messageId message = .ok fragments) :
    validateDelivery delivery = .ok () ∧ messageId ≠ 0 ∧ message ≠ [] ∧
      message.length ≤ maxTunnelMessagePayloadBytes := by
  rcases hd : validateDelivery delivery with e | ⟨⟩
  · simp [fragmentCompleteMessage, hd, bind, Except.bind] at h
  · simp only [fragmentCompleteMessage, hd, bind, Except.bind] at h
    by_cases hne : message = []
    · simp [hne] at h
    by_cases hlen : maxTunnelMessagePayloadBytes < message.length
    · simp [hne, hlen] at h
    by_cases hid : messageId = 0
    · simp [hne, hlen, hid] at h
    · exact ⟨rfl, hid, hne, not_lt.mp hlen⟩

theorem getElem?_followOnRecords (messageId : UInt32) (sequence : Nat) (bodies : List (List UInt8)) (j : Nat) :
    (followOnRecords messageId sequence bodies)[j]? = (bodies[j]?).map fun body =>
      ⟨none, .followOn messageId (ofNat (sequence + j + 1)) (decide (j + 1 = bodies.length)) body⟩ := by
  induction bodies generalizing sequence j with
  | nil => simp [followOnRecords]
  | cons body bodies ih =>
    cases j with
    | zero => cases bodies <;> simp [followOnRecords]
    | succ j =>
      rw [followOnRecords, getElem?_cons_succ, getElem?_cons_succ, ih]
      simp only [length_cons, Nat.add_right_cancel_iff, show sequence + 1 + j + 1 = sequence + (j + 1) + 1 by omega]

end I2pr

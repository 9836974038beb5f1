import I2pr.TunnelBuilder
import I2pr.Lib.ByteOrder
import I2pr.Lib.Fallible

namespace I2pr

open BigEndian Fallible List

namespace FragmentDelivery

def isInitial : FragmentDelivery → Bool
  | ⟨_, .followOn _ _ _ _⟩ => false
  | _ => true

/-- A terminal follow-on is not below a sequence already seen. -/
def ReachesUp (sequence : UInt8) : FragmentDelivery → Prop
  | ⟨_, .followOn _ last true _⟩ => sequence ≤ last
  | _ => True

/-- If the first record is a follow-on and the second a terminal one, the sequence does not fall. -/
def Ascends : FragmentDelivery → FragmentDelivery → Prop
  | ⟨_, .followOn _ sequence _ _⟩, record => record.ReachesUp sequence
  | _, _ => True

/-- Every record may follow those before it. -/
def AllAdmissible (observed : Bool × UInt8) : List FragmentDelivery → Prop
  | [] => True
  | record :: records => record.Admissible observed ∧ AllAdmissible (record.observe observed) records

end FragmentDelivery

open FragmentDelivery

theorem parseRecords_inadmissible {record : FragmentDelivery} (hr : record.WellFormed) {bytes : List UInt8}
    (he : encodeRecord record = .ok bytes) {observed : Bool × UInt8} (ho : ¬ record.Admissible observed) (fuel : Nat)
    (rest : List UInt8) : ∃ error, parseRecords (fuel + 1) (bytes ++ rest) observed.1 observed.2 = .error error := by
  obtain ⟨- | delivery, body | ⟨messageId, body⟩ | ⟨messageId, sequence, isLast, body⟩⟩ := record <;>
    simp only [WellFormed] at hr
  all_goals
    obtain ⟨tail, -, he⟩ := bind_eq_ok.mp he
    cases he
  · obtain ⟨-, h1, h63, -, -⟩ := hr
    obtain ⟨hhigh, hseq, hlast⟩ := followOnControl_bits h63 isLast
    have hbelow : isLast = true ∧ sequence < observed.2 := by
      simp only [Admissible, not_forall] at ho
      obtain ⟨hl, hlt⟩ := ho
      exact ⟨hl, UInt8.not_le.mp hlt⟩
    rw [cons_append, parseRecords, if_neg hhigh]
    simp only [parseFollowOn, hseq, hlast, if_neg (followOn_inRange h1 h63), if_pos hbelow]
    exact ⟨_, rfl⟩
  · have hseen : observed.1 = true := by simpa [Admissible] using ho
    rw [cons_append, parseRecords, if_pos (deliveryControl_bits delivery).1, if_pos hseen]
    exact ⟨_, rfl⟩
  · have hseen : observed.1 = true := by simpa [Admissible] using ho
    rw [cons_append, parseRecords, if_pos (deliveryControl_bits delivery).2.2.1, if_pos hseen]
    exact ⟨_, rfl⟩

variable {records : List FragmentDelivery}

variable {chunks : List (List UInt8)}

theorem parseRecords_flatten_iff (hr : ∀ record ∈ records, record.WellFormed) (he : records.mapM encodeRecord = .ok chunks) {fuel : Nat}
    (hfuel : records.length ≤ fuel) (observed : Bool × UInt8) :
    parseRecords fuel chunks.flatten observed.1 observed.2 = .ok records ↔ AllAdmissible observed records := by
  induction records generalizing chunks fuel observed with
  | nil =>
    cases he
    simp only [AllAdmissible, iff_true]
    cases fuel <;> rfl
  | cons record records ih =>
    rw [mapM_cons] at he
    obtain ⟨bytes, hbytes, he⟩ := bind_eq_ok.mp he
    obtain ⟨rest, hrest, he⟩ := bind_eq_ok.mp he
    cases he
    obtain ⟨fuel, rfl⟩ : ∃ n, fuel = n + 1 := ⟨fuel - 1, by simp at hfuel; omega⟩
    have hwell := hr record mem_cons_self
    rw [flatten_cons, AllAdmissible]
    by_cases ho : record.Admissible observed
    · have hrec := ih (fun r hmem => hr r (mem_cons_of_mem _ hmem)) hrest (by simpa using hfuel) (record.observe observed)
      rw [parseRecords_encodeRecord hwell hbytes ho fuel, ← hrec]
      simp only [ho, true_and]
      cases parseRecords fuel rest.flatten (record.observe observed).1 (record.observe observed).2 with
      | error error => simp [Except.map]
      | ok parsed => simp [Except.map]
    · obtain ⟨error, herror⟩ := parseRecords_inadmissible hwell hbytes ho fuel rest.flatten
      simp [herror, ho]

theorem reachesUp_max {a b : UInt8} {record : FragmentDelivery} :
    record.ReachesUp (max a b) ↔ record.ReachesUp a ∧ record.ReachesUp b := by
  unfold ReachesUp
  split
  · exact ByteOrder.max_le_iff
  · simp

theorem reachesUp_zero (record : FragmentDelivery) : record.ReachesUp 0 := by
  unfold ReachesUp
  split
  · exact UInt8.zero_le
  · exact trivial

/-- With initial records where they may stand, the records are admitted exactly when no terminal follow-on falls. -/
theorem allAdmissible_iff {seen : Bool} {highest : UInt8}
    (hinitial : (records.filter isInitial).length + seen.toNat ≤ 1) :
    AllAdmissible (seen, highest) records ↔
      (∀ record ∈ records, record.ReachesUp highest) ∧ records.Pairwise Ascends := by
  induction records generalizing seen highest with
  | nil => simp [AllAdmissible]
  | cons record records ih =>
    rw [AllAdmissible, forall_mem_cons, pairwise_cons]
    by_cases hkind : record.isInitial = true
    · rw [filter_cons_of_pos hkind, length_cons] at hinitial
      have hseen : seen = false := by
        cases seen with
        | false => rfl
        | true => simp at hinitial
      have hrest := @ih true highest (by rw [Bool.toNat_true]; omega)
      have hrecord : record.Admissible (seen, highest) ∧ record.observe (seen, highest) = (true, highest) ∧
          record.ReachesUp highest ∧ ∀ other, record.Ascends other := by
        obtain ⟨delivery, fragment⟩ := record
        cases fragment with
        | unfragmented body => exact ⟨hseen, rfl, trivial, fun _ => trivial⟩
        | first messageId body => exact ⟨hseen, rfl, trivial, fun _ => trivial⟩
        | followOn messageId sequence isLast body => cases hkind
      rw [hrecord.2.1, hrest]
      simp [hrecord]
    · rw [filter_cons_of_neg hkind] at hinitial
      obtain ⟨delivery, fragment⟩ := record
      cases fragment with
      | unfragmented body => exact absurd rfl hkind
      | first messageId body => exact absurd rfl hkind
      | followOn messageId sequence isLast body =>
        have hhere : Admissible (seen, highest) ⟨delivery, .followOn messageId sequence isLast body⟩ ↔
            ReachesUp highest ⟨delivery, .followOn messageId sequence isLast body⟩ := by
          cases isLast with
          | false => simp [Admissible, ReachesUp]
          | true => simp [Admissible, ReachesUp]
        have hrest : AllAdmissible (observe (seen, highest) ⟨delivery, .followOn messageId sequence isLast body⟩) records ↔ _ :=
          @ih seen (max highest sequence) hinitial
        rw [hhere, hrest]
        simp only [reachesUp_max, Ascends]
        constructor
        · rintro ⟨hup, hall, hpairs⟩
          exact ⟨⟨hup, fun other hother => (hall other hother).1⟩, fun other hother => (hall other hother).2, hpairs⟩
        · rintro ⟨⟨hup, hall⟩, habove, hpairs⟩
          exact ⟨hup, fun other hother => ⟨hall other hother, habove other hother⟩, hpairs⟩

theorem length_le_flatten (hr : ∀ record ∈ records, record.WellFormed) (he : records.mapM encodeRecord = .ok chunks) :
    records.length ≤ chunks.flatten.length := by
  induction records generalizing chunks with
  | nil => exact Nat.zero_le _
  | cons record records ih =>
    rw [mapM_cons] at he
    obtain ⟨bytes, hbytes, he⟩ := bind_eq_ok.mp he
    obtain ⟨rest, hrest, he⟩ := bind_eq_ok.mp he
    cases he
    have hwell := hr record mem_cons_self
    obtain ⟨encoded, hencoded, hlen⟩ := encodeRecord_ok hwell
    cases hbytes.symm.trans hencoded
    have hpos := hwell.body_pos
    have := ih (fun r hmem => hr r (mem_cons_of_mem _ hmem)) hrest
    rw [flatten_cons, length_cons, length_append]
    omega

/-- A cell of well formed records, at most one of them initial, parses to its records exactly when no terminal follow-on
is below an earlier follow-on, of whatever message. -/
theorem parse_cell_iff {sha256 : List UInt8 → Hash} {iv : TunnelIv} {payload : TunnelPayload}
    {records : List FragmentDelivery} {chunks : List (List UInt8)} {padding : List UInt8}
    (hr : ∀ record ∈ records, record.WellFormed) (hinitial : (records.filter isInitial).length ≤ 1)
    (he : records.mapM encodeRecord = .ok chunks) (hpad : ∀ byte ∈ padding, byte ≠ 0) (hp : payload.toList =
      (sha256 (chunks.flatten ++ iv.toList)).toList.take checksumLen ++ (padding ++ 0 :: chunks.flatten)) :
    parse sha256 iv payload = .ok records ↔ records.Pairwise Ascends := by
  have hrecords := parseRecords_flatten_iff hr he (length_le_flatten hr he) (false, 0)
  rw [parse_eq_parseRecords hpad hp, hrecords, allAdmissible_iff (by simpa using hinitial)]
  exact ⟨fun h => h.2, fun h => ⟨fun record _ => reachesUp_zero record, h⟩⟩

section Sample

/-- A middle fragment of one message and the last fragment of another. -/
def sampleRecords (sequence last : UInt8) : List FragmentDelivery :=
  [⟨none, .followOn 1 sequence false [10]⟩, ⟨none, .followOn 2 last true [20]⟩]

def sampleChunks (sequence last : UInt8) : List (List UInt8) :=
  [[followOnControl sequence false, 0, 0, 0, 1, 0, 1, 10], [followOnControl last true, 0, 0, 0, 2, 0, 1, 20]]

def sampleCell (sequence last : UInt8) : TunnelPayload :=
  ⟨List.replicate 4 0 ++ (List.replicate 987 1 ++ 0 :: (sampleChunks sequence last).flatten), by
    rw [List.length_append, List.length_append, List.length_replicate, List.length_replicate]
    rfl⟩

def zeroHash (_ : List UInt8) : Hash := .replicate 32 0

def zeroIv : TunnelIv := .replicate 16 0

theorem sampleRecords_wellFormed {sequence last : UInt8} (hsequence : 1 ≤ sequence ∧ sequence ≤ 63)
    (hlast : 1 ≤ last ∧ last ≤ 63) : ∀ record ∈ sampleRecords sequence last, record.WellFormed := by
  refine forall_mem_cons.mpr ⟨?_, forall_mem_singleton.mpr ?_⟩
  · exact ⟨by decide, hsequence.1, hsequence.2, by simp, by simp⟩
  · exact ⟨by decide, hlast.1, hlast.2, by simp, by simp⟩

theorem samplePadding_nonzero : ∀ byte ∈ replicate 987 (1 : UInt8), byte ≠ 0 := by
  intro byte hbyte
  rw [eq_of_mem_replicate hbyte]
  decide

theorem sampleCell_toList (sequence last : UInt8) : (sampleCell sequence last).toList =
      (zeroHash ((sampleChunks sequence last).flatten ++ zeroIv.toList)).toList.take checksumLen ++
        (replicate 987 1 ++ 0 :: (sampleChunks sequence last).flatten) :=
  rfl

theorem parse_sampleCell_five_seven :
    parse zeroHash zeroIv (sampleCell 5 7) = .ok (sampleRecords 5 7) ∧ (sampleRecords 5 7).Pairwise Ascends := by
  have hascends : (sampleRecords 5 7).Pairwise Ascends := by
    simp only [sampleRecords, pairwise_cons, mem_singleton, forall_eq, Ascends, ReachesUp]
    exact ⟨by decide, by simp, .nil⟩
  have hencode : (sampleRecords 5 7).mapM encodeRecord = .ok (sampleChunks 5 7) := by decide
  exact ⟨(parse_cell_iff (sampleRecords_wellFormed (by decide) (by decide)) (by decide) hencode samplePadding_nonzero
    (sampleCell_toList 5 7)).mpr hascends, hascends⟩

/-- A middle fragment 5 of one message makes the last fragment 1 of another message rejected. -/
theorem parse_sampleCell_five_one :
    (∀ record ∈ sampleRecords 5 1, record.WellFormed) ∧ ((sampleRecords 5 1).filter isInitial).length ≤ 1 ∧
      (sampleRecords 5 1).Pairwise (fun a b => a.fragment.messageId = b.fragment.messageId → a.Ascends b) ∧
      (sampleRecords 5 1).mapM encodeRecord = .ok (sampleChunks 5 1) ∧
      parse zeroHash zeroIv (sampleCell 5 1) = .error (.lastBelowObservedMax 1 5) := by
  refine ⟨sampleRecords_wellFormed (by decide) (by decide), by decide, ?_, by decide, ?_⟩
  · refine .cons ?_ (.cons (by simp) .nil)
    intro record hrecord hsame
    rw [mem_singleton.mp hrecord] at hsame
    exact absurd hsame (by decide)
  · rw [parse_eq_parseRecords samplePadding_nonzero (sampleCell_toList 5 1)]
    decide

end Sample

end I2pr

import I2pr.Ssu2Packet
import I2pr.Lib.RunLength

namespace I2pr.Ssu2

def dataReplayWindowPackets : Nat := 128
def dataMaxFutureJump : UInt32 := 1024

inductive ReplayCheck where
  | admissible
  | duplicate
  | tooOld
  | futureJump
deriving DecidableEq, Repr

/-- The receive window: bit `i` of a bitmap stands for packet `highestReceived - i`. -/
structure ReplayWindow where
  highestReceived : Option UInt32
  receivedBitmap : BitVec 128
  elicitingBitmap : BitVec 128
  anchored : highestReceived.isSome → receivedBitmap.getLsbD 0 = true

namespace ReplayWindow

def empty : ReplayWindow := ⟨none, 0#128, 0#128, by simp⟩

def checkReplay (w : ReplayWindow) (packetNumber : UInt32) : ReplayCheck :=
  match w.highestReceived with
  | none => .admissible
  | some highest =>
    if packetNumber = highest then .duplicate
    else if packetNumber - highest < 2 ^ 31 then
      if dataMaxFutureJump < packetNumber - highest then .futureJump else .admissible
    else if dataReplayWindowPackets ≤ (highest - packetNumber).toNat then .tooOld
    else if w.receivedBitmap.getLsbD (highest - packetNumber).toNat then .duplicate
    else .admissible

/-- Moving a bitmap `forward` packets up; a jump of the window width or more empties it. -/
def advance (bitmap : BitVec 128) (forward : UInt32) : BitVec 128 :=
  if dataReplayWindowPackets ≤ forward.toNat then 0#128 else bitmap <<< forward.toNat

/-- The window part of `mark_received`. -/
def mark (w : ReplayWindow) (packetNumber : UInt32) (ackEliciting : Bool) : ReplayWindow :=
  match h : w.highestReceived with
  | none => ⟨some packetNumber, 1#128, if ackEliciting then 1#128 else 0#128, by simp⟩
  | some highest =>
    let forward := packetNumber - highest
    if forward ≠ 0 ∧ forward < 2 ^ 31 then
      { highestReceived := some packetNumber
        receivedBitmap := advance w.receivedBitmap forward ||| 1#128
        elicitingBitmap := advance w.elicitingBitmap forward ||| if ackEliciting then 1#128 else 0#128
        anchored := by simp }
    else
      let bit := 1#128 <<< (highest - packetNumber).toNat
      { highestReceived := some highest
        receivedBitmap := w.receivedBitmap ||| bit
        elicitingBitmap := w.elicitingBitmap ||| if ackEliciting then bit else 0#128
        anchored := by simp [w.anchored (by simp [h])] }

def Received (w : ReplayWindow) (n : UInt32) : Prop :=
  ∃ highest, w.highestReceived = some highest ∧ w.receivedBitmap.getLsbD (highest - n).toNat = true

theorem toNat_sub_eq_zero (a b : UInt32) : (a - b).toNat = 0 ↔ b = a := by
  rw [← UInt32.toNat_inj, UInt32.toNat_sub]
  have := a.toNat_lt
  have := b.toNat_lt
  omega

theorem toNat_sub_trans (a b c : UInt32) : (a - c).toNat = ((a - b).toNat + (b - c).toNat) % 2 ^ 32 := by
  simp only [UInt32.toNat_sub]
  have := a.toNat_lt
  have := b.toNat_lt
  have := c.toNat_lt
  omega

theorem getLsbD_advance (bitmap : BitVec 128) (forward : UInt32) (i : Nat) : (advance bitmap forward).getLsbD i =
      (decide (i < 128) && !decide (i < forward.toNat) && bitmap.getLsbD (i - forward.toNat)) := by
  unfold advance
  split
  next hwide =>
    have : ¬ (i < 128 ∧ ¬ i < forward.toNat) := by
      rw [dataReplayWindowPackets] at hwide
      omega
    rcases not_and_or.mp this with h | h <;> simp [h]
  · simp

theorem getLsbD_one_shiftLeft (k i : Nat) : (1#128 <<< k).getLsbD i = (decide (i < 128) && decide (i = k)) := by
  rw [BitVec.getLsbD_shiftLeft, BitVec.getLsbD_one]
  by_cases hi : i < 128 <;> by_cases hk : i = k <;> simp [hi, hk]
  all_goals omega

section Mark

variable {w : ReplayWindow} {n highest : UInt32} (eliciting : Bool)

theorem mark_fresh (h : w.highestReceived = none) : (w.mark n eliciting).highestReceived = some n ∧
    (w.mark n eliciting).receivedBitmap = 1#128 := by
  unfold mark
  split
  · exact ⟨rfl, rfl⟩
  next hsome => simp [h] at hsome

theorem mark_ahead (h : w.highestReceived = some highest) (hahead : n ≠ highest ∧ n - highest < 2 ^ 31) :
    (w.mark n eliciting).highestReceived = some n ∧
      (w.mark n eliciting).receivedBitmap = advance w.receivedBitmap (n - highest) ||| 1#128 := by
  unfold mark
  split
  next hnone => simp [h] at hnone
  next highest' hsome =>
    cases h.symm.trans hsome
    have hne : n - highest ≠ 0 := fun h0 => hahead.1 ((toNat_sub_eq_zero _ _).mp (by rw [h0]; rfl)).symm
    rw [if_pos ⟨hne, hahead.2⟩]
    exact ⟨rfl, rfl⟩

theorem mark_behind (h : w.highestReceived = some highest) (hbehind : ¬ n - highest < 2 ^ 31) :
    (w.mark n eliciting).highestReceived = some highest ∧
      (w.mark n eliciting).receivedBitmap = w.receivedBitmap ||| 1#128 <<< (highest - n).toNat := by
  unfold mark
  split
  next hnone => simp [h] at hnone
  next highest' hsome =>
    cases h.symm.trans hsome
    rw [if_neg (fun hc => hbehind hc.2)]
    exact ⟨rfl, rfl⟩

end Mark

/-- What `check_replay` lets through: the first packet, one at most 1024 ahead, or one in the window that
was not seen. -/
theorem checkReplay_admissible {w : ReplayWindow} {n : UInt32} (h : w.checkReplay n = .admissible) :
    w.highestReceived = none ∨ ∃ highest, w.highestReceived = some highest ∧ n ≠ highest ∧
      (n - highest < 2 ^ 31 ∧ (n - highest).toNat ≤ 1024 ∨
        ¬ n - highest < 2 ^ 31 ∧ (highest - n).toNat < 128 ∧ ¬ w.Received n) := by
  unfold checkReplay at h
  split at h
  next hnone => exact Or.inl hnone
  next highest hsome =>
    refine Or.inr ⟨highest, hsome, ?_⟩
    split at h
    · cases h
    next hne =>
      refine ⟨hne, ?_⟩
      split at h
      next hahead =>
        split at h
        · cases h
        next hjump =>
          have : (dataMaxFutureJump : UInt32).toNat = 1024 := rfl
          rw [UInt32.lt_iff_toNat_lt] at hjump
          exact Or.inl ⟨hahead, by omega⟩
      next hbehind =>
        split at h
        · cases h
        next hwindow =>
          split at h
          · cases h
          next hclear =>
            rw [dataReplayWindowPackets] at hwindow
            refine Or.inr ⟨hbehind, by omega, ?_⟩
            rintro ⟨highest', hsome', hbit⟩
            cases hsome.symm.trans hsome'
            exact hclear hbit

/-- An admitted packet enters the window, and nothing else does; what falls out lies a window width below
the highest number. -/
theorem received_mark {w : ReplayWindow} {n : UInt32} (hadmitted : w.checkReplay n = .admissible) (eliciting : Bool)
    (m : UInt32) : (w.mark n eliciting).Received m ↔ m = n ∨
      (w.Received m ∧ ∃ highest, (w.mark n eliciting).highestReceived = some highest ∧ (highest - m).toNat < 128) := by
  rcases checkReplay_admissible hadmitted with hnone | ⟨highest, hsome, hne, hahead | hbehind⟩
  · obtain ⟨hhigh, hbits⟩ := mark_fresh (n := n) eliciting hnone
    simp [Received, hhigh, hbits, hnone, BitVec.getLsbD_one, toNat_sub_eq_zero]
  · obtain ⟨hhigh, hbits⟩ := mark_ahead eliciting hsome ⟨hne, hahead.1⟩
    have hsplit := toNat_sub_trans n highest m
    have hlow : w.receivedBitmap.getLsbD (highest - m).toNat = true → (highest - m).toNat < 128 :=
      BitVec.lt_of_getLsbD
    simp only [Received, hhigh, hbits, hsome, Option.some.injEq, exists_eq_left', BitVec.getLsbD_or,
      getLsbD_advance, BitVec.getLsbD_one, Bool.or_eq_true, Bool.and_eq_true, decide_eq_true_eq,
      Bool.not_eq_true', decide_eq_false_iff_not, toNat_sub_eq_zero]
    constructor
    · rintro (⟨⟨hlt, hge⟩, hbit⟩ | ⟨-, hm⟩)
      · have hoff : (n - m).toNat - (n - highest).toNat = (highest - m).toNat := by
          have := (highest - m).toNat_lt
          omega
        exact Or.inr ⟨hoff ▸ hbit, hlt⟩
      · exact Or.inl hm
    · rintro (hm | ⟨hbit, hlt⟩)
      · exact Or.inr ⟨by decide, hm⟩
      · have := hlow hbit
        have hoff : (n - m).toNat - (n - highest).toNat = (highest - m).toNat := by omega
        exact Or.inl ⟨⟨hlt, by omega⟩, by rwa [hoff]⟩
  · obtain ⟨hhigh, hbits⟩ := mark_behind eliciting hsome hbehind.1
    simp only [Received, hhigh, hbits, hsome, Option.some.injEq, exists_eq_left', BitVec.getLsbD_or,
      getLsbD_one_shiftLeft, Bool.or_eq_true, Bool.and_eq_true, decide_eq_true_eq]
    have hsame : (highest - m).toNat = (highest - n).toNat ↔ m = n := by
      rw [← UInt32.toNat_inj, UInt32.toNat_sub, UInt32.toNat_sub]
      have := highest.toNat_lt
      have := m.toNat_lt
      have := n.toNat_lt
      omega
    rw [hsame]
    constructor
    · rintro (hbit | ⟨-, hm⟩)
      · exact Or.inr ⟨hbit, BitVec.lt_of_getLsbD hbit⟩
      · exact Or.inl hm
    · rintro (rfl | ⟨hbit, -⟩)
      · exact Or.inr ⟨hbehind.2.1, rfl⟩
      · exact Or.inl hbit

/-- The wrap-aware comparison of `check_replay` agrees with the order of the numbers: the step from one to
the other does not cross `2 ^ 32`. -/
def InOrder (highest n : UInt32) : Prop :=
  n - highest < 2 ^ 31 ↔ highest ≤ n

instance (highest n : UInt32) : Decidable (InOrder highest n) :=
  inferInstanceAs (Decidable (_ ↔ _))

/-- Windows reached by marking admitted packets without crossing `2 ^ 32`, with the numbers marked. -/
inductive Reached : List UInt32 → ReplayWindow → Prop
  | empty : Reached [] empty
  | mark {numbers : List UInt32} {w : ReplayWindow} (h : Reached numbers w) {n : UInt32} (eliciting : Bool)
      (hadmitted : w.checkReplay n = .admissible) (horder : ∀ highest, w.highestReceived = some highest → InOrder highest n) :
      Reached (n :: numbers) (w.mark n eliciting)

/-- Every number marked lies at or below the highest one, and the bitmap holds exactly those in the window. -/
structure Covers (w : ReplayWindow) (numbers : List UInt32) : Prop where
  le_highest : ∀ n ∈ numbers, ∃ highest, w.highestReceived = some highest ∧ n ≤ highest
  received_iff : ∀ n, w.Received n ↔
    n ∈ numbers ∧ ∃ highest, w.highestReceived = some highest ∧ (highest - n).toNat < 128

section Mark

variable {w : ReplayWindow} {n : UInt32} (eliciting : Bool) (hadmitted : w.checkReplay n = .admissible)
  (horder : ∀ highest, w.highestReceived = some highest → InOrder highest n)
include hadmitted horder

theorem mark_highest :
    ∃ highest, (w.mark n eliciting).highestReceived = some highest ∧ n ≤ highest ∧ (highest - n).toNat < 128 ∧
      ∀ old, w.highestReceived = some old → old ≤ highest := by
  rcases checkReplay_admissible hadmitted with hnone | ⟨old, hsome, hne, hahead | hbehind⟩
  · exact ⟨n, (mark_fresh eliciting hnone).1, UInt32.le_refl n, by simp, by simp [hnone]⟩
  · refine ⟨n, (mark_ahead eliciting hsome ⟨hne, hahead.1⟩).1, UInt32.le_refl n, by simp, ?_⟩
    rintro _ h
    cases hsome.symm.trans h
    exact (horder old hsome).mp hahead.1
  · refine ⟨old, (mark_behind eliciting hsome hbehind.1).1, ?_, hbehind.2.1, ?_⟩
    · by_contra hgt
      refine hbehind.1 ((horder old hsome).mpr ?_)
      rw [UInt32.le_iff_toNat_le] at hgt ⊢
      omega
    · rintro _ h
      cases hsome.symm.trans h
      exact UInt32.le_refl old

theorem Covers.mark {numbers : List UInt32} (h : w.Covers numbers) : (w.mark n eliciting).Covers (n :: numbers) := by
  obtain ⟨highest, hhigh, hle, hnear, hraise⟩ := mark_highest eliciting hadmitted horder
  constructor
  · intro m hm
    refine ⟨highest, hhigh, ?_⟩
    rcases List.mem_cons.mp hm with rfl | hm
    · exact hle
    · obtain ⟨old, hsome, hold⟩ := h.le_highest m hm
      exact UInt32.le_trans hold (hraise old hsome)
  · intro m
    rw [received_mark hadmitted, h.received_iff]
    simp only [hhigh, Option.some.injEq, exists_eq_left', List.mem_cons]
    constructor
    · rintro (rfl | ⟨⟨hm, -⟩, hlt⟩)
      · exact ⟨Or.inl rfl, hnear⟩
      · exact ⟨Or.inr hm, hlt⟩
    · rintro ⟨rfl | hm, hlt⟩
      · exact Or.inl rfl
      · -- what is still in the window now was in it before, since the highest number only rises
        obtain ⟨old, hsome, hold⟩ := h.le_highest m hm
        have hup := hraise old hsome
        rw [UInt32.toNat_sub_of_le _ _ (UInt32.le_trans hold hup)] at hlt
        rw [UInt32.le_iff_toNat_le] at hup
        refine Or.inr ⟨⟨hm, old, hsome, ?_⟩, by rwa [UInt32.toNat_sub_of_le _ _ (UInt32.le_trans hold (hraise old hsome))]⟩
        rw [UInt32.toNat_sub_of_le _ _ hold]
        omega

end Mark

theorem covers_empty : empty.Covers [] := by
  refine ⟨by simp, fun n => ?_⟩
  have hnone : empty.highestReceived = none := rfl
  simp [Received, hnone]

theorem Reached.covers {numbers : List UInt32} {w : ReplayWindow} (h : Reached numbers w) : w.Covers numbers := by
  induction h with
  | empty => exact covers_empty
  | mark _ eliciting hadmitted horder ih => exact ih.mark eliciting hadmitted horder

end ReplayWindow

end I2pr.Ssu2

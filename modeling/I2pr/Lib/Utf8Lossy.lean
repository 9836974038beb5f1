import I2pr.Lib.Utf8

namespace Utf8

open List

def replacement : List UInt8 := [0xef, 0xbf, 0xbd]

/-- The text of any bytes: one replacement character for each start of a character that does not go on. The first
argument is the start of the character in progress. -/
def lossyFrom : List UInt8 → List (UInt8 × UInt8) → List UInt8 → List UInt8
  | _, owed, [] => if owed.isEmpty then [] else replacement
  | started, owed, byte :: rest =>
    let first :=
      match follow byte with
      | none => replacement ++ lossyFrom [] [] rest
      | some [] => byte :: lossyFrom [] [] rest
      | some owed => lossyFrom [byte] owed rest
    match owed with
    | [] => first
    | (low, high) :: owed =>
      if low ≤ byte ∧ byte ≤ high then
        match owed with
        | [] => started ++ byte :: lossyFrom [] [] rest
        | owed => lossyFrom (started ++ [byte]) owed rest
      else replacement ++ first

def lossy (bytes : List UInt8) : List UInt8 := lossyFrom [] [] bytes

/-- ASCII bytes are never part of what is replaced. -/
theorem mem_lossyFrom {started : List UInt8} {owed : List (UInt8 × UInt8)} {bytes : List UInt8} {byte : UInt8}
    (howed : Owed owed) (hascii : byte < 0x80) (h : byte ∈ bytes) : byte ∈ lossyFrom started owed bytes := by
  induction bytes generalizing started owed with
  | nil => cases h
  | cons next rest ih =>
    have hfirst : byte ∈ (match follow next with
        | none => replacement ++ lossyFrom [] [] rest
        | some [] => next :: lossyFrom [] [] rest
        | some owed => lossyFrom [next] owed rest) := by
      rcases mem_cons.mp h with rfl | h
      · rw [show follow byte = some [] from if_pos hascii]
        exact mem_cons_self
      · split
        · exact mem_append_right _ (ih owed_nil h)
        · exact mem_cons_of_mem _ (ih owed_nil h)
        next hfollow => exact ih (owed_of_follow hfollow) h
    unfold lossyFrom
    cases owed with
    | nil => exact hfirst
    | cons range owed =>
      have hrange := howed range mem_cons_self
      have hlater : Owed owed := fun r hr => howed r (mem_cons_of_mem _ hr)
      dsimp only
      split
      next hin =>
        have hrest : byte ∈ rest := by
          rcases mem_cons.mp h with rfl | h
          · exact absurd (UInt8.le_trans hrange.1 hin.1) (UInt8.not_le.mpr hascii)
          · exact h
        split
        · exact mem_append_right _ (mem_cons_of_mem _ (ih owed_nil hrest))
        · exact ih hlater hrest
      · exact mem_append_right _ hfirst

theorem mem_lossy {bytes : List UInt8} {byte : UInt8} (hascii : byte < 0x80) (h : byte ∈ bytes) : byte ∈ lossy bytes :=
  mem_lossyFrom owed_nil hascii h

end Utf8

import Mathlib

/-! A stream cut into reads. -/

namespace Reads

open List

variable {S : Type}

/-- The rest of the read that holds the `n`th symbol, and the reads after it. -/
def after : Nat → List (List S) → List S × List (List S)
  | _, [] => ([], [])
  | n, read :: reads => if n ≤ read.length then (read.drop n, reads) else after (n - read.length) reads

def singles (stream : List S) : List (List S) := stream.map fun symbol => [symbol]

@[simp] theorem flatten_singles (stream : List S) : (singles stream).flatten = stream := by
  induction stream with
  | nil => rfl
  | cons symbol stream ih => rw [singles, map_cons, flatten_cons, ← singles, ih]; rfl

theorem flatten_after (n : Nat) (reads : List (List S)) :
    (after n reads).1 ++ (after n reads).2.flatten = reads.flatten.drop n := by
  induction reads generalizing n with
  | nil => simp [after]
  | cons read reads ih =>
    rw [after, flatten_cons, drop_append]
    split
    next h => rw [show n - read.length = 0 by omega, drop_zero]
    next h => rw [ih, drop_eq_nil_of_le (show read.length ≤ n by omega), nil_append]

theorem after_subset (n : Nat) (reads : List (List S)) : ∀ read ∈ (after n reads).2, read ∈ reads := by
  induction reads generalizing n with
  | nil => simp [after]
  | cons read reads ih =>
    intro r hr
    rw [after] at hr
    split at hr
    · exact mem_cons_of_mem _ hr
    · exact mem_cons_of_mem _ (ih _ r hr)

theorem length_after_lt {n size : Nat} {reads : List (List S)} (hn : 0 < n) (hsize : 0 < size)
    (h : ∀ read ∈ reads, read.length ≤ size) : (after n reads).1.length < size := by
  induction reads generalizing n with
  | nil => exact hsize
  | cons read reads ih =>
    have hread := h read mem_cons_self
    rw [after]
    split
    next hle =>
      rw [length_drop]
      omega
    next hle => exact ih (by omega) fun r hr => h r (mem_cons_of_mem _ hr)

theorem after_singles_append (before : List S) (symbol : S) (tail : List S) (reads : List (List S)) :
    after (before.length + 1) (singles before ++ (symbol :: tail) :: reads) = (tail, reads) := by
  induction before with
  | nil => simp [after, singles]
  | cons first before ih =>
    rw [← ih]
    simp [after, singles]

theorem after_singles (before : List S) (symbol : S) (later : List S) (reads : List (List S)) :
    after (before.length + 1) (singles (before ++ symbol :: later) ++ reads) = ([], singles later ++ reads) := by
  simpa [singles] using after_singles_append before symbol [] (singles later ++ reads)

end Reads

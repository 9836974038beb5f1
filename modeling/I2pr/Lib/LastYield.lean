import Mathlib

namespace LastYield

variable {S A M E : Type} (turn : S → A → S × Except E (Option M))

/-- A loop that keeps the last value its body yields; an error ends it and what was kept is gone. -/
def run : S → Option M → List A → S × Except E (Option M)
  | s, kept, [] => (s, .ok kept)
  | s, kept, item :: items =>
    match turn s item with
    | (s, .error e) => (s, .error e)
    | (s, .ok none) => run s kept items
    | (s, .ok (some m)) => run s (some m) items

/-- Every value the body yields until the loop ends. -/
def yielded : S → List A → List M
  | _, [] => []
  | s, item :: items =>
    match turn s item with
    | (_, .error _) => []
    | (s, .ok none) => yielded s items
    | (s, .ok (some m)) => m :: yielded s items

/-- No item yields a value or is refused. -/
def Quiet : S → List A → Prop
  | _, [] => True
  | s, item :: items => (turn s item).2 = .ok none ∧ Quiet (turn s item).1 items

/-- After an item that yields a value no item yields another or is refused. -/
def YieldsLast : S → List A → Prop
  | _, [] => True
  | s, item :: items =>
    match turn s item with
    | (_, .error _) => True
    | (s, .ok none) => YieldsLast s items
    | (s, .ok (some _)) => Quiet turn s items

def handedBack : Except E (Option M) → List M
  | .ok (some m) => [m]
  | _ => []

theorem length_handedBack_le (result : Except E (Option M)) : (handedBack result).length ≤ 1 := by
  unfold handedBack
  split
  · exact le_rfl
  · exact Nat.zero_le _

/-- A kept value comes back, and with it all others, exactly when the rest of the loop is quiet. -/
theorem handedBack_run_some_iff (s : S) (m : M) (items : List A) :
    handedBack (run turn s (some m) items).2 = m :: yielded turn s items ↔ Quiet turn s items := by
  induction items generalizing s with
  | nil => simp [run, handedBack, yielded, Quiet]
  | cons item items ih =>
    rw [run, yielded, Quiet]
    rcases hturn : turn s item with ⟨s', e | - | m'⟩
    · simp [handedBack]
    · simpa using ih s'
    · have hlen := length_handedBack_le (run turn s' (some m') items).2
      constructor
      · intro h
        rw [h] at hlen
        simp at hlen
      · rintro ⟨h, -⟩
        cases h

theorem handedBack_run_iff (s : S) (items : List A) :
    handedBack (run turn s none items).2 = yielded turn s items ↔ YieldsLast turn s items := by
  induction items generalizing s with
  | nil => simp [run, handedBack, yielded, YieldsLast]
  | cons item items ih =>
    rw [run, yielded, YieldsLast]
    rcases turn s item with ⟨s', e | - | m'⟩
    · simp [handedBack]
    · exact ih s'
    · exact handedBack_run_some_iff turn s' m' items

end LastYield

import Mathlib

namespace KeyChain

variable {K T : Type} (step : K → K × T)

def state (root : K) : Nat → K
  | 0 => root
  | n + 1 => (step (state root n)).1

/-- What the ratchet puts out at its step `n`. -/
def output (root : K) (n : Nat) : T :=
  (step (state step root n)).2

theorem step_state (root : K) (n : Nat) :
    step (state step root n) = (state step root (n + 1), output step root n) := rfl

/-- The outputs of `count` steps from step `start` on. -/
def outputs (root : K) (start count : Nat) : List T :=
  (List.range' start count).map (output step root)

@[simp]
theorem length_outputs (root : K) (start count : Nat) : (outputs step root start count).length = count := by
  simp [outputs]

theorem outputs_succ (root : K) (start count : Nat) :
    outputs step root start (count + 1) = outputs step root start count ++ [output step root (start + count)] := by
  simp [outputs, List.range'_concat]

theorem drop_outputs (root : K) (start count n : Nat) :
    (outputs step root start count).drop n = outputs step root (start + n) (count - n) := by
  rw [outputs, outputs, ← List.map_drop, List.drop_range']
  simp

theorem getElem?_outputs (root : K) {start count n : Nat} (h : n < count) :
    (outputs step root start count)[n]? = some (output step root (start + n)) := by
  simp [outputs, List.getElem?_range' h]

end KeyChain

import I2pr.Lib.Fallible

namespace Collect

open Fallible

variable {M : Type} (need : M → Finset Nat)

/-- Every piece of `m` has arrived. -/
def Complete (past : List (M × Nat)) (m : M) : Prop :=
  ∀ p ∈ need m, (m, p) ∈ past

/-- The arrival at position `n` is the one that completes `m`. -/
def Completes (schedule : List (M × Nat)) (n : Nat) (m : M) : Prop :=
  ¬ Complete need (schedule.take n) m ∧ Complete need (schedule.take (n + 1)) m

variable {need}

variable {schedule : List (M × Nat)} {m : M}

theorem Complete.mono {past later : List (M × Nat)} (h : Complete need past m) (hsub : past ⊆ later) :
    Complete need later m :=
  fun p hp => hsub (h p hp)

theorem Complete.take {i j : Nat} (hij : i ≤ j)
    (h : Complete need (schedule.take i) m) : Complete need (schedule.take j) m :=
  h.mono fun _ hx => ((List.take_prefix_take_left hij).subset) hx

theorem Completes.getElem? {n : Nat} (h : Completes need schedule n m) : ∃ p ∈ need m, schedule[n]? = some (m, p) := by
  obtain ⟨hbefore, hafter⟩ := h
  unfold Complete at hbefore
  push Not at hbefore
  obtain ⟨p, hp, hmissing⟩ := hbefore
  have hmem := hafter p hp
  rw [List.take_add_one, List.mem_append] at hmem
  refine ⟨p, hp, ?_⟩
  rcases hmem with hold | hnew
  · exact absurd hold hmissing
  · simpa using hnew

theorem existsUnique_completes (hne : (need m).Nonempty)
    (hall : Complete need schedule m) : ∃! n, Completes need schedule n m := by
  classical
  have hex : ∃ n, Complete need (schedule.take n) m := ⟨schedule.length, by rwa [List.take_length]⟩
  have hpos : Nat.find hex ≠ 0 := by
    intro h0
    obtain ⟨p, hp⟩ := hne
    have := Nat.find_spec hex p hp
    rw [h0] at this
    simp at this
  obtain ⟨n, hn⟩ := Nat.exists_eq_succ_of_ne_zero hpos
  refine ⟨n, ⟨Nat.find_min hex (by omega), ?_⟩, ?_⟩
  · have := Nat.find_spec hex
    rwa [hn] at this
  · rintro k ⟨hbefore, hafter⟩
    have hle := Nat.find_min' hex hafter
    have hspec := Nat.find_spec hex
    rw [hn] at hle hspec
    by_contra hne'
    exact hbefore (hspec.take (by omega))

theorem mapM_eq_some {A B : Type} {xs : List A} {lookup : A → Option B} {piece : A → B}
    (h : ∀ x ∈ xs, lookup x = some (piece x)) : xs.mapM lookup = some (xs.map piece) := by
  induction xs with
  | nil => rfl
  | cons x xs ih =>
    rw [List.mapM_cons, h x (by simp), ih fun y hy => h y (by simp [hy])]
    rfl

theorem mapM_eq_ok {A B E : Type} {f : A → Except E B} {xs : List A} {ys : List B} (h : xs.mapM f = .ok ys) :
    ys.length = xs.length ∧ ∀ (i : Nat) x y, xs[i]? = some x → ys[i]? = some y → f x = .ok y := by
  induction xs generalizing ys with
  | nil =>
    cases Except.ok.inj h
    simp
  | cons x xs ih =>
    rw [List.mapM_cons] at h
    obtain ⟨y, hx, h⟩ := bind_eq_ok.mp h
    obtain ⟨rest, hxs, h⟩ := bind_eq_ok.mp h
    cases h
    obtain ⟨hlength, hget⟩ := ih hxs
    refine ⟨by simp [hlength], fun i x' y' hx' hy' => ?_⟩
    cases i with
    | zero =>
      cases Option.some.inj hx'
      cases Option.some.inj hy'
      exact hx
    | succ i => exact hget i x' y' hx' hy'

end Collect

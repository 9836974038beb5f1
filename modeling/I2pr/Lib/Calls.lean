import Mathlib

/-- A call on a state. It may never return, and a call that fails keeps the changes it made. -/
def Call (S E A : Type) : Type := S → Option (Except E A × S)

namespace Call

variable {S E A B : Type}

def andThen (x : Call S E A) (f : A → Call S E B) : Call S E B := fun s =>
  match x s with
  | none => none
  | some (.error e, s) => some (.error e, s)
  | some (.ok a, s) => f a s

instance : Monad (Call S E) where
  pure a := fun s => some (.ok a, s)
  bind := andThen

def state : Call S E S := fun s => some (.ok s, s)

def update (f : S → S) : Call S E Unit := fun s => some (.ok (), f s)

def fail (e : E) : Call S E A := fun s => some (.error e, s)

def never : Call S E A := fun _ => none

def ofExcept (r : Except E A) : Call S E A := fun s => some (r, s)

def ofOption (value : Option A) (e : E) : Call S E A := ofExcept (value.elim (.error e) .ok)

def failIf (p : Prop) [Decidable p] (e : E) : Call S E Unit := if p then fail e else pure ()

/-- Whatever the call ends with meets the postcondition. -/
def Ends (x : Call S E A) (s : S) (Q : Except E A → S → Prop) : Prop :=
  ∀ r s', x s = some (r, s') → Q r s'

variable {x : Call S E A} {a : A} {e : E}

theorem Ends.mono {s : S} {Q R : Except E A → S → Prop} (h : Ends x s Q) (hQ : ∀ r s', Q r s' → R r s') : Ends x s R :=
  fun r s' hx => hQ r s' (h r s' hx)

variable {s : S} {Q : Except E A → S → Prop}

theorem ends_of_eq {r : Except E A} {t : S} (h : x s = some (r, t)) : Ends x s Q ↔ Q r t := by
  constructor
  · intro hends
    exact hends r t h
  · intro hQ r' t' h'
    cases h.symm.trans h'
    exact hQ

@[simp] theorem ends_pure : Ends (pure a) s Q ↔ Q (.ok a) s := ends_of_eq rfl

@[simp] theorem ends_update {f : S → S} {Q : Except E Unit → S → Prop} :
    Ends (update f : Call S E Unit) s Q ↔ Q (.ok ()) (f s) :=
  ends_of_eq rfl

@[simp] theorem ends_fail : Ends (fail e : Call S E A) s Q ↔ Q (.error e) s := ends_of_eq rfl

@[simp] theorem ends_never : Ends (never : Call S E A) s Q := by
  intro r s' h
  cases h

@[simp] theorem ends_ofExcept {r : Except E A} : Ends (ofExcept r : Call S E A) s Q ↔ Q r s := ends_of_eq rfl

theorem bind_eq (x : Call S E B) (f : B → Call S E A) (s : S) : (x >>= f) s = match x s with
      | none => none
      | some (.error e, s) => some (.error e, s)
      | some (.ok b, s) => f b s :=
  rfl

theorem ends_bind {x : Call S E B} {f : B → Call S E A} : Ends (x >>= f) s Q ↔
      Ends x s fun r s' => (∀ b, r = .ok b → Ends (f b) s' Q) ∧ ∀ e, r = .error e → Q (.error e) s' := by
  constructor
  · intro h r s' hx
    constructor
    · rintro b rfl r' s'' hf
      exact h r' s'' (by rw [bind_eq, hx]; exact hf)
    · rintro e rfl
      exact h _ s' (by rw [bind_eq, hx])
  · intro h r s' hbind
    rw [bind_eq] at hbind
    cases hx : x s with
    | none =>
      rw [hx] at hbind
      cases hbind
    | some ended =>
      obtain ⟨result, t⟩ := ended
      rw [hx] at hbind
      cases result with
      | error e =>
        cases hbind
        exact (h _ _ hx).2 e rfl
      | ok b => exact (h _ _ hx).1 b rfl r s' hbind

theorem Ends.ignore {R : Except E Unit → S → Prop} (h : Ends x s Q)
    (hok : ∀ a s', Q (.ok a) s' → R (.ok ()) s') (herr : ∀ e s', Q (.error e) s' → R (.error e) s') :
    Ends (do
      let _ ← x
      pure ()) s R := by
  refine ends_bind.mpr (h.mono fun r s' hr => ⟨?_, ?_⟩)
  · rintro a rfl
    exact ends_pure.mpr (hok a s' hr)
  · rintro e rfl
    exact herr e s' hr

theorem Ends.ignore_state {P : S → Prop} (h : Ends x s fun _ s' => P s') : Ends (do
      let _ ← x
      pure ()) s fun _ s' => P s' :=
  h.ignore (fun _ _ hP => hP) fun _ _ hP => hP

@[simp] theorem ends_failIf {p : Prop} [Decidable p] {Q : Except E Unit → S → Prop} :
    Ends (failIf p e : Call S E Unit) s Q ↔ (p → Q (.error e) s) ∧ (¬ p → Q (.ok ()) s) := by
  unfold failIf
  by_cases hp : p
  · simp [hp]
  · simp [hp]

/-- The call leaves the state as it finds it, whether it fails or not. -/
class Reads (x : Call S E A) : Prop where
  same : ∀ s, Ends x s fun _ s' => s' = s

instance {r : Except E A} : Reads (ofExcept r : Call S E A) := ⟨fun _ => ends_ofExcept.mpr rfl⟩

instance {value : Option A} {e : E} : Reads (ofOption value e : Call S E A) :=
  inferInstanceAs (Reads (ofExcept _ : Call S E A))

instance {p : Prop} [Decidable p] {e : E} : Reads (failIf p e : Call S E Unit) :=
  ⟨fun _ => ends_failIf.mpr ⟨fun _ => rfl, fun _ => rfl⟩⟩

/-- A check in front: every error it may return meets the postcondition, and behind it the state is the same. -/
theorem Ends.guard {x : Call S E B} [Reads x] {f : B → Call S E A} (herr : ∀ e, Q (.error e) s)
    (hok : ∀ b, x s = some (.ok b, s) → Ends (f b) s Q) : Ends (x >>= f) s Q := by
  refine ends_bind.mpr fun r s' hx => ?_
  obtain rfl : s' = s := Reads.same s r s' hx
  constructor
  · rintro b rfl
    exact hok b hx
  · rintro e rfl
    exact herr e

@[simp] theorem ends_state_bind {f : S → Call S E A} : Ends (state >>= f) s Q ↔ Ends (f s) s Q := Iff.rfl

@[simp] theorem ends_update_bind {g : S → S} {f : Unit → Call S E A} :
    Ends (update g >>= f) s Q ↔ Ends (f ()) (g s) Q :=
  Iff.rfl

theorem ofExcept_eq_ok {r : Except E A} (h : (ofExcept r : Call S E A) s = some (.ok a, s)) : r = .ok a :=
  congrArg Prod.fst (Option.some.inj h)

theorem ofOption_eq_ok {value : Option A}
    (h : (ofOption value e : Call S E A) s = some (.ok a, s)) : value = some a := by
  cases value with
  | none => cases ofExcept_eq_ok h
  | some b => exact congrArg some (Except.ok.inj (ofExcept_eq_ok h))

theorem failIf_eq_ok {p : Prop} [Decidable p] {u : Unit}
    (h : (failIf p e : Call S E Unit) s = some (.ok u, s)) : ¬ p := by
  intro hp
  rw [failIf, if_pos hp] at h
  cases h

end Call

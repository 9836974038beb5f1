import Mathlib

namespace Noise

open List

abbrev Key := List.Vector UInt8 32

/-- The primitives of a Noise handshake: a hash, a keyed hash, a key agreement, and authenticated encryption under
a message number. Agreement is symmetric and never all-zero between honest keys, and a ciphertext opens exactly
to what it was sealed from. -/
structure Primitives where
  hash : List UInt8 → Key
  mac : Key → List UInt8 → Key
  publicKey : Key → Key
  agree : Key → Key → Key
  encrypt : Key → Nat → List UInt8 → List UInt8 → List UInt8
  decrypt : Key → Nat → List UInt8 → List UInt8 → Option (List UInt8)
  publicKey_ne_zero : ∀ secret, (publicKey secret).toList.all (· = 0) = false
  agree_comm : ∀ a b, agree a (publicKey b) = agree b (publicKey a)
  agree_ne_zero : ∀ a b, (agree a (publicKey b)).toList.all (· = 0) = false
  length_encrypt : ∀ key number plaintext associated,
    (encrypt key number plaintext associated).length = plaintext.length + 16
  decrypt_eq_some : ∀ key number ciphertext associated plaintext,
    decrypt key number ciphertext associated = some plaintext ↔
      ciphertext = encrypt key number plaintext associated

structure CipherState where
  key : Key
  number : Nat
deriving DecidableEq

structure SymmetricState where
  hash : Key
  chainingKey : Key
  cipher : Option CipherState

/-- One use of a cipher: a ciphertext under a key, a number and associated data. -/
structure Sealed where
  cipher : CipherState
  associated : Key
  ciphertext : List UInt8
deriving DecidableEq

/-- What a party hashes, seals and accepts as sealed. -/
inductive Use where
  | hashed (input : List UInt8)
  | sealed (s : Sealed)
  | opened (s : Sealed)
deriving DecidableEq

variable (p : Primitives)

def absorb (hash : Key) (input : List UInt8) : Key :=
  p.hash (hash.toList ++ input)

namespace SymmetricState

def mixHash (s : SymmetricState) (input : List UInt8) : SymmetricState :=
  { s with hash := absorb p s.hash input }

def mixKey (s : SymmetricState) (secret : Key) : SymmetricState :=
  let temp := p.mac s.chainingKey secret.toList
  let next := p.mac temp [1]
  { s with chainingKey := next, cipher := some ⟨p.mac temp (next.toList ++ [2]), 0⟩ }

end SymmetricState

def CipherState.next (cipher : CipherState) : CipherState :=
  { cipher with number := cipher.number + 1 }

def SymmetricState.used (s : SymmetricState) (ciphertext : List UInt8) : SymmetricState :=
  { s with
    hash := absorb p s.hash ciphertext
    cipher := s.cipher.map CipherState.next }

/-- Ideal primitives, as far as these uses go: no two hashed inputs collide, and what was opened had been sealed, under
the same key and number and for the same associated data. -/
structure Ideal (uses : List Use) : Prop where
  collisionFree : Set.InjOn p.hash { input | .hashed input ∈ uses }
  unforgeable : ∀ s, .opened s ∈ uses → .sealed s ∈ uses

/-- The two inputs of a pair of hashings do not collide. -/
def Distinguished : Use → Use → Prop
  | .hashed x, .hashed y => p.hash x = p.hash y → x = y
  | _, _ => True

instance : (first second : Use) → Decidable (Distinguished p first second)
  | .hashed x, .hashed y => inferInstanceAs (Decidable (p.hash x = p.hash y → x = y))
  | .hashed _, .sealed _ | .hashed _, .opened _ | .sealed _, _ | .opened _, _ => .isTrue trivial

/-- What was opened is among the sealed. -/
def Authentic (uses : List Use) : Use → Prop
  | .opened s => .sealed s ∈ uses
  | _ => True

instance (uses : List Use) : (use : Use) → Decidable (Authentic uses use)
  | .opened s => inferInstanceAs (Decidable (.sealed s ∈ uses))
  | .hashed _ | .sealed _ => .isTrue trivial

theorem ideal_iff (uses : List Use) :
    Ideal p uses ↔ (∀ x ∈ uses, ∀ y ∈ uses, Distinguished p x y) ∧ ∀ use ∈ uses, Authentic uses use := by
  constructor
  · intro h
    refine ⟨fun x hx y hy => ?_, fun use huse => ?_⟩
    · cases x with
      | hashed x =>
        cases y with
        | hashed y => exact fun hxy => h.collisionFree hx hy hxy
        | sealed => trivial
        | opened => trivial
      | sealed | opened => trivial
    · cases use with
      | hashed | sealed => trivial
      | opened s => exact h.unforgeable s huse
  · rintro ⟨hdistinguished, hauthentic⟩
    exact ⟨fun x hx y hy => hdistinguished _ hx _ hy, fun s hs => hauthentic _ hs⟩

instance (uses : List Use) : Decidable (Ideal p uses) :=
  decidable_of_iff' _ (ideal_iff p uses)

variable {p}

theorem decrypt_encrypt (key : Key) (number : Nat) (plaintext associated : List UInt8) :
    p.decrypt key number (p.encrypt key number plaintext associated) associated = some plaintext :=
  (p.decrypt_eq_some ..).mpr rfl

variable (p) in
def queries (hash : Key) : List (List UInt8) → List (List UInt8)
  | [] => []
  | input :: rest => (hash.toList ++ input) :: queries (absorb p hash input) rest

variable (p) in
def absorbAll (hash : Key) (inputs : List (List UInt8)) : Key :=
  inputs.foldl (absorb p) hash

theorem absorbAll_append (hash : Key) (xs ys : List (List UInt8)) :
    absorbAll p hash (xs ++ ys) = absorbAll p (absorbAll p hash xs) ys := by
  simp [absorbAll]

theorem queries_append (hash : Key) (xs ys : List (List UInt8)) :
    queries p hash (xs ++ ys) = queries p hash xs ++ queries p (absorbAll p hash xs) ys := by
  induction xs generalizing hash with
  | nil => rfl
  | cons x xs ih =>
    rw [cons_append, queries, queries, ih, cons_append]
    rfl

/-- Two absorbed inputs with the same hash, where the hash does not collide, follow the same hash and are equal. -/
theorem absorb_inj {collisionFree : Set (List UInt8)} (hfree : Set.InjOn p.hash collisionFree) {hash hash' : Key}
    {x y : List UInt8} (hx : hash.toList ++ x ∈ collisionFree) (hy : hash'.toList ++ y ∈ collisionFree)
    (h : absorb p hash x = absorb p hash' y) : hash = hash' ∧ x = y := by
  obtain ⟨hhash, hinput⟩ := append_inj (hfree hx hy h) (by simp)
  exact ⟨List.Vector.toList_injective hhash, hinput⟩

section Initial

variable {collisionFree : Set (List UInt8)} {start : Key} {first : List UInt8}
  (hfree : Set.InjOn p.hash collisionFree) (hfirst : first ≠ []) (hstart : start.toList ++ [] ∈ collisionFree)
  (hnext : (absorb p start []).toList ++ first ∈ collisionFree)
include hfree hfirst hstart hnext

theorem absorbAll_ne_initial {xs : List (List UInt8)} (hxs : xs ≠ [])
    (hqueries : ∀ q ∈ queries p (absorb p (absorb p start []) first) xs, q ∈ collisionFree) (hne : ∀ x ∈ xs, x ≠ []) :
    absorbAll p (absorb p (absorb p start []) first) xs ≠ absorb p (absorb p start []) first := by
  intro h
  obtain ⟨ys, y, rfl⟩ := xs.eq_nil_or_concat.resolve_left hxs
  rw [concat_eq_append] at h hqueries hne
  rw [absorbAll_append] at h
  rw [queries_append, forall_mem_append] at hqueries
  obtain ⟨hlast, -⟩ := absorb_inj hfree (hqueries.2 _ mem_cons_self) hnext h
  rcases ys.eq_nil_or_concat with rfl | ⟨zs, z, rfl⟩
  · exact hfirst (absorb_inj hfree hnext hstart hlast).2
  · rw [concat_eq_append] at hlast hqueries hne
    rw [absorbAll_append] at hlast
    rw [queries_append, forall_mem_append] at hqueries
    exact hne z (by simp) (absorb_inj hfree (hqueries.1.2 _ mem_cons_self) hstart hlast).2

theorem absorbAll_initial_inj {xs ys : List (List UInt8)}
    (hx : ∀ q ∈ queries p (absorb p (absorb p start []) first) xs, q ∈ collisionFree)
    (hy : ∀ q ∈ queries p (absorb p (absorb p start []) first) ys, q ∈ collisionFree)
    (hxne : ∀ x ∈ xs, x ≠ []) (hyne : ∀ y ∈ ys, y ≠ [])
    (h : absorbAll p (absorb p (absorb p start []) first) xs = absorbAll p (absorb p (absorb p start []) first) ys) :
    xs = ys := by
  induction xs using reverseRecOn generalizing ys with
  | nil =>
    by_contra hys
    exact absorbAll_ne_initial hfree hfirst hstart hnext (Ne.symm hys) hy hyne h.symm
  | append_singleton xs x ih =>
    rcases ys.eq_nil_or_concat with rfl | ⟨ys, y, rfl⟩
    · exact absurd h (absorbAll_ne_initial hfree hfirst hstart hnext (by simp) hx hxne)
    · rw [concat_eq_append] at h hy hyne ⊢
      rw [absorbAll_append, absorbAll_append] at h
      rw [queries_append, forall_mem_append] at hx hy
      rw [forall_mem_append] at hxne hyne
      obtain ⟨hinit, rfl⟩ := absorb_inj hfree (hx.2 _ mem_cons_self) (hy.2 _ mem_cons_self) h
      rw [ih hx.1 hy.1 hxne.1 hyne.1 hinit]

end Initial

end Noise

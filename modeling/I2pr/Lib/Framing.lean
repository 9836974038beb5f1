import Mathlib

/-! Streams of self-delimiting units, and the buffer that whole units are taken off. -/

namespace Framing

open List

variable {S U E : Type}

/-- Takes units off the front of the buffer until none is complete. An error leaves what the earlier units left. -/
def drain (next : List S → Except E (Option (U × List S))) : Nat → List S → List U → Except E (List U) × List S
  | 0, buffer, done => (.ok done, buffer)
  | fuel + 1, buffer, done =>
    match next buffer with
    | .error e => (.error e, buffer)
    | .ok none => (.ok done, buffer)
    | .ok (some (unit, rest)) => drain next fuel rest (done ++ [unit])

/-- The symbols of the unit in progress once `n` symbols of the stream of `units` have come. -/
def unfinished (encode : U → List S) : List U → Nat → Nat
  | [], n => n
  | unit :: units, n =>
    if n < (encode unit).length then n else unfinished encode units (n - (encode unit).length)

/-- The buffer holds the start of the first of `units`, and never all of it. -/
def InProgress (encode : U → List S) : List U → List S → Prop
  | [], buffer => buffer = []
  | unit :: _, buffer => ∃ missing, missing ≠ [] ∧ buffer ++ missing = encode unit

/-- `next` reads back a unit in front of anything, and waits on any part of one. -/
structure Codec (encode : U → List S) (next : List S → Except E (Option (U × List S))) (Valid : U → Prop) : Prop where
  encode_ne_nil : ∀ unit, encode unit ≠ []
  next_nil : next [] = .ok none
  next_encode : ∀ unit rest, Valid unit → next (encode unit ++ rest) = .ok (some (unit, rest))
  next_start : ∀ unit buffer missing, Valid unit → missing ≠ [] → buffer ++ missing = encode unit →
    next buffer = .ok none

theorem inProgress_nil {encode : U → List S} (hne : ∀ unit, encode unit ≠ []) (units : List U) :
    InProgress encode units [] := by
  cases units with
  | nil => rfl
  | cons unit units => exact ⟨encode unit, hne unit, rfl⟩

theorem InProgress.unfinished_eq {encode : U → List S} {units : List U} {buffer : List S}
    (h : InProgress encode units buffer) : unfinished encode units buffer.length = buffer.length := by
  cases units with
  | nil => rfl
  | cons unit units =>
    obtain ⟨missing, hne, heq⟩ := h
    have hlen : buffer.length < (encode unit).length := by
      rw [← heq, length_append]
      exact Nat.lt_add_of_pos_right (length_pos_iff.mpr hne)
    rw [unfinished, if_pos hlen]

theorem unfinished_append (encode : U → List S) (whole rest : List U) (n : Nat) :
    unfinished encode (whole ++ rest) ((whole.flatMap encode).length + n) = unfinished encode rest n := by
  induction whole with
  | nil => simp
  | cons unit whole ih =>
    rw [cons_append, unfinished, flatMap_cons, length_append, if_neg (by omega), ← ih]
    congr 1
    omega

theorem InProgress.eq_nil {encode : U → List S} {units : List U} {buffer : List S}
    (h : InProgress encode units buffer) (hall : buffer = units.flatMap encode) : units = [] ∧ buffer = [] := by
  cases units with
  | nil => exact ⟨rfl, h⟩
  | cons unit units =>
    obtain ⟨missing, hne, heq⟩ := h
    have hlen := congrArg length heq
    have hpos := length_pos_iff.mpr hne
    rw [hall] at hlen
    simp only [flatMap_cons, length_append] at hlen
    omega

section Stream

variable {encode : U → List S} {next : List S → Except E (Option (U × List S))} {Valid : U → Prop}
  {units : List U} {buffer : List S}

theorem Codec.next_inProgress (codec : Codec encode next Valid)
    (hvalid : ∀ unit ∈ units, Valid unit) (h : InProgress encode units buffer) : next buffer = .ok none := by
  cases units with
  | nil => rw [show buffer = [] from h, codec.next_nil]
  | cons unit units =>
    obtain ⟨missing, hne, heq⟩ := h
    exact codec.next_start unit buffer missing (hvalid unit mem_cons_self) hne heq

theorem Codec.drain_inProgress (codec : Codec encode next Valid) {fuel : Nat}
    {done : List U} (hvalid : ∀ unit ∈ units, Valid unit) (h : InProgress encode units buffer) :
    drain next fuel buffer done = (.ok done, buffer) := by
  cases fuel with
  | zero => rfl
  | succ fuel => rw [drain, codec.next_inProgress hvalid h]

/-- Draining any start of the stream gives its whole units and keeps the one in progress. -/
theorem Codec.drain_stream (codec : Codec encode next Valid) {fuel : Nat}
    (done : List U) (hvalid : ∀ unit ∈ units, Valid unit) (hstart : buffer <+: units.flatMap encode)
    (hfuel : buffer.length ≤ fuel) :
    ∃ whole rest tail, units = whole ++ rest ∧ buffer = whole.flatMap encode ++ tail ∧
      InProgress encode rest tail ∧ drain next fuel buffer done = (.ok (done ++ whole), tail) := by
  induction units generalizing buffer fuel done with
  | nil =>
    obtain rfl : buffer = [] := prefix_nil.mp hstart
    refine ⟨[], [], [], rfl, rfl, rfl, ?_⟩
    rw [@Codec.drain_inProgress _ _ _ _ _ _ [] [] codec fuel done (by simp) rfl, append_nil]
  | cons unit units ih =>
    rw [flatMap_cons] at hstart
    by_cases hlen : buffer.length < (encode unit).length
    · have hpart : InProgress encode (unit :: units) buffer := by
        obtain ⟨missing, heq⟩ := prefix_of_prefix_length_le hstart (prefix_append _ _) hlen.le
        refine ⟨missing, ?_, heq⟩
        rintro rfl
        rw [← heq, append_nil] at hlen
        exact hlen.false
      refine ⟨[], unit :: units, buffer, rfl, rfl, hpart, ?_⟩
      rw [codec.drain_inProgress hvalid hpart, append_nil]
    · obtain ⟨later, rfl⟩ := prefix_of_prefix_length_le (prefix_append _ _) hstart (not_lt.mp hlen)
      have hpos := length_pos_iff.mpr (codec.encode_ne_nil unit)
      rw [length_append] at hfuel
      obtain ⟨fuel, rfl⟩ : ∃ n, fuel = n + 1 := ⟨fuel - 1, by omega⟩
      obtain ⟨whole, rest, tail, hunits, hlater, hpart, hdrain⟩ := ih (done ++ [unit])
        (fun u hu => hvalid u (mem_cons_of_mem _ hu)) ((prefix_append_right_inj _).mp hstart)
        (show later.length ≤ fuel by omega)
      refine ⟨unit :: whole, rest, tail, by rw [hunits]; rfl, ?_, hpart, ?_⟩
      · rw [flatMap_cons, append_assoc, ← hlater]
      · rw [drain, codec.next_encode unit later (hvalid unit mem_cons_self)]
        dsimp only
        rw [hdrain, append_assoc, singleton_append]

end Stream

end Framing

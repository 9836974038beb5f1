import I2pr.Lib.TreeMap

namespace TreeMap

open Std ExtTreeMap

variable {K V : Type} {cmp : K → K → Ordering} [TransCmp cmp] [LawfulEqCmp cmp]

theorem foldl_of_remaining {S A : Type} {f : S → A → S} {P : S → Prop} {Q : S → A → Prop}
    (hstep : ∀ s a, P s → Q s a → P (f s a)) (hother : ∀ s a b, a ≠ b → Q s b → Q (f s a) b) {entries : List A}
    (hnodup : entries.Nodup) {s : S} (hs : P s) (hneeds : ∀ a ∈ entries, Q s a) : P (entries.foldl f s) := by
  induction entries generalizing s with
  | nil => exact hs
  | cons a entries ih =>
    obtain ⟨hhead, htail⟩ := List.nodup_cons.mp hnodup
    refine ih htail (hstep s a hs (hneeds a List.mem_cons_self)) fun b hb => ?_
    refine hother s a b ?_ (hneeds b (List.mem_cons_of_mem a hb))
    rintro rfl
    exact hhead hb

def insertAll (m : ExtTreeMap K V cmp) (pairs : List (K × V)) : ExtTreeMap K V cmp :=
  pairs.foldl (fun m pair => m.insert pair.1 pair.2) m

omit [LawfulEqCmp cmp] in
@[simp] theorem insertAll_cons (m : ExtTreeMap K V cmp) (pair : K × V) (pairs : List (K × V)) :
    insertAll m (pair :: pairs) = insertAll (m.insert pair.1 pair.2) pairs :=
  rfl

variable {m : ExtTreeMap K V cmp} {W : Type} {pairs : List (K × V)} {k : K} {keys : List K}
  {v : V}

theorem getElem?_insertAll_of_notMem (h : ∀ pair ∈ pairs, pair.1 ≠ k) : (insertAll m pairs)[k]? = m[k]? := by
  induction pairs generalizing m with
  | nil => rfl
  | cons pair pairs ih =>
    rw [insertAll_cons, ih fun p hp => h p (List.mem_cons_of_mem _ hp),
      getElem?_insert_of_ne (h pair List.mem_cons_self)]

theorem getElem?_insertAll_of_mem (hpairs : pairs.Pairwise fun a b => a.1 ≠ b.1) (h : (k, v) ∈ pairs) :
    (insertAll m pairs)[k]? = some v := by
  induction pairs generalizing m with
  | nil => cases h
  | cons pair pairs ih =>
    obtain ⟨hhead, htail⟩ := List.pairwise_cons.mp hpairs
    rw [insertAll_cons]
    rcases List.mem_cons.mp h with rfl | h
    · rw [getElem?_insertAll_of_notMem fun p hp => (hhead p hp).symm, getElem?_insert_self]
    · exact ih htail h

omit [LawfulEqCmp cmp] in
theorem mem_of_getElem? (h : m[k]? = some v) : k ∈ m := by
  rw [mem_iff_isSome_getElem?, h]
  rfl

omit [LawfulEqCmp cmp] in
theorem notMem_of_getElem? (h : m[k]? = none) : k ∉ m := by
  rw [mem_iff_isSome_getElem?, h]
  exact Bool.false_ne_true

theorem pairwise_toList (m : ExtTreeMap K V cmp) : m.toList.Pairwise fun a b => a.1 ≠ b.1 :=
  distinct_keys_toList.imp fun h heq => h (by rw [heq]; exact ReflCmp.compare_self)

theorem getElem?_insertAll_toList (m n : ExtTreeMap K V cmp) (k : K) : (insertAll m n.toList)[k]? = n[k]?.or m[k]? := by
  cases h : n[k]? with
  | some v => exact getElem?_insertAll_of_mem (pairwise_toList n) (mem_toList_iff_getElem?_eq_some.mpr h)
  | none =>
    refine getElem?_insertAll_of_notMem ?_
    rintro ⟨j, v⟩ hpair rfl
    rw [mem_toList_iff_getElem?_eq_some.mp hpair] at h
    cases h

theorem insertAll_toList (m : ExtTreeMap K V cmp) : insertAll ∅ m.toList = m := by
  apply ext_getElem?
  intro k
  simp [getElem?_insertAll_toList]

theorem mem_insertAll_toList {n : ExtTreeMap K V cmp} : k ∈ insertAll m n.toList ↔ k ∈ n ∨ k ∈ m := by
  rw [mem_iff_isSome_getElem?, mem_iff_isSome_getElem?, mem_iff_isSome_getElem?,
    getElem?_insertAll_toList, Option.isSome_or, Bool.or_eq_true]

theorem map_insert (f : V → W) (m : ExtTreeMap K V cmp) (k : K) (v : V) :
    (m.insert k v).map (fun _ => f) = (m.map fun _ => f).insert k (f v) := by
  apply ExtTreeMap.ext_getElem?
  intro j
  rw [ExtTreeMap.getElem?_insert, ExtTreeMap.getElem?_map, ExtTreeMap.getElem?_map, ExtTreeMap.getElem?_insert]
  split
  · rfl
  · rfl

theorem map_insertAll (f : V → W) (m : ExtTreeMap K V cmp) (pairs : List (K × V)) :
    (insertAll m pairs).map (fun _ => f) = insertAll (m.map fun _ => f) (pairs.map fun pair => (pair.1, f pair.2)) := by
  induction pairs generalizing m with
  | nil => rfl
  | cons pair pairs ih => rw [List.map_cons, insertAll_cons, insertAll_cons, ih, map_insert]

theorem insertAll_map (f : V → W) (pairs : List (K × V)) :
    insertAll (∅ : ExtTreeMap K W cmp) (pairs.map fun pair => (pair.1, f pair.2)) =
      (insertAll ∅ pairs).map fun _ => f :=
  (map_insertAll f ∅ pairs).symm

theorem size_le_size {n : ExtTreeMap K V cmp} (h : ∀ k ∈ m, k ∈ n) : m.size ≤ n.size := by
  rw [← length_keys, ← length_keys]
  exact (List.subperm_of_subset nodup_keys fun k hk =>
    mem_keys.mpr (h k (mem_keys.mp hk))).length_le

theorem size_eq_size {n : ExtTreeMap K W cmp} (h : ∀ k, k ∈ m ↔ k ∈ n) : m.size = n.size := by
  rw [← length_keys, ← length_keys]
  refine ((List.perm_ext_iff_of_nodup nodup_keys nodup_keys).mpr fun k => ?_).length_eq
  rw [mem_keys, mem_keys, h]

theorem size_eq_length (hnodup : keys.Nodup) (h : ∀ k, k ∈ m ↔ k ∈ keys) : m.size = keys.length := by
  rw [← length_keys]
  exact ((List.perm_ext_iff_of_nodup nodup_keys hnodup).mpr fun k => mem_keys.trans (h k)).length_eq

theorem size_le_length (h : ∀ k ∈ m, k ∈ keys) : m.size ≤ keys.length := by
  rw [← length_keys]
  exact (List.subperm_of_subset nodup_keys fun k hk => h k (mem_keys.mp hk)).length_le

theorem mem_of_size_eq (hnodup : keys.Nodup) (hkeys : ∀ k ∈ keys, k ∈ m)
    (hsize : m.size = keys.length) (hk : k ∈ m) : k ∈ keys := by
  have hsub : keys.Subperm m.keys := List.subperm_of_subset hnodup fun k hk => mem_keys.mpr (hkeys k hk)
  have hperm := hsub.perm_of_length_le (by rw [length_keys, hsize])
  exact hperm.mem_iff.mpr (mem_keys.mpr hk)

def eraseAll (m : ExtTreeMap K V cmp) (pairs : List (K × V)) : ExtTreeMap K V cmp :=
  pairs.foldl (fun m pair => m.erase pair.1) m

theorem getElem?_eraseAll_of_notMem (h : ∀ pair ∈ pairs, pair.1 ≠ k) : (eraseAll m pairs)[k]? = m[k]? := by
  induction pairs generalizing m with
  | nil => rfl
  | cons pair pairs ih =>
    refine (ih fun p hp => h p (List.mem_cons_of_mem _ hp)).trans ?_
    exact getElem?_erase_of_ne (h pair List.mem_cons_self)

omit [LawfulEqCmp cmp] in
theorem getElem?_of_eraseAll (h : (eraseAll m pairs)[k]? = some v) : m[k]? = some v := by
  induction pairs generalizing m with
  | nil => exact h
  | cons pair pairs ih => exact getElem?_of_erase (ih h)

theorem total_eraseAll {weight : K → V → Nat}
    (hpairs : pairs.Pairwise fun a b => a.1 ≠ b.1) (h : ∀ pair ∈ pairs, m[pair.1]? = some pair.2) :
    total weight m = total weight (eraseAll m pairs) + (pairs.map fun pair => weight pair.1 pair.2).sum := by
  induction pairs generalizing m with
  | nil => rfl
  | cons pair pairs ih =>
    obtain ⟨hhead, htail⟩ := List.pairwise_cons.mp hpairs
    have hrest : ∀ p ∈ pairs, (m.erase pair.1)[p.1]? = some p.2 := by
      intro p hp
      rw [getElem?_erase_of_ne (hhead p hp)]
      exact h p (List.mem_cons_of_mem _ hp)
    have hlast : eraseAll m (pair :: pairs) = eraseAll (m.erase pair.1) pairs := rfl
    rw [total_erase (h pair List.mem_cons_self), ih htail hrest, hlast, List.map_cons, List.sum_cons]
    omega

end TreeMap

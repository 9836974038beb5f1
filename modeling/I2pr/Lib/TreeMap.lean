import Mathlib

namespace TreeMap

open Std ExtTreeMap

variable {K V : Type} {cmp : K → K → Ordering} [TransCmp cmp] [LawfulEqCmp cmp] {m : ExtTreeMap K V cmp} {k j : K} {v : V}

theorem mem_insert : j ∈ m.insert k v ↔ j = k ∨ j ∈ m := by
  rw [ExtTreeMap.mem_insert, LawfulEqCmp.compare_eq_iff_eq, eq_comm]

theorem getElem?_insert [DecidableEq K] : (m.insert k v)[j]? = if k = j then some v else m[j]? := by
  simp only [ExtTreeMap.getElem?_insert, LawfulEqCmp.compare_eq_iff_eq]

theorem getElem?_erase [DecidableEq K] : (m.erase k)[j]? = if k = j then none else m[j]? := by
  simp only [ExtTreeMap.getElem?_erase, LawfulEqCmp.compare_eq_iff_eq]

theorem getElem?_modify [DecidableEq K] {f : V → V} : (m.modify k f)[j]? = if k = j then m[j]?.map f else m[j]? := by
  simp only [ExtTreeMap.getElem?_modify, LawfulEqCmp.compare_eq_iff_eq]
  split
  next hkj => rw [hkj]
  · rfl

theorem modify_eq [DecidableEq K] (f : V → V) : m.modify k f = (m[k]?).elim m fun v => m.insert k (f v) := by
  apply ext_getElem?
  intro j
  rw [getElem?_modify]
  cases hk : m[k]? with
  | none => grind
  | some v =>
    rw [Option.elim_some, getElem?_insert]
    grind

theorem getElem?_insert_of_ne (h : k ≠ j) : (m.insert k v)[j]? = m[j]? := by
  rw [ExtTreeMap.getElem?_insert, if_neg (by simpa using h)]

theorem getElem?_erase_of_ne (h : k ≠ j) : (m.erase k)[j]? = m[j]? := by
  rw [ExtTreeMap.getElem?_erase, if_neg (by simpa using h)]

theorem getD_insert_of_ne (h : k ≠ j) {fallback : V} : (m.insert k v).getD j fallback = m.getD j fallback := by
  rw [getD_insert, if_neg (by simpa using h)]

theorem getD_erase_of_ne (h : k ≠ j) {fallback : V} : (m.erase k).getD j fallback = m.getD j fallback := by
  rw [getD_erase, if_neg (by simpa using h)]

theorem getD_modify_of_ne (h : k ≠ j) {f : V → V} {fallback : V} :
    (m.modify k f).getD j fallback = m.getD j fallback := by
  rw [getD_modify, if_neg (by simpa using h)]

theorem erase_of_notMem (h : k ∉ m) : m.erase k = m := by
  apply ext_getElem?
  intro j
  by_cases hkj : k = j
  · rw [← hkj, getElem?_erase_self, getElem?_eq_none h]
  · exact getElem?_erase_of_ne hkj

variable (m k v) in
theorem erase_insert_self : (m.insert k v).erase k = m.erase k := by
  apply ExtTreeMap.ext_getElem?
  intro j
  rw [ExtTreeMap.getElem?_erase, ExtTreeMap.getElem?_erase, ExtTreeMap.getElem?_insert]
  split
  · rfl
  · rfl

theorem erase_insert (h : k ∉ m) (v : V) : (m.insert k v).erase k = m := by
  rw [erase_insert_self, erase_of_notMem h]

theorem insert_of_getElem? (h : m[k]? = some v) : m.insert k v = m := by
  apply ext_getElem?
  intro j
  by_cases hkj : k = j
  · rw [← hkj, getElem?_insert_self, h]
  · exact getElem?_insert_of_ne hkj

omit [LawfulEqCmp cmp] in
theorem getElem?_of_erase (h : (m.erase k)[j]? = some v) : m[j]? = some v := by
  rw [ExtTreeMap.getElem?_erase] at h
  split at h
  · cases h
  · exact h

theorem keys_insert_empty (k : K) (v : V) : ((∅ : ExtTreeMap K V cmp).insert k v).keys = [k] := by
  have hlen : ((∅ : ExtTreeMap K V cmp).insert k v).keys.length = 1 := by
    simp [size_insert]
  obtain ⟨a, ha⟩ := List.length_eq_one_iff.mp hlen
  have hk : k ∈ ((∅ : ExtTreeMap K V cmp).insert k v).keys := by simp
  rw [ha] at hk
  rw [ha, List.mem_singleton.mp hk]

omit [LawfulEqCmp cmp] in
theorem nodup_toList (m : ExtTreeMap K V cmp) : m.toList.Nodup := by
  refine distinct_keys_toList.imp ?_
  rintro a b h rfl
  exact h ReflCmp.compare_self

theorem toList_perm_erase (h : m[k]? = some v) : m.toList.Perm ((k, v) :: (m.erase k).toList) := by
  have hout : (k, v) ∉ (m.erase k).toList := by
    rw [mem_toList_iff_getElem?_eq_some, getElem?_erase_self]
    simp
  rw [List.perm_ext_iff_of_nodup (nodup_toList _) (List.nodup_cons.mpr ⟨hout, nodup_toList _⟩)]
  rintro ⟨j, w⟩
  rw [List.mem_cons, mem_toList_iff_getElem?_eq_some, mem_toList_iff_getElem?_eq_some]
  by_cases hkj : k = j
  · subst hkj
    simp [h, eq_comm]
  · simp [getElem?_erase_of_ne hkj, Ne.symm hkj]

theorem toList_insert_perm (h : k ∉ m) (v : V) : (m.insert k v).toList.Perm ((k, v) :: m.toList) := by
  have hperm := toList_perm_erase (getElem?_insert_self (t := m) (k := k) (v := v))
  rwa [erase_insert h] at hperm

/-- The sum of a weight over the entries. -/
def total (weight : K → V → Nat) (m : ExtTreeMap K V cmp) : Nat :=
  (m.toList.map fun entry => weight entry.1 entry.2).sum

variable {weight : K → V → Nat}

omit [LawfulEqCmp cmp] in
@[simp] theorem total_empty : total weight (∅ : ExtTreeMap K V cmp) = 0 := by
  have hnil : (∅ : ExtTreeMap K V cmp).toList = [] := List.length_eq_zero_iff.mp (by simp)
  rw [total, hnil]
  rfl

theorem total_insert (h : k ∉ m) : total weight (m.insert k v) = total weight m + weight k v := by
  rw [total, ((toList_insert_perm h v).map _).sum_eq, List.map_cons, List.sum_cons, Nat.add_comm]
  rfl

theorem total_erase (h : m[k]? = some v) : total weight m = total weight (m.erase k) + weight k v := by
  rw [total, ((toList_perm_erase h).map _).sum_eq, List.map_cons, List.sum_cons, Nat.add_comm]
  rfl

theorem insert_erase (v : V) : (m.erase k).insert k v = m.insert k v := by
  apply ExtTreeMap.ext_getElem?
  intro j
  rw [ExtTreeMap.getElem?_insert, ExtTreeMap.getElem?_insert, ExtTreeMap.getElem?_erase]
  split
  · rfl
  · rfl

theorem total_replace {old : V} (h : m[k]? = some old) :
    total weight (m.insert k v) + weight k old = total weight m + weight k v := by
  have hout : k ∉ m.erase k := by simp
  rw [← insert_erase, total_insert hout, total_erase h]
  omega

omit [LawfulEqCmp cmp] in
theorem size_eq_total : m.size = total (fun _ _ => 1) m := by
  rw [total, ← length_toList]
  simp

end TreeMap

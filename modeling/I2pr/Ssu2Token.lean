import Mathlib

namespace I2pr.Ssu2

open List

def maxTokensGlobal : Nat := 256
def maxTokensPerSource : Nat := 4
def tokenLifetimeSeconds : Nat := 30

inductive TokenError where
  | zeroToken | unknownToken | expiredToken | reusedToken | wrongSource | tableFull

/-- A token bound to the socket address it was issued to, at a time in seconds. -/
structure TokenEntry (A : Type) where
  token : UInt64
  source : A
  issuedAt : Nat
  responderConnId : Option UInt64
deriving DecidableEq

structure TokenLimits where
  maxGlobal : Nat
  maxPerSource : Nat
  lifetimeSeconds : Nat
  positive : 0 < maxGlobal ∧ 0 < maxPerSource ∧ 0 < lifetimeSeconds
  bounded : maxGlobal ≤ maxTokensGlobal ∧ maxPerSource ≤ maxTokensPerSource

structure TokenStore (A : Type) where
  entries : List (TokenEntry A)
  limits : TokenLimits
  epoch : Nat

variable {A : Type} [DecidableEq A]

namespace TokenStore

def empty (limits : TokenLimits) : TokenStore A := ⟨[], limits, 0⟩

def establishment : TokenStore A := empty ⟨maxTokensGlobal, maxTokensPerSource, tokenLifetimeSeconds, by decide, by decide⟩

def new (maxGlobal maxPerSource lifetimeSeconds : Nat) : Except TokenError (TokenStore A) :=
  if hzero : maxGlobal = 0 ∨ maxPerSource = 0 ∨ lifetimeSeconds = 0 then .error .tableFull
  else if hlarge : maxTokensGlobal < maxGlobal ∨ maxTokensPerSource < maxPerSource then .error .tableFull
  else .ok (empty ⟨maxGlobal, maxPerSource, lifetimeSeconds, by omega, by omega⟩)

variable (store : TokenStore A)

def expire (now : Nat) : TokenStore A :=
  { store with entries := store.entries.filter fun entry => now - entry.issuedAt ≤ store.limits.lifetimeSeconds }

def rotate : TokenStore A := { store with entries := [], epoch := min (store.epoch + 1) (2 ^ 64 - 1) }

/-- The entries without the oldest of a kind, if there are as many of that kind as allowed. -/
def evict (kind : TokenEntry A → Bool) (allowed : Nat) (entries : List (TokenEntry A)) : Option (List (TokenEntry A)) :=
  if allowed ≤ entries.countP kind then ((entries.filter kind).argmin (·.issuedAt)).map entries.erase else some entries

/-- The token is the value of the bytes drawn for it. -/
def issue (source : A) (now : Nat) (token : UInt64) (responderConnId : Option UInt64) :
    TokenStore A × Except TokenError UInt64 :=
  if token = 0 then (store, .error .zeroToken)
  else
    let store := store.expire now
    match evict (·.source = source) store.limits.maxPerSource store.entries with
    | none => (store, .error .tableFull)
    | some entries =>
      match evict (fun _ => true) store.limits.maxGlobal entries with
      | none => ({ store with entries }, .error .tableFull)
      | some entries => ({ store with entries := entries ++ [⟨token, source, now, responderConnId⟩] }, .ok token)

def consume (token : UInt64) (source : A) (now : Nat) : TokenStore A × Except TokenError (Option UInt64) :=
  if token = 0 then (store, .error .zeroToken)
  else match store.entries.find? (·.token = token) with
    | none => (store, .error .unknownToken)
    | some entry =>
      if store.limits.lifetimeSeconds < now - entry.issuedAt then
        ({ store with entries := store.entries.erase entry }, .error .expiredToken)
      else if entry.source ≠ source then (store, .error .wrongSource)
      else ({ store with entries := store.entries.erase entry }, .ok entry.responderConnId)

end TokenStore

inductive TokenCall (A : Type) where
  | issue (source : A) (now : Nat) (token : UInt64) (responderConnId : Option UInt64)
  | consume (token : UInt64) (source : A) (now : Nat)
  | expire (now : Nat)
  | rotate

structure Redemption (A : Type) where
  token : UInt64
  source : A
  now : Nat
  responderConnId : Option UInt64

/-- A store with the tokens it has issued and those it has taken back. -/
structure TokenHistory (A : Type) where
  store : TokenStore A
  issued : Multiset (TokenEntry A)
  redeemed : Multiset (Redemption A)

def TokenHistory.step (h : TokenHistory A) : TokenCall A → TokenHistory A
  | .issue source now token responderConnId =>
    match h.store.issue source now token responderConnId with
    | (store, .ok token) => { h with store, issued := ⟨token, source, now, responderConnId⟩ ::ₘ h.issued }
    | (store, .error _) => { h with store }
  | .consume token source now =>
    match h.store.consume token source now with
    | (store, .ok responderConnId) => { h with store, redeemed := ⟨token, source, now, responderConnId⟩ ::ₘ h.redeemed }
    | (store, .error _) => { h with store }
  | .expire now => { h with store := h.store.expire now }
  | .rotate => { h with store := h.store.rotate }

/-- The redemption repeats the token from the address it was issued to, within its lifetime, and is answered with the
connection it was issued for. -/
def Redemption.Redeems (lifetime : Nat) (redemption : Redemption A) (entry : TokenEntry A) : Prop :=
  redemption.token = entry.token ∧ redemption.source = entry.source ∧ redemption.now - entry.issuedAt ≤ lifetime ∧
    redemption.responderConnId = entry.responderConnId

/-- Every redemption has an issued token of its own that the table no longer holds. -/
structure TokenHistory.Sound (limits : TokenLimits) (h : TokenHistory A) : Prop where
  same : h.store.limits = limits
  total : h.store.entries.length ≤ limits.maxGlobal
  perSource : ∀ source, h.store.entries.countP (·.source = source) ≤ limits.maxPerSource
  spent : ∃ used, used + (h.store.entries : Multiset (TokenEntry A)) ≤ h.issued ∧
    Multiset.Rel (Redemption.Redeems limits.lifetimeSeconds) h.redeemed used

theorem TokenStore.evict_spec {kind : TokenEntry A → Bool} {allowed : Nat} {entries : List (TokenEntry A)}
    (hpos : 0 < allowed) (hle : entries.countP kind ≤ allowed) : ∃ kept, evict kind allowed entries = some kept ∧
      kept.Sublist entries ∧ kept.countP kind < allowed := by
  unfold evict
  split
  next hfull =>
    cases holdest : (entries.filter kind).argmin (·.issuedAt) with
    | none =>
      have hcount : entries.countP kind = 0 := by
        rw [countP_eq_length_filter, argmin_eq_none.mp holdest, length_nil]
      omega
    | some oldest =>
      obtain ⟨hmem, hkind⟩ := mem_filter.mp (argmin_mem holdest)
      refine ⟨_, rfl, erase_sublist, ?_⟩
      rw [countP_erase, if_pos ⟨hmem, hkind⟩]
      omega
  next hroom => exact ⟨entries, rfl, .refl _, Nat.not_le.mp hroom⟩

namespace TokenHistory.Sound

variable {limits : TokenLimits} {h : TokenHistory A} (hh : h.Sound limits)
include hh

theorem shrink {entries : List (TokenEntry A)} (hsub : entries.Sublist h.store.entries) (epoch : Nat) :
    Sound limits { h with store := { h.store with entries, epoch } } := by
  obtain ⟨used, hused, hrel⟩ := hh.spent
  refine ⟨hh.same, hsub.length_le.trans hh.total, fun source => hsub.countP_le.trans (hh.perSource source), used, ?_, hrel⟩
  exact (add_le_add_right (Multiset.coe_le.mpr hsub.subperm) used).trans hused

theorem redeem {entry : TokenEntry A} (hmem : entry ∈ h.store.entries) {redemption : Redemption A}
    (hredeems : redemption.Redeems limits.lifetimeSeconds entry) : Sound limits { h with
      store := { h.store with entries := h.store.entries.erase entry }, redeemed := redemption ::ₘ h.redeemed } := by
  obtain ⟨used, hused, hrel⟩ := hh.spent
  refine { hh.shrink erase_sublist h.store.epoch with spent := ⟨entry ::ₘ used, ?_, hrel.cons hredeems⟩ }
  rw [Multiset.coe_eq_coe.mpr (perm_cons_erase hmem), ← Multiset.cons_coe, Multiset.add_cons] at hused
  rwa [Multiset.cons_add]

theorem issue (entry : TokenEntry A) (htotal : h.store.entries.length < limits.maxGlobal)
    (hsource : h.store.entries.countP (·.source = entry.source) < limits.maxPerSource) : Sound limits { h with
      store := { h.store with entries := h.store.entries ++ [entry] }, issued := entry ::ₘ h.issued } := by
  obtain ⟨used, hused, hrel⟩ := hh.spent
  refine ⟨hh.same, by simpa using htotal, fun source => ?_, used, ?_, hrel⟩
  · have hfew := hh.perSource source
    rw [countP_append, countP_singleton]
    split
    next hsame =>
      rw [← of_decide_eq_true hsame]
      exact hsource
    · exact hfew
  · rw [← Multiset.coe_add, Multiset.coe_singleton, ← add_assoc, add_comm, Multiset.singleton_add]
    exact Multiset.cons_le_cons entry hused

/-- A token is issued unless it is zero: the table makes room for it. -/
theorem issues (source : A) (now : Nat) {token : UInt64} (htoken : token ≠ 0) (responderConnId : Option UInt64) :
    ∃ kept, kept.Sublist h.store.entries ∧ kept.length < limits.maxGlobal ∧
      kept.countP (·.source = source) < limits.maxPerSource ∧ h.store.issue source now token responderConnId =
        ({ h.store with entries := kept ++ [⟨token, source, now, responderConnId⟩] }, .ok token) := by
  cases hh.same
  have hlive : (h.store.expire now).entries.Sublist h.store.entries := filter_sublist
  obtain ⟨kept, hkept, hsub, hfew⟩ := TokenStore.evict_spec (h.store.expire now).limits.positive.2.1
    (hlive.countP_le.trans (hh.perSource source))
  have hall : kept.countP (fun _ => true) ≤ h.store.limits.maxGlobal := by
    rw [countP_true]
    exact (hsub.trans hlive).length_le.trans hh.total
  obtain ⟨last, hlast, hless, hroom⟩ := TokenStore.evict_spec (h.store.expire now).limits.positive.1 hall
  rw [countP_true] at hroom
  refine ⟨last, hless.trans (hsub.trans hlive), hroom, hless.countP_le.trans_lt hfew, ?_⟩
  rw [TokenStore.issue, if_neg htoken]
  simp only [hkept, hlast]
  rfl

theorem step (call : TokenCall A) : (h.step call).Sound limits := by
  cases call with
  | issue source now token responderConnId =>
    rw [TokenHistory.step]
    by_cases htoken : token = 0
    · rw [TokenStore.issue, if_pos htoken]
      exact hh
    · obtain ⟨kept, hsub, hroom, hfew, hissue⟩ := hh.issues source now htoken responderConnId
      rw [hissue]
      exact (hh.shrink hsub _).issue ⟨token, source, now, responderConnId⟩ hroom hfew
  | consume token source now =>
    rw [TokenHistory.step, TokenStore.consume]
    split_ifs
    · exact hh
    cases hfind : h.store.entries.find? (·.token = token) with
    | none => exact hh
    | some entry =>
      have hmem := mem_of_find?_eq_some hfind
      have htoken : entry.token = token := by simpa using find?_some hfind
      dsimp only
      split_ifs with hlate hsource
      · exact hh.shrink erase_sublist _
      · exact hh
      · exact hh.redeem hmem ⟨htoken.symm, (not_not.mp hsource).symm, hh.same ▸ Nat.not_lt.mp hlate, rfl⟩
  | expire => exact hh.shrink filter_sublist _
  | rotate => exact hh.shrink (nil_sublist _) _

end TokenHistory.Sound

namespace TokenHistory

variable (limits : TokenLimits) (calls : List (TokenCall A))

def run : TokenHistory A := calls.foldl step ⟨.empty limits, 0, 0⟩

theorem run_sound : (run limits calls).Sound limits := by
  have hstart : Sound limits (⟨.empty limits, 0, 0⟩ : TokenHistory A) :=
    ⟨rfl, Nat.zero_le _, fun _ => Nat.zero_le _, 0, le_rfl, .zero⟩
  exact foldlRecOn calls step hstart fun _ hh call _ => hh.step call

theorem table_within_limits : (run limits calls).store.entries.length ≤ limits.maxGlobal ∧
    ∀ source, (run limits calls).store.entries.countP (·.source = source) ≤ limits.maxPerSource :=
  ⟨(run_sound limits calls).total, (run_sound limits calls).perSource⟩

/-- No token is taken back twice, whatever is issued, evicted, expired or rotated away in between. -/
theorem redeemed_once : ∃ used ≤ (run limits calls).issued,
    Multiset.Rel (Redemption.Redeems limits.lifetimeSeconds) (run limits calls).redeemed used := by
  obtain ⟨used, hused, hrel⟩ := (run_sound limits calls).spent
  exact ⟨used, (Multiset.le_add_right _ _).trans hused, hrel⟩

end TokenHistory

end I2pr.Ssu2

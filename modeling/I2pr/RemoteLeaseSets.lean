import I2pr.DestinationRouting
import I2pr.Lib.Runs

namespace I2pr.RemoteLeaseSets

open Std

/-- Built by `from_lease_set2` alone, under the hash of the destination in the record. -/
structure ValidatedLeaseSet2 where
  leaseSet2 : LeaseSet2
  key : Hash
  derived : leaseSet2.destinationHash = .ok key

namespace ValidatedLeaseSet2

variable (validated : ValidatedLeaseSet2)

def publishedSeconds : UInt32 := validated.leaseSet2.publishedSeconds

def encodedLen : Nat := validated.leaseSet2.signedBytes.length + validated.leaseSet2.signature.length

end ValidatedLeaseSet2

structure LeaseSet2Store where
  records : ExtTreeMap Hash ValidatedLeaseSet2
  totalEncodedBytes : Nat
  maxRecords : Nat
  maxTotalEncodedBytes : Nat

namespace LeaseSet2Store

variable (store : LeaseSet2Store)

def exceeds (extra : Nat) : Bool :=
  2 ^ 64 ≤ store.totalEncodedBytes + extra ∨ store.maxTotalEncodedBytes < store.totalEncodedBytes + extra

/-- The store after an insertion, whose outcome no caller here reads; `none` where the accounting panics. -/
def insert (validated : ValidatedLeaseSet2) : Option LeaseSet2Store :=
  let records := store.records.insert validated.key validated
  match store.records[validated.key]? with
  | some existing =>
    if validated.publishedSeconds ≤ existing.publishedSeconds then some store
    else if existing.encodedLen < validated.encodedLen ∧ store.exceeds (validated.encodedLen - existing.encodedLen) then
      some store
    else if store.totalEncodedBytes < existing.encodedLen ∨
        2 ^ 64 ≤ store.totalEncodedBytes - existing.encodedLen + validated.encodedLen then none
    else some { store with
      records, totalEncodedBytes := store.totalEncodedBytes - existing.encodedLen + validated.encodedLen }
  | none =>
    if store.maxRecords ≤ store.records.size ∨ store.exceeds validated.encodedLen then some store
    else some { store with records, totalEncodedBytes := store.totalEncodedBytes + validated.encodedLen }

theorem publishedSeconds_insert {store store' : LeaseSet2Store} {validated : ValidatedLeaseSet2}
    (h : store.insert validated = some store')
    (hold : ∀ stored ∈ store.records[validated.key]?, stored.publishedSeconds ≤ validated.publishedSeconds) :
    ∀ stored ∈ store'.records[validated.key]?, stored.publishedSeconds ≤ validated.publishedSeconds := by
  have hsame : store = store' ∨ store'.records = store.records.insert validated.key validated := by
    unfold insert at h
    grind
  rcases hsame with rfl | hrecords
  · exact hold
  · rw [hrecords, ExtTreeMap.getElem?_insert_self]
    rintro stored ⟨⟩
    exact UInt32.le_refl _

end LeaseSet2Store

inductive LookupKind where
  | routerInfo
  | leaseSet2
deriving DecidableEq

structure LookupId where
  requestId : UInt64
  kind : LookupKind
  target : Hash
deriving DecidableEq

inductive DatabaseStoreData where
  | leaseSet2 (ls2 : LeaseSet2)
  | encryptedLeaseSet (fits : Bool)
  | other

inductive LookupIngestError where
  | wrongKind
  | identityMismatch (actual expected : LookupId)
  | wrongResult
  | noStaticPublicKey
  | activeRemoteCapacity (maximum : Nat)

inductive LookupIngestOutcome where
  | success (lookupId : LookupId) (destinationHash : Hash)
  | continued
  | ignored

/-- The two caches of the routing state, and the lookup it waits for. -/
structure RemoteRouting extends DestinationRouting where
  lookup : Option LookupId
  leaseSet2Store : LeaseSet2Store
  maxActiveRemotes : Nat

/-- The checks of a validation other than that of the key, and the X25519 key of a record. -/
structure RecordPolicy where
  passes : LeaseSet2 → UInt32 → Bool
  staticPublicFromLs2 : LeaseSet2 → Option Ecies.Key

variable (policy : RecordPolicy)

def fromLeaseSet2 (ls2 : LeaseSet2) (expected : Hash) (nowSeconds : UInt32) : Option ValidatedLeaseSet2 :=
  match h : ls2.destinationHash with
  | .error _ => none
  | .ok key => if expected ≠ key ∨ ¬ policy.passes ls2 nowSeconds then none else some ⟨ls2, key, h⟩

namespace RemoteRouting

variable (routing : RemoteRouting)

def isFull (key : Hash) : Bool :=
  key ∉ routing.activeRemotes ∧ routing.maxActiveRemotes ≤ routing.activeRemotes.size

def registerResolvedRemote (validated : ValidatedLeaseSet2) : Except LookupIngestError Hash × RemoteRouting :=
  match policy.staticPublicFromLs2 validated.leaseSet2 with
  | none => (.error .noStaticPublicKey, routing)
  | some staticPublic =>
    if routing.isFull validated.key then (.error (.activeRemoteCapacity routing.maxActiveRemotes), routing)
    else (.ok validated.key, { routing with
      activeRemotes := routing.activeRemotes.insert validated.key ⟨validated.leaseSet2, staticPublic⟩ })

def installRemoteLeaseSet2 (validated : ValidatedLeaseSet2) : Option (Except LookupIngestError Hash × RemoteRouting) :=
  if routing.isFull validated.key then some (.error (.activeRemoteCapacity routing.maxActiveRemotes), routing)
  else (routing.leaseSet2Store.insert validated).map fun leaseSet2Store =>
    { routing with leaseSet2Store }.registerResolvedRemote policy validated

def ingestLookupResponse (lookupId : LookupId) (key : Hash) (data : DatabaseStoreData) (nowSeconds : UInt32) :
    Option (Except LookupIngestError LookupIngestOutcome × RemoteRouting) :=
  if lookupId.kind ≠ .leaseSet2 then some (.error .wrongKind, routing)
  else match routing.lookup with
    | none => some (.ok .ignored, routing)
    | some active =>
      if active ≠ lookupId then some (.error (.identityMismatch lookupId active), routing)
      else if active.kind ≠ .leaseSet2 ∨ key ≠ active.target then some (.ok .continued, routing)
      else match data with
        | .other => some (.ok .continued, routing)
        | .encryptedLeaseSet fits =>
          if fits then some (.error .wrongResult, { routing with lookup := none }) else some (.ok .continued, routing)
        | .leaseSet2 ls2 =>
          match fromLeaseSet2 policy ls2 active.target nowSeconds with
          | none => some (.ok .continued, routing)
          | some validated => (routing.leaseSet2Store.insert validated).map fun leaseSet2Store =>
            let (result, routing) :=
              { routing with leaseSet2Store, lookup := none }.registerResolvedRemote policy validated
            (result.map (.success lookupId), routing)

end RemoteRouting

/-- The calls that change the state; `select_lease` only reads it. -/
inductive RoutingRequest where
  | ingestLookupResponse (lookupId : LookupId) (key : Hash) (data : DatabaseStoreData) (nowSeconds : UInt32)
  | installRemoteLeaseSet2 (validated : ValidatedLeaseSet2)
  | registerResolvedRemote (validated : ValidatedLeaseSet2)
  | forgetRemote (remote : Hash)
  /-- What the search for peers makes of the lookup. -/
  | search (lookup : Option LookupId)

def next (s : Option RemoteRouting) (request : RoutingRequest) : Option RemoteRouting :=
  s.bind fun routing => match request with
    | .ingestLookupResponse lookupId key data nowSeconds =>
      (routing.ingestLookupResponse policy lookupId key data nowSeconds).map (·.2)
    | .installRemoteLeaseSet2 validated => (routing.installRemoteLeaseSet2 policy validated).map (·.2)
    | .registerResolvedRemote validated => some (routing.registerResolvedRemote policy validated).2
    | .forgetRemote remote => some { routing with activeRemotes := routing.activeRemotes.erase remote }
    | .search lookup => some { routing with lookup }

/-- The record that a request brings. -/
def RoutingRequest.brings : RoutingRequest → Option LeaseSet2
  | .ingestLookupResponse _ _ (.leaseSet2 ls2) _ => some ls2
  | .installRemoteLeaseSet2 validated | .registerResolvedRemote validated => some validated.leaseSet2
  | _ => none

/-- The record is not older than those the two caches have for its destination. -/
def NotOlder (routing : RemoteRouting) (request : RoutingRequest) : Prop :=
  ∀ ls2 ∈ request.brings, ∀ key, ls2.destinationHash = .ok key →
    (∀ held ∈ routing.activeRemotes[key]?, held.validated.publishedSeconds ≤ ls2.publishedSeconds) ∧
      ∀ stored ∈ routing.leaseSet2Store.records[key]?, stored.publishedSeconds ≤ ls2.publishedSeconds

variable {policy} {routing routing' : RemoteRouting} {request : RoutingRequest}

/-- What a request leaves of the active records. -/
inductive Leaves (active : ExtTreeMap Hash RemoteState) (request : RoutingRequest) : ExtTreeMap Hash RemoteState → Prop
  | same : Leaves active request active
  | placed {validated : ValidatedLeaseSet2} (staticPublic : Ecies.Key) (hbrings : validated.leaseSet2 ∈ request.brings) :
    Leaves active request (active.insert validated.key ⟨validated.leaseSet2, staticPublic⟩)
  | forgotten {remote : Hash} (h : request = .forgetRemote remote) : Leaves active request (active.erase remote)

theorem registerResolvedRemote_leaves (routing : RemoteRouting) {validated : ValidatedLeaseSet2}
    (hbrings : validated.leaseSet2 ∈ request.brings) :
    Leaves routing.activeRemotes request (routing.registerResolvedRemote policy validated).2.activeRemotes := by
  unfold RemoteRouting.registerResolvedRemote
  split
  · exact .same
  next staticPublic _ =>
    split
    · exact .same
    · exact .placed staticPublic hbrings

theorem ingestLookupResponse_leaves {lookupId : LookupId} {key : Hash} {data : DatabaseStoreData} {nowSeconds : UInt32}
    {result : Except LookupIngestError LookupIngestOutcome}
    (h : routing.ingestLookupResponse policy lookupId key data nowSeconds = some (result, routing')) :
    Leaves routing.activeRemotes (.ingestLookupResponse lookupId key data nowSeconds) routing'.activeRemotes := by
  unfold RemoteRouting.ingestLookupResponse at h
  split at h
  · cases h; exact .same
  split at h
  · cases h; exact .same
  split at h
  · cases h; exact .same
  split at h
  · cases h; exact .same
  split at h
  · cases h; exact .same
  · split at h <;> (cases h; exact .same)
  next ls2 =>
    split at h
    · cases h; exact .same
    next validated hvalidated =>
      obtain ⟨store, -, hregistered⟩ := Option.map_eq_some_iff.mp h
      have hls2 : validated.leaseSet2 = ls2 := by
        unfold fromLeaseSet2 at hvalidated
        grind
      have hbrings : validated.leaseSet2 ∈ RoutingRequest.brings
          (.ingestLookupResponse lookupId key (.leaseSet2 ls2) nowSeconds) := congrArg some hls2.symm
      cases hregistered
      exact registerResolvedRemote_leaves { routing with leaseSet2Store := store, lookup := none } hbrings

theorem next_leaves (h : next policy (some routing) request = some routing') :
    Leaves routing.activeRemotes request routing'.activeRemotes := by
  cases request with
  | ingestLookupResponse =>
    obtain ⟨out, hcall, rfl⟩ := Option.map_eq_some_iff.mp h
    exact ingestLookupResponse_leaves hcall
  | installRemoteLeaseSet2 validated =>
    obtain ⟨out, hcall, rfl⟩ := Option.map_eq_some_iff.mp h
    unfold RemoteRouting.installRemoteLeaseSet2 at hcall
    split at hcall
    · cases hcall; exact .same
    obtain ⟨store, -, rfl⟩ := Option.map_eq_some_iff.mp hcall
    exact registerResolvedRemote_leaves { routing with leaseSet2Store := store } rfl
  | registerResolvedRemote =>
    cases h
    exact registerResolvedRemote_leaves routing rfl
  | forgetRemote => cases h; exact .forgotten rfl
  | search => cases h; exact .same

/-- The remote has an active record, published at that time or later. -/
def HeldSince (remote : Hash) (since : UInt32) (s : Option RemoteRouting) : Prop :=
  ∀ routing ∈ s, ∃ held, routing.activeRemotes[remote]? = some held ∧ since ≤ held.validated.publishedSeconds

/-- The remote is not forgotten, and no older record is brought. -/
def Renews (remote : Hash) (s : Option RemoteRouting) (request : RoutingRequest) : Prop :=
  request ≠ .forgetRemote remote ∧ ∀ routing ∈ s, NotOlder routing request

theorem HeldSince.next {remote : Hash} {since : UInt32} (s : Option RemoteRouting) (request : RoutingRequest)
    (hs : HeldSince remote since s) (hrequest : Renews remote s request) :
    HeldSince remote since (next policy s request) := by
  obtain ⟨hkept, hnewer⟩ := hrequest
  rintro routing' hnext
  obtain _ | routing := s
  · cases hnext
  obtain ⟨last, hlast, hle⟩ := hs routing rfl
  have hleaves := next_leaves hnext
  generalize routing'.activeRemotes = active at hleaves
  cases hleaves with
  | same => exact ⟨last, hlast, hle⟩
  | @placed validated staticPublic hbrings =>
    by_cases hkey : validated.key = remote
    · subst hkey
      refine ⟨_, ExtTreeMap.getElem?_insert_self, UInt32.le_trans hle ?_⟩
      exact (hnewer routing rfl _ hbrings _ validated.derived).1 last hlast
    · exact ⟨last, by rw [TreeMap.getElem?_insert_of_ne hkey, hlast], hle⟩
  | @forgotten other h =>
    have hother : other ≠ remote := fun heq => hkept (heq ▸ h)
    exact ⟨last, by rw [TreeMap.getElem?_erase_of_ne hother, hlast], hle⟩

/-- As long as no record is older than those of the two caches, the active one of a remote never gets older, and after
an installation the store has none newer. -/
theorem remotes_never_roll_back (routing : RemoteRouting) (requests : List RoutingRequest) :
    (∀ remote held, routing.activeRemotes[remote]? = some held →
      Runs.Along (next policy) (Renews remote) (some routing) requests →
      HeldSince remote held.validated.publishedSeconds (requests.foldl (next policy) (some routing))) ∧
    ∀ validated key routing', NotOlder routing (.installRemoteLeaseSet2 validated) →
      routing.installRemoteLeaseSet2 policy validated = some (.ok key, routing') →
      ∃ held, routing'.activeRemotes[key]? = some held ∧ ∀ stored ∈ routing'.leaseSet2Store.records[key]?,
        stored.publishedSeconds ≤ held.validated.publishedSeconds := by
  constructor
  · intro remote held hheld hrun
    refine hrun.invariant HeldSince.next ?_
    rintro _ ⟨⟩
    exact ⟨held, hheld, UInt32.le_refl _⟩
  · intro validated key routing' hnewer h
    unfold RemoteRouting.installRemoteLeaseSet2 at h
    split at h
    · cases h
    obtain ⟨store, hstore, h⟩ := Option.map_eq_some_iff.mp h
    unfold RemoteRouting.registerResolvedRemote at h
    split at h
    · cases h
    split at h
    · cases h
    cases h
    refine ⟨_, ExtTreeMap.getElem?_insert_self, LeaseSet2Store.publishedSeconds_insert hstore ?_⟩
    exact (hnewer _ rfl _ validated.derived).2

def sampleRecord (publishedSeconds : UInt32) : ValidatedLeaseSet2 :=
  ⟨⟨.ok (.replicate 32 0), publishedSeconds, [], [], []⟩, .replicate 32 0, rfl⟩

def samplePolicy : RecordPolicy := ⟨fun _ _ => true, fun _ => some (.replicate 32 0)⟩

def sampleRouting : RemoteRouting :=
  ⟨⟨60, (∅ : ExtTreeMap Hash RemoteState).insert (sampleRecord 10).key ⟨(sampleRecord 10).leaseSet2, .replicate 32 0⟩⟩,
    none, ⟨(∅ : ExtTreeMap Hash ValidatedLeaseSet2).insert (sampleRecord 10).key (sampleRecord 10), 0, 4, 1000⟩, 4⟩

theorem remotes_never_roll_back_sample : HeldSince (sampleRecord 10).key 10
    ([.installRemoteLeaseSet2 (sampleRecord 20)].foldl (next samplePolicy) (some sampleRouting)) := by
  have hnewer : NotOlder sampleRouting (.installRemoteLeaseSet2 (sampleRecord 20)) := by
    rintro _ ⟨⟩ _ ⟨⟩
    decide +kernel
  exact (remotes_never_roll_back sampleRouting [_]).1 _ _ ExtTreeMap.getElem?_insert_self
    ⟨⟨nofun, fun _ hrouting => Option.some.inj hrouting ▸ hnewer⟩, trivial⟩

/-- An older record that is installed takes the place of the newer one, which stays in the store. -/
theorem remotes_roll_back :
    let replayed := next samplePolicy (some sampleRouting) (.installRemoteLeaseSet2 (sampleRecord 5))
    (sampleRouting.activeRemotes[(sampleRecord 10).key]?).map (·.validated.publishedSeconds) = some 10 ∧
    (replayed.bind (·.activeRemotes[(sampleRecord 10).key]?)).map (·.validated.publishedSeconds) = some 5 ∧
    (replayed.bind (·.leaseSet2Store.records[(sampleRecord 10).key]?)).map (·.publishedSeconds) = some 10 := by
  refine ⟨?_, ?_, ?_⟩ <;> decide +kernel

def LeaseSet2Store.default : LeaseSet2Store := ⟨∅, 0, 4096, 4 * 1024 * 1024⟩

def RemoteRouting.new (leaseSafetyMarginSeconds maxActiveRemotes : Nat) : RemoteRouting :=
  ⟨⟨leaseSafetyMarginSeconds, ∅⟩, none, .default, maxActiveRemotes⟩

def weight (_ : Hash) (stored : ValidatedLeaseSet2) : Nat := stored.encodedLen

structure LeaseSet2Store.Accounted (store : LeaseSet2Store) : Prop where
  limits : store.maxRecords = 4096 ∧ store.maxTotalEncodedBytes = 4 * 1024 * 1024
  records : store.records.size ≤ 4096
  bytes : store.totalEncodedBytes = TreeMap.total weight store.records
  fits : store.totalEncodedBytes ≤ 4 * 1024 * 1024

theorem LeaseSet2Store.Accounted.insert {store : LeaseSet2Store} (h : store.Accounted) (validated : ValidatedLeaseSet2) :
    ∃ store', store.insert validated = some store' ∧ store'.Accounted := by
  obtain ⟨hrecords, hbytes⟩ := h.limits
  have hfits := h.fits
  have hsum := h.bytes
  unfold LeaseSet2Store.insert
  cases hget : store.records[validated.key]? with
  | none =>
    have hout : validated.key ∉ store.records := by simpa using hget
    dsimp only
    split
    · exact ⟨_, rfl, h⟩
    next hroom =>
      simp only [exceeds, decide_eq_true_eq, not_or, hrecords, hbytes] at hroom
      refine ⟨_, rfl, h.limits, ?_, ?_, Nat.not_lt.mp hroom.2.2⟩
      · exact ExtTreeMap.size_insert_le.trans (Nat.not_le.mp hroom.1)
      · exact (congrArg (· + _) hsum).trans (TreeMap.total_insert hout).symm
  | some existing =>
    have hold : _ = _ + existing.encodedLen := hsum.trans (TreeMap.total_erase hget)
    have hnew : TreeMap.total weight (_ : ExtTreeMap _ _) + existing.encodedLen = _ + validated.encodedLen :=
      TreeMap.total_replace hget
    dsimp only
    split_ifs with _ hlarge
    · exact ⟨_, rfl, h⟩
    · exact ⟨_, rfl, h⟩
    all_goals simp only [exceeds, decide_eq_true_eq, hbytes] at hlarge
    · omega
    · refine ⟨_, rfl, h.limits, ?_, ?_, ?_⟩
      · simpa [ExtTreeMap.size_insert, ExtTreeMap.contains_eq_isSome_getElem?, hget] using h.records
      all_goals
        dsimp only
        omega

structure RemoteRouting.Accounted (maxActiveRemotes : Nat) (routing : RemoteRouting) : Prop where
  active : routing.maxActiveRemotes = maxActiveRemotes ∧ routing.activeRemotes.size ≤ maxActiveRemotes
  stored : routing.leaseSet2Store.Accounted

namespace RemoteRouting.Accounted

variable {maxActiveRemotes : Nat} (h : routing.Accounted maxActiveRemotes)
include h

theorem register {leaseSet2Store : LeaseSet2Store} (hstored : leaseSet2Store.Accounted) (validated : ValidatedLeaseSet2)
    {lookup : Option LookupId} : ({ routing with leaseSet2Store, lookup }.registerResolvedRemote policy
      validated).2.Accounted maxActiveRemotes := by
  obtain ⟨hmax, hsize⟩ := h.active
  unfold registerResolvedRemote
  split
  · exact ⟨h.active, hstored⟩
  split
  · exact ⟨h.active, hstored⟩
  next hroom =>
    refine ⟨⟨hmax, ?_⟩, hstored⟩
    simp only [isFull, decide_eq_true_eq, hmax] at hroom
    rw [ExtTreeMap.size_insert]
    split
    · exact hsize
    next hout => exact Nat.not_le.mp fun hfull => hroom ⟨hout, hfull⟩

theorem next (request : RoutingRequest) : ∃ routing', next policy (some routing) request = some routing' ∧
    routing'.Accounted maxActiveRemotes := by
  cases request with
  | ingestLookupResponse lookupId key data nowSeconds =>
    simp only [RemoteLeaseSets.next, Option.bind_some, ingestLookupResponse]
    split_ifs
    · exact ⟨_, rfl, h⟩
    cases routing.lookup with
    | none => exact ⟨_, rfl, h⟩
    | some active =>
      dsimp only
      split_ifs
      · exact ⟨_, rfl, h⟩
      · exact ⟨_, rfl, h⟩
      cases data with
      | other => exact ⟨_, rfl, h⟩
      | encryptedLeaseSet fits => cases fits <;> exact ⟨_, rfl, h.active, h.stored⟩
      | leaseSet2 ls2 =>
        dsimp only
        cases fromLeaseSet2 policy ls2 active.target nowSeconds with
        | none => exact ⟨_, rfl, h⟩
        | some validated =>
          obtain ⟨store, hstore, hstored⟩ := h.stored.insert validated
          simp only [hstore]
          exact ⟨_, rfl, h.register hstored validated⟩
  | installRemoteLeaseSet2 validated =>
    obtain ⟨store, hstore, hstored⟩ := h.stored.insert validated
    simp only [RemoteLeaseSets.next, Option.bind_some, installRemoteLeaseSet2, hstore]
    split_ifs
    · exact ⟨_, rfl, h⟩
    · exact ⟨_, rfl, h.register hstored validated⟩
  | registerResolvedRemote validated => exact ⟨_, rfl, h.register h.stored validated⟩
  | forgetRemote => exact ⟨_, rfl, ⟨h.active.1, ExtTreeMap.size_erase_le.trans h.active.2⟩, h.stored⟩
  | search => exact ⟨_, rfl, h.active, h.stored⟩

end RemoteRouting.Accounted

/-- Whatever is looked up, installed and forgotten, no request panics and both caches keep to their limits. -/
theorem routing_accounted (leaseSafetyMarginSeconds maxActiveRemotes : Nat) (requests : List RoutingRequest) :
    ∃ routing, requests.foldl (next policy) (some (.new leaseSafetyMarginSeconds maxActiveRemotes)) = some routing ∧
      routing.Accounted maxActiveRemotes := by
  refine List.foldlRecOn requests (next policy) (motive := fun s => ∃ routing, s = some routing ∧
    routing.Accounted maxActiveRemotes) ?_ ?_
  · exact ⟨_, rfl, ⟨rfl, Nat.zero_le _⟩, ⟨rfl, rfl⟩, Nat.zero_le _, TreeMap.total_empty.symm, Nat.zero_le _⟩
  · rintro _ ⟨routing, rfl, h⟩ request -
    exact h.next request

end I2pr.RemoteLeaseSets

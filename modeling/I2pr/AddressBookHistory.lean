import I2pr.AddressBook

namespace I2pr.AddressBook

open Fallible

def NameTable.Valid (prim : Primitives) (table : NameTable) : Prop :=
  ∀ name destination : Text, table.entries[name]? = some destination → validateDestinationText prim destination = .ok ()

namespace NameTable

variable {prim : Primitives} {table other : NameTable}

theorem valid_empty : Valid prim .empty := by
  intro name destination h
  simp [empty] at h

theorem valid_iff_forM :
    Valid prim table ↔ (table.entries.toList.forM fun entry => validateDestinationText prim entry.2) = .ok () := by
  rw [forM_eq_ok]
  constructor
  · intro h entry hentry
    exact h entry.1 entry.2 (Std.ExtTreeMap.mem_toList_iff_getElem?_eq_some.mp hentry)
  · intro h name destination hentry
    exact h (name, destination) (Std.ExtTreeMap.mem_toList_iff_getElem?_eq_some.mpr hentry)

theorem Valid.insert (h : Valid prim table) {name : Text} (hname : canonicalName name = .ok name) {destination : Text}
    (hdestination : validateDestinationText prim destination = .ok ()) : Valid prim (table.insert hname destination) := by
  intro key value hentry
  rw [NameTable.insert, Std.ExtTreeMap.getElem?_insert] at hentry
  split at hentry
  · exact Option.some.inj hentry ▸ hdestination
  · exact h key value hentry

theorem Valid.erase (h : Valid prim table) (name : Text) : Valid prim (table.erase name) :=
  fun key value hentry => h key value (TreeMap.getElem?_of_erase hentry)

theorem Valid.insertAll (h : Valid prim table) (hother : Valid prim other) : Valid prim (table.insertAll other) := by
  intro key value hentry
  rw [NameTable.insertAll, TreeMap.getElem?_insertAll_toList, Option.or_eq_some_iff] at hentry
  rcases hentry with hentry | ⟨-, hentry⟩
  · exact hother key value hentry
  · exact h key value hentry

end NameTable

section Merge

variable {prim : Primitives} {sources : Std.ExtTreeMap Text SubscriptionSource} {urls : List Text} {merged : NameTable}

variable {name : Text}

theorem mem_mergeSource {url : Text} : name ∈ (mergeSource sources merged url).entries ↔
      name ∈ merged.entries ∨ ∃ source, sources[url]? = some source ∧ name ∈ source.entries.entries := by
  unfold mergeSource
  split
  next source hsource =>
    rw [NameTable.insertAll, TreeMap.mem_insertAll_toList, or_comm, hsource]
    simp
  next hsource => simp [hsource]

theorem mem_foldl_mergeSource : name ∈ (urls.foldl (mergeSource sources) merged).entries ↔
      name ∈ merged.entries ∨ ∃ url ∈ urls, ∃ source, sources[url]? = some source ∧ name ∈ source.entries.entries := by
  induction urls generalizing merged with
  | nil => simp
  | cons url urls ih => rw [List.foldl_cons, ih, mem_mergeSource, or_assoc, List.exists_mem_cons_iff]

theorem mem_mergeSubscriptionSources {subscriptions : SubscriptionSet} :
    name ∈ (mergeSubscriptionSources subscriptions sources).entries ↔
      ∃ url ∈ subscriptions.urls, ∃ source, sources[url]? = some source ∧ name ∈ source.entries.entries := by
  rw [mergeSubscriptionSources, mem_foldl_mergeSource]
  simp [NameTable.empty]

theorem valid_foldl_mergeSource (hsources : ∀ (url : Text) source, sources[url]? = some source → source.entries.Valid prim)
    (hmerged : merged.Valid prim) : (urls.foldl (mergeSource sources) merged).Valid prim := by
  induction urls generalizing merged with
  | nil => exact hmerged
  | cons url urls ih =>
    refine ih ?_
    unfold mergeSource
    split
    next source hsource => exact hmerged.insertAll (hsources url source hsource)
    · exact hmerged

end Merge

theorem confinedPath_eq_ok {value path : Text} (h : confinedPath value = .ok path) :
    path = value ∧ value.length ≤ maxConfigPathLen := by
  obtain ⟨hlen, h⟩ := ite_error_eq_ok.mp h
  iterate 4 obtain ⟨-, h⟩ := ite_error_eq_ok.mp h
  exact ⟨(Except.ok.inj h).symm, not_lt.mp fun hlong => hlen (.inr hlong)⟩

theorem confinedPath_idem {value path : Text} (h : confinedPath value = .ok path) : confinedPath path = .ok path := by
  rwa [(confinedPath_eq_ok h).1, ← (confinedPath_eq_ok h).1] at *

theorem parseRangedU64_eq_ok {text : Text} {minimum maximum value : Nat}
    (h : parseRangedU64 text minimum maximum = .ok value) : minimum ≤ value ∧ value ≤ maximum := by
  obtain ⟨-, h⟩ := ite_error_eq_ok.mp h
  split at h
  · cases h
  next parsed hparsed =>
    obtain ⟨hrange, h⟩ := ite_error_eq_ok.mp h
    cases h
    omega

namespace AddressBookConfig

structure Valid (prim : Primitives) (config : AddressBookConfig) : Prop where
  paths : ∀ path ∈ config.artifacts, confinedPath path = .ok path
  refreshInterval : 1 ≤ config.refreshIntervalHours ∧ config.refreshIntervalHours ≤ 720
  proxyHost : ∀ host ∈ config.proxyHost, prim.loopback host = some host
  proxyPort : ∀ port ∈ config.proxyPort, 1 ≤ port ∧ port ≤ 65535
  theme : config.theme.length ≤ maxConfigValueLen
  lookupTimeout : 1 ≤ config.lookupTimeoutSecs ∧ config.lookupTimeoutSecs ≤ 300
  maxEntries : 1 ≤ config.maxEntries ∧ config.maxEntries ≤ maxEntriesPerBook

variable {prim : Primitives} {config next : AddressBookConfig}

theorem valid_default : Valid prim default where
  paths := by
    simp only [artifacts, List.forall_mem_cons]
    decide +kernel
  refreshInterval := by decide
  proxyHost := by simp [default]
  proxyPort := by simp [default]
  theme := by decide
  lookupTimeout := by decide
  maxEntries := by decide

theorem Valid.setKey (hvalid : config.Valid prim) {value : Text} (hvalue : value.length ≤ maxConfigValueLen)
    {key : ConfigKey} (h : config.setKey prim value key = .ok next) : next.Valid prim := by
  have hpaths := hvalid.paths
  simp only [artifacts, List.forall_mem_cons] at hpaths
  cases key with
  | refreshInterval =>
    obtain ⟨hours, hhours, h⟩ := bind_eq_ok.mp h
    cases h
    exact { hvalid with refreshInterval := parseRangedU64_eq_ok hhours }
  | proxyHost =>
    rw [AddressBookConfig.setKey] at h
    split at h
    · cases h
      exact { hvalid with proxyHost := by simp }
    · split at h
      next address haddress =>
        cases h
        refine { hvalid with proxyHost := ?_ }
        rintro host ⟨⟩
        exact prim.loopback_canonical value address haddress
      · cases h
  | proxyPort =>
    rw [AddressBookConfig.setKey] at h
    split at h
    · cases h
      exact { hvalid with proxyPort := by simp }
    · obtain ⟨port, hport, h⟩ := bind_eq_ok.mp h
      cases h
      refine { hvalid with proxyPort := ?_ }
      rintro port ⟨⟩
      exact parseRangedU64_eq_ok hport
  | theme =>
    cases h
    exact { hvalid with theme := hvalue }
  | logLevel =>
    obtain ⟨level, -, h⟩ := bind_eq_ok.mp h
    cases h
    exact { hvalid with }
  | lookupTimeout =>
    obtain ⟨seconds, hseconds, h⟩ := bind_eq_ok.mp h
    cases h
    exact { hvalid with lookupTimeout := parseRangedU64_eq_ok hseconds }
  | maxEntries =>
    obtain ⟨entries, hentries, h⟩ := bind_eq_ok.mp h
    cases h
    exact { hvalid with maxEntries := parseRangedU64_eq_ok hentries }
  | shouldPublish =>
    obtain ⟨flag, -, h⟩ := bind_eq_ok.mp h
    cases h
    exact { hvalid with }
  -- the eight artifacts are checked alike
  | _ =>
    obtain ⟨path, hpath, h⟩ := bind_eq_ok.mp h
    cases h
    refine { hvalid with paths := ?_ }
    simp only [artifacts, List.forall_mem_cons, confinedPath_idem hpath, hpaths, true_and]
    simp

theorem Valid.checkedUpdate (hvalid : config.Valid prim) {entries : Std.ExtTreeMap Text Text}
    (h : config.checkedUpdate prim entries = .ok next) : next.Valid prim ∧ next.artifacts.Nodup := by
  obtain ⟨updated, hupdated, h⟩ := bind_eq_ok.mp h
  obtain ⟨hdistinct, h⟩ := ite_error_eq_ok.mp h
  cases h
  refine ⟨foldlM_preserves (P := (Valid prim ·)) ?_ hvalid hupdated, not_not.mp hdistinct⟩
  intro before entry after hbefore hentry
  obtain ⟨hlen, hentry⟩ := ite_error_eq_ok.mp hentry
  obtain ⟨key, -, hentry⟩ := bind_eq_ok.mp hentry
  exact hbefore.setKey (not_lt.mp hlen) hentry

end AddressBookConfig

namespace State

/-- What holds of every book the calls of the control handle can make. -/
structure Valid (prim : Primitives) (book : State) : Prop where
  config : book.config.Valid prim
  distinctArtifacts : book.config.artifacts.Nodup
  sizes : ∀ kind, (book.books kind).entries.size ≤ book.config.maxEntries
  destinations : ∀ kind, (book.books kind).Valid prim
  subscribedSize : book.subscribed.entries.size ≤ maxEntriesPerBook
  subscribed : book.subscribed.Valid prim
  sourceUrls : ∀ url ∈ book.subscriptionSources, url ∈ book.subscriptions.urls
  sources : ∀ (url : Text) source, book.subscriptionSources[url]? = some source → checkSource prim source = .ok ()
  merged : book.subscriptionSources ≠ ∅ →
    book.subscribed = mergeSubscriptionSources book.subscriptions book.subscriptionSources

variable {prim : Primitives} {book next : State}

theorem valid_new : Valid prim new where
  config := AddressBookConfig.valid_default
  distinctArtifacts := by decide +kernel
  sizes _ := by simp [new, NameTable.empty]
  destinations _ := NameTable.valid_empty
  subscribedSize := by simp [new, NameTable.empty]
  subscribed := NameTable.valid_empty
  sourceUrls := by simp [new]
  sources := by simp [new]
  merged h := absurd rfl h

theorem checkSource_entries {source : SubscriptionSource} (h : checkSource prim source = .ok ()) :
    source.entries.Valid prim := by
  obtain ⟨-, h⟩ := ite_error_eq_ok.mp h
  obtain ⟨_, -, h⟩ := bind_eq_ok.mp h
  obtain ⟨_, -, h⟩ := bind_eq_ok.mp h
  exact NameTable.valid_iff_forM.mpr h

theorem Valid.mergedSources {sources : Std.ExtTreeMap Text SubscriptionSource} {subscriptions : SubscriptionSet}
    (h : ∀ (url : Text) source, sources[url]? = some source → checkSource prim source = .ok ()) :
    (mergeSubscriptionSources subscriptions sources).Valid prim :=
  valid_foldl_mergeSource (fun url source hsource => checkSource_entries (h url source hsource)) NameTable.valid_empty

theorem Valid.setBook (hvalid : book.Valid prim) {kind : BookKind} {table : NameTable}
    (hsize : table.entries.size ≤ book.config.maxEntries) (htable : table.Valid prim) :
    (book.setBook kind table).bumpRevision.Valid prim := by
  refine { hvalid with sizes := ?_, destinations := ?_ }
  · intro other
    by_cases hkind : other = kind
    · subst hkind
      simpa [State.setBook, bumpRevision] using hsize
    · simpa [State.setBook, bumpRevision, Function.update_of_ne hkind] using hvalid.sizes other
  · intro other
    by_cases hkind : other = kind
    · subst hkind
      simpa [State.setBook, bumpRevision] using htable
    · simpa [State.setBook, bumpRevision, Function.update_of_ne hkind] using hvalid.destinations other

theorem applyEntry_eq_ok {mutation : EntryMutation} {outcome : EntryOutcome}
    (h : book.applyEntry prim mutation = .ok (outcome, next)) :
    ∃ table, next = (book.setBook mutation.book table).bumpRevision ∧
      ((book.books mutation.book).Valid prim → table.Valid prim) ∧
      table.entries.size ≤
        max (book.books mutation.book).entries.size (max 1 (min book.config.maxEntries maxEntriesPerBook)) := by
  obtain ⟨-, h⟩ := ite_error_eq_ok.mp h
  split at h
  · cases h
  next name hname =>
    dsimp only at h
    split at h
    · obtain ⟨-, h⟩ := ite_error_eq_ok.mp h
      cases h
      exact ⟨_, rfl, fun htable => htable.erase _, Std.ExtTreeMap.size_erase_le.trans (le_max_left _ _)⟩
    · split at h
      · cases h
      next destination hdestination =>
        obtain ⟨_, hdestination, h⟩ := bind_eq_ok.mp h
        obtain ⟨hroom, h⟩ := ite_error_eq_ok.mp h
        cases h
        refine ⟨_, rfl, fun htable => htable.insert _ hdestination, ?_⟩
        rw [NameTable.insert, Std.ExtTreeMap.size_insert]
        split
        · exact le_max_left _ _
        next hnew =>
          have hroom : ¬ max 1 (min book.config.maxEntries maxEntriesPerBook) ≤ (book.books mutation.book).entries.size :=
            fun hfull => hroom ⟨hnew, hfull⟩
          omega

theorem Valid.applyEntry (hvalid : book.Valid prim) {mutation : EntryMutation} {outcome : EntryOutcome}
    (h : book.applyEntry prim mutation = .ok (outcome, next)) : next.Valid prim := by
  obtain ⟨table, rfl, htable, hsize⟩ := applyEntry_eq_ok h
  have hbefore := hvalid.sizes mutation.book
  have hceiling := hvalid.config.maxEntries
  exact hvalid.setBook (by omega) (htable (hvalid.destinations _))

variable {changed : Bool}

section

variable (hvalid : book.Valid prim)
include hvalid

theorem Valid.replaceSubscriptions {urls : List Text}
    (h : book.replaceSubscriptions urls = .ok (changed, next)) : next.Valid prim := by
  unfold State.replaceSubscriptions at h
  split at h
  · cases h
  next kept hkept =>
    split at h
    · cases h
      exact hvalid
    · cases h
      have hsource : ∀ (url : Text) source, (book.subscriptionSources.filter fun url _ => url ∈ kept)[url]? = some source →
          book.subscriptionSources[url]? = some source ∧ url ∈ kept := by
        intro url source hsource
        simpa [Std.ExtTreeMap.getElem?_filter, Option.filter_eq_some_iff] using hsource
      have hsources : ∀ (url : Text) source, (book.subscriptionSources.filter fun url _ => url ∈ kept)[url]? = some source →
          checkSource prim source = .ok () := fun url source h => hvalid.sources url source (hsource url source h).1
      refine { hvalid with
        subscribedSize := ?_, subscribed := Valid.mergedSources hsources, sourceUrls := ?_, sources := hsources,
        merged := fun _ => rfl }
      · refine le_trans (TreeMap.size_le_size ?_) hvalid.subscribedSize
        intro name hname
        obtain ⟨url, -, source, hentry, hin⟩ := mem_mergeSubscriptionSources.mp hname
        have hentry := (hsource url source hentry).1
        have hurl : url ∈ book.subscriptionSources := TreeMap.mem_of_getElem? hentry
        have hsome : book.subscriptionSources ≠ ∅ := by
          rintro hempty
          rw [hempty] at hurl
          exact Std.ExtTreeMap.not_mem_empty hurl
        rw [hvalid.merged hsome, mem_mergeSubscriptionSources]
        exact ⟨url, hvalid.sourceUrls url hurl, source, hentry, hin⟩
      · intro url hurl
        obtain ⟨source, hentry⟩ := Option.isSome_iff_exists.mp (Std.ExtTreeMap.mem_iff_isSome_getElem?.mp hurl)
        exact (hsource url source hentry).2

theorem Valid.replaceDerived {entries : NameTable}
    (h : book.replaceDerived prim entries = .ok (changed, next)) : next.Valid prim := by
  obtain ⟨hsize, h⟩ := ite_error_eq_ok.mp h
  obtain ⟨_, hentries, h⟩ := bind_eq_ok.mp h
  split at h
  · cases h
    exact hvalid
  · cases h
    exact { hvalid with
      subscribedSize := not_lt.mp hsize, subscribed := NameTable.valid_iff_forM.mpr hentries
      sourceUrls := fun url hurl => absurd hurl Std.ExtTreeMap.not_mem_empty
      sources := by simp [bumpRevision]
      merged := fun h => absurd rfl h }

theorem Valid.replaceSubscriptionSources {sources : Std.ExtTreeMap Text SubscriptionSource}
    (h : book.replaceSubscriptionSources prim sources = .ok (changed, next)) : next.Valid prim := by
  obtain ⟨hurls, h⟩ := ite_error_eq_ok.mp h
  obtain ⟨_, hchecked, h⟩ := bind_eq_ok.mp h
  obtain ⟨hsize, h⟩ := ite_error_eq_ok.mp h
  split at h
  · cases h
    exact hvalid
  · cases h
    have hsources : ∀ (url : Text) source, sources[url]? = some source → checkSource prim source = .ok () := by
      intro url source hentry
      exact forM_eq_ok.mp hchecked (url, source) (Std.ExtTreeMap.mem_toList_iff_getElem?_eq_some.mpr hentry)
    simp only [List.any_eq_true, decide_eq_true_eq, not_or, not_exists, not_and, not_not] at hurls
    exact { hvalid with
      subscribedSize := not_lt.mp hsize, subscribed := Valid.mergedSources hsources
      sourceUrls := fun _ hurl => TreeMap.mem_of_size_eq book.subscriptions.nodup hurls.2 hurls.1 hurl
      sources := hsources
      merged := fun _ => rfl }

theorem Valid.syncPublishedFromRouter : book.syncPublishedFromRouter.2.Valid prim := by
  unfold State.syncPublishedFromRouter
  split
  · exact hvalid
  split
  · exact hvalid
  · exact hvalid.setBook (hvalid.sizes .routerBook) (hvalid.destinations .routerBook)

theorem Valid.applyConfig {entries : Std.ExtTreeMap Text Text}
    (h : book.applyConfig prim entries = .ok (changed, next)) : next.Valid prim := by
  obtain ⟨config, hconfig, h⟩ := bind_eq_ok.mp h
  obtain ⟨hsizes, h⟩ := ite_error_eq_ok.mp h
  split at h
  · cases h
    exact hvalid
  · cases h
    obtain ⟨hnext, hdistinct⟩ := hvalid.config.checkedUpdate hconfig
    refine { hvalid with config := hnext, distinctArtifacts := hdistinct, sizes := ?_ }
    intro kind
    simp only [List.any_cons, List.any_nil, Bool.or_false, Bool.or_eq_true, decide_eq_true_eq, not_or, not_lt] at hsizes
    cases kind
    all_goals simp only [bumpRevision, hsizes]

end

end State

inductive Mutation where
  | applyEntry (mutation : EntryMutation)
  | replaceSubscriptions (urls : List Text)
  | replaceDerived (entries : NameTable)
  | replaceSubscriptionSources (sources : Std.ExtTreeMap Text SubscriptionSource)
  | syncPublishedFromRouter
  | applyConfig (entries : Std.ExtTreeMap Text Text)

/-- The book after a call: a call that fails leaves it as it was. -/
def settled {A : Type} (book : State) (result : Except AddressBookError (A × State)) : State :=
  match result with
  | .ok (_, next) => next
  | .error _ => book

namespace State

variable (prim : Primitives)

def mutate (book : State) : Mutation → State
  | .applyEntry mutation => settled book (book.applyEntry prim mutation)
  | .replaceSubscriptions urls => settled book (book.replaceSubscriptions urls)
  | .replaceDerived entries => settled book (book.replaceDerived prim entries)
  | .replaceSubscriptionSources sources => settled book (book.replaceSubscriptionSources prim sources)
  | .syncPublishedFromRouter => book.syncPublishedFromRouter.2
  | .applyConfig entries => settled book (book.applyConfig prim entries)

def afterCalls (calls : List Mutation) : State := calls.foldl (mutate prim) new

variable {prim} {book : State}

theorem Valid.settled {A : Type} (hvalid : book.Valid prim) {result : Except AddressBookError (A × State)}
    (h : ∀ outcome next, result = .ok (outcome, next) → next.Valid prim) : (settled book result).Valid prim := by
  unfold AddressBook.settled
  split
  next outcome next => exact h outcome next rfl
  · exact hvalid

theorem Valid.mutate (hvalid : book.Valid prim) (call : Mutation) : (book.mutate prim call).Valid prim := by
  cases call with
  | applyEntry mutation => exact hvalid.settled fun _ _ => hvalid.applyEntry
  | replaceSubscriptions urls => exact hvalid.settled fun _ _ => hvalid.replaceSubscriptions
  | replaceDerived entries => exact hvalid.settled fun _ _ => hvalid.replaceDerived
  | replaceSubscriptionSources sources => exact hvalid.settled fun _ _ => hvalid.replaceSubscriptionSources
  | syncPublishedFromRouter => exact hvalid.syncPublishedFromRouter
  | applyConfig entries => exact hvalid.settled fun _ _ => hvalid.applyConfig

theorem valid_afterCalls (calls : List Mutation) : (afterCalls prim calls).Valid prim := by
  have hrun : ∀ book : State, book.Valid prim → (calls.foldl (State.mutate prim) book).Valid prim := by
    induction calls with
    | nil => exact fun _ hvalid => hvalid
    | cons call calls ih => exact fun book hvalid => ih _ (hvalid.mutate call)
  exact hrun new valid_new

end State

end I2pr.AddressBook

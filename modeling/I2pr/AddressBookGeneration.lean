import I2pr.AddressBookHistory

namespace I2pr.AddressBook

open Fallible Decimal TreeMap List

def generationVersion : Nat := 1
def maxGenerationBytes : Nat := 24000000

structure SubscriptionSourceShape where
  entries : Std.ExtTreeMap Text Text
  etag : Option Text
  lastModified : Option Text

structure ConfigShape where
  privateArtifact : Text
  localArtifact : Text
  routerArtifact : Text
  publishedArtifact : Text
  subscriptionsArtifact : Text
  refreshIntervalHours : Nat
  proxyHost : Option Text
  proxyPort : Option Nat
  theme : Text
  logFile : Text
  logLevel : Text
  lookupTimeoutSecs : Nat
  maxEntries : Nat
  shouldPublish : Bool
  etagsArtifact : Text
  lastModifiedArtifact : Text

structure GenerationShape where
  version : Nat
  revision : Nat
  privateBook : Std.ExtTreeMap Text Text
  localBook : Std.ExtTreeMap Text Text
  routerBook : Std.ExtTreeMap Text Text
  publishedBook : Std.ExtTreeMap Text Text
  subscriptions : List Text
  subscribed : Std.ExtTreeMap Text Text
  subscriptionSources : Std.ExtTreeMap Text SubscriptionSourceShape
  config : ConfigShape

def GenerationShape.entries (shape : GenerationShape) : BookKind → Std.ExtTreeMap Text Text
  | .privateBook => shape.privateBook
  | .localBook => shape.localBook
  | .routerBook => shape.routerBook
  | .publishedBook => shape.publishedBook

/-- The JSON serializer, which reads back what it wrote. -/
structure Json where
  toVec : GenerationShape → List UInt8
  fromSlice : List UInt8 → Option GenerationShape
  fromSlice_toVec : ∀ shape, fromSlice (toVec shape) = some shape

def ConfigShape.capture (config : AddressBookConfig) : ConfigShape where
  privateArtifact := config.privateArtifact
  localArtifact := config.localArtifact
  routerArtifact := config.routerArtifact
  publishedArtifact := config.publishedArtifact
  subscriptionsArtifact := config.subscriptionsArtifact
  refreshIntervalHours := config.refreshIntervalHours
  proxyHost := config.proxyHost
  proxyPort := config.proxyPort
  theme := config.theme
  logFile := config.logFile
  logLevel := config.logLevel.name
  lookupTimeoutSecs := config.lookupTimeoutSecs
  maxEntries := config.maxEntries
  shouldPublish := config.shouldPublish
  etagsArtifact := config.etagsArtifact
  lastModifiedArtifact := config.lastModifiedArtifact

def SubscriptionSourceShape.capture (source : SubscriptionSource) : SubscriptionSourceShape :=
  ⟨source.entries.entries, source.etag, source.lastModified⟩

def GenerationShape.capture (book : State) : GenerationShape where
  version := generationVersion
  revision := book.revision
  privateBook := (book.books .privateBook).entries
  localBook := (book.books .localBook).entries
  routerBook := (book.books .routerBook).entries
  publishedBook := (book.books .publishedBook).entries
  subscriptions := book.subscriptions.urls
  subscribed := book.subscribed.entries
  subscriptionSources := book.subscriptionSources.map fun _ source => .capture source
  config := .capture book.config

def encodeGeneration (json : Json) (book : State) : List UInt8 := json.toVec (.capture book)

/-- The `SetConfig` map a stored configuration is applied as. -/
def ConfigShape.entries (config : ConfigShape) : Std.ExtTreeMap Text Text :=
  TreeMap.insertAll ∅ [(ConfigKey.privateBook.name, config.privateArtifact), (ConfigKey.localBook.name, config.localArtifact),
    (ConfigKey.routerBook.name, config.routerArtifact), (ConfigKey.publishedBook.name, config.publishedArtifact),
    (ConfigKey.subscriptions.name, config.subscriptionsArtifact),
    (ConfigKey.refreshInterval.name, Decimal.render config.refreshIntervalHours),
    (ConfigKey.proxyHost.name, config.proxyHost.getD []),
    (ConfigKey.proxyPort.name, (config.proxyPort.map Decimal.render).getD []),
    (ConfigKey.theme.name, config.theme), (ConfigKey.logFile.name, config.logFile),
    (ConfigKey.logLevel.name, config.logLevel), (ConfigKey.lookupTimeout.name, Decimal.render config.lookupTimeoutSecs),
    (ConfigKey.maxEntries.name, Decimal.render config.maxEntries),
    (ConfigKey.shouldPublish.name, renderBool config.shouldPublish), (ConfigKey.etags.name, config.etagsArtifact),
    (ConfigKey.lastModified.name, config.lastModifiedArtifact)]

def collectNames (entries : List (Text × Text)) (table : NameTable) : Except AddressBookError NameTable :=
  match entries with
  | [] => .ok table
  | (raw, destination) :: entries =>
    match hname : canonicalName raw with
    | .error error => .error error
    | .ok _ => collectNames entries (table.insert (canonicalName_idem hname) destination)

def collectSources (entries : List (Text × SubscriptionSourceShape)) (sources : Std.ExtTreeMap Text SubscriptionSource) :
    Except AddressBookError (Std.ExtTreeMap Text SubscriptionSource) :=
  match entries with
  | [] => .ok sources
  | (url, shape) :: entries => do
    let names ← collectNames shape.entries.toList .empty
    collectSources entries (sources.insert url ⟨names, shape.etag, shape.lastModified⟩)

def rejecting {A : Type} (result : Except AddressBookError (A × State)) : Except AddressBookError State :=
  match result with
  | .ok (_, book) => .ok book
  | .error _ => .error .invalidGeneration

section Decode

variable (prim : Primitives)

def loadEntries (kind : BookKind) : List (Text × Text) → State → Except AddressBookError State
  | [], book => .ok book
  | (name, destination) :: entries, book => do
    let book ← rejecting (book.applyEntry prim ⟨kind, name, some destination, false⟩)
    loadEntries kind entries book

def loadBook (kind : BookKind) (entries : Std.ExtTreeMap Text Text) (book : State) : Except AddressBookError State :=
  if maxEntriesPerBook < entries.size then .error .invalidGeneration else loadEntries prim kind entries.toList book

def loadBooks (shape : GenerationShape) : List BookKind → State → Except AddressBookError State
  | [], book => .ok book
  | kind :: kinds, book => do
    let book ← loadBook prim kind (shape.entries kind) book
    loadBooks shape kinds book

/-- The derived entries: as they stand when no sources are stored, and recomputed from the sources otherwise. -/
def loadDerived (shape : GenerationShape) (book : State) : Except AddressBookError State :=
  if shape.subscriptionSources.isEmpty then do
    let subscribed ← collectNames shape.subscribed.toList .empty
    rejecting (book.replaceDerived prim subscribed)
  else do
    let sources ← collectSources shape.subscriptionSources.toList ∅
    let book ← rejecting (book.replaceSubscriptionSources prim sources)
    if book.subscribed.entries.size ≠ shape.subscribed.size ∨
        book.subscribed.entries.toList.any (fun entry => shape.subscribed[entry.1]? ≠ some entry.2) then
      .error .invalidGeneration
    else .ok book

def loadShape (shape : GenerationShape) : Except AddressBookError State := do
  let book ← rejecting (State.new.applyConfig prim shape.config.entries)
  let book ← loadBooks prim shape [.privateBook, .localBook, .routerBook, .publishedBook] book
  let book ← rejecting (book.replaceSubscriptions shape.subscriptions)
  if maxSubscriptionUrls < shape.subscriptionSources.size then .error .invalidGeneration
  else do
    let book ← loadDerived prim shape book
    .ok (book.setRevision shape.revision)

def decodeGeneration (json : Json) (bytes : List UInt8) : Except AddressBookError State :=
  if maxGenerationBytes < bytes.length then .error .invalidGeneration
  else
    match json.fromSlice bytes with
    | none => .error .invalidGeneration
    | some shape => if shape.version ≠ generationVersion then .error .invalidGeneration else loadShape prim shape

end Decode

theorem collectNames_eq_ok {entries : List (Text × Text)} {table result : NameTable}
    (hnames : ∀ entry ∈ entries, canonicalName entry.1 = .ok entry.1)
    (hresult : result.entries = insertAll table.entries entries) : collectNames entries table = .ok result := by
  induction entries generalizing table with
  | nil => exact congrArg Except.ok (NameTable.ext hresult).symm
  | cons entry entries ih =>
    obtain ⟨raw, destination⟩ := entry
    have hname := hnames _ mem_cons_self
    unfold collectNames
    split
    next error herror =>
      rw [herror] at hname
      cases hname
    next name hok =>
      obtain rfl : raw = name := Except.ok.inj (hname.symm.trans hok)
      exact ih (fun entry hentry => hnames entry (mem_cons_of_mem _ hentry)) hresult

theorem collectNames_toList (table : NameTable) : collectNames table.entries.toList .empty = .ok table := by
  refine collectNames_eq_ok ?_ (insertAll_toList table.entries).symm
  intro entry hentry
  exact table.canonical entry.1 (mem_of_getElem? (Std.ExtTreeMap.mem_toList_iff_getElem?_eq_some.mp hentry))

theorem collectSources_map {entries : List (Text × SubscriptionSource)} {sources : Std.ExtTreeMap Text SubscriptionSource} :
    collectSources (entries.map fun entry => (entry.1, .capture entry.2)) sources =
      .ok (insertAll sources entries) := by
  induction entries generalizing sources with
  | nil => rfl
  | cons entry entries ih =>
    rw [map_cons, collectSources, SubscriptionSourceShape.capture, collectNames_toList]
    exact ih

theorem collectSources_capture (sources : Std.ExtTreeMap Text SubscriptionSource) :
    collectSources (sources.map fun _ source => SubscriptionSourceShape.capture source).toList ∅ = .ok sources := by
  rw [Std.ExtTreeMap.toList_map, collectSources_map, insertAll_toList]

namespace AddressBookConfig

def stored (config : AddressBookConfig) : ConfigKey → Text
  | .privateBook => config.privateArtifact
  | .localBook => config.localArtifact
  | .routerBook => config.routerArtifact
  | .publishedBook => config.publishedArtifact
  | .subscriptions => config.subscriptionsArtifact
  | .refreshInterval => Decimal.render config.refreshIntervalHours
  | .proxyHost => config.proxyHost.getD []
  | .proxyPort => (config.proxyPort.map Decimal.render).getD []
  | .theme => config.theme
  | .logFile => config.logFile
  | .logLevel => config.logLevel.name
  | .lookupTimeout => Decimal.render config.lookupTimeoutSecs
  | .maxEntries => Decimal.render config.maxEntries
  | .shouldPublish => renderBool config.shouldPublish
  | .etags => config.etagsArtifact
  | .lastModified => config.lastModifiedArtifact

def withField (config next : AddressBookConfig) : ConfigKey → AddressBookConfig
  | .privateBook => { next with privateArtifact := config.privateArtifact }
  | .localBook => { next with localArtifact := config.localArtifact }
  | .routerBook => { next with routerArtifact := config.routerArtifact }
  | .publishedBook => { next with publishedArtifact := config.publishedArtifact }
  | .subscriptions => { next with subscriptionsArtifact := config.subscriptionsArtifact }
  | .refreshInterval => { next with refreshIntervalHours := config.refreshIntervalHours }
  | .proxyHost => { next with proxyHost := config.proxyHost }
  | .proxyPort => { next with proxyPort := config.proxyPort }
  | .theme => { next with theme := config.theme }
  | .logFile => { next with logFile := config.logFile }
  | .logLevel => { next with logLevel := config.logLevel }
  | .lookupTimeout => { next with lookupTimeoutSecs := config.lookupTimeoutSecs }
  | .maxEntries => { next with maxEntries := config.maxEntries }
  | .shouldPublish => { next with shouldPublish := config.shouldPublish }
  | .etags => { next with etagsArtifact := config.etagsArtifact }
  | .lastModified => { next with lastModifiedArtifact := config.lastModifiedArtifact }

def sortedKeys : List ConfigKey :=
  [.etags, .lastModified, .localBook, .logFile, .logLevel, .lookupTimeout, .maxEntries, .privateBook, .proxyHost,
    .proxyPort, .publishedBook, .refreshInterval, .routerBook, .shouldPublish, .subscriptions, .theme]

theorem toList_entries_capture (config : AddressBookConfig) :
    (ConfigShape.capture config).entries.toList = sortedKeys.map fun key => (key.name, config.stored key) := by
  have hkeys : (insertAll (∅ : Std.ExtTreeMap Text ConfigKey) (ConfigKey.all.map fun key => (key.name, key))).toList =
      sortedKeys.map fun key => (key.name, key) := by decide +kernel
  have hentries : (ConfigShape.capture config).entries =
      insertAll ∅ ((ConfigKey.all.map fun key => (key.name, key)).map fun pair => (pair.1, config.stored pair.2)) :=
    rfl
  rw [hentries, insertAll_map config.stored, Std.ExtTreeMap.toList_map, hkeys, map_map]
  rfl

theorem foldl_withField (config next : AddressBookConfig) : sortedKeys.foldl config.withField next = config := by
  simp only [sortedKeys, foldl_cons, foldl_nil, withField]

variable {prim : Primitives} {config : AddressBookConfig}

theorem length_render_le {n : Nat} (h : n ≤ 65535) : (render n).length ≤ maxConfigValueLen := by
  have hdigits : (Nat.digits 10 n).length ≤ 5 := (Nat.digits_length_le_iff (by decide) n).mpr (by omega)
  have hlen : (render n).length ≤ 5 := by
    unfold render
    split
    · decide
    · simpa using hdigits
  exact hlen.trans (by decide)

theorem parseRangedU64_render {n minimum maximum : Nat} (h : minimum ≤ n ∧ n ≤ maximum) (hmax : maximum ≤ 65535) :
    parseRangedU64 (render n) minimum maximum = .ok n := by
  have hdigits : (render n).all Ascii.isDigit = true :=
    all_eq_true.mpr fun byte hbyte => isDigit_of_mem_render hbyte
  unfold parseRangedU64
  rw [if_neg (by simp [render_ne_nil, hdigits]), parse_render (by omega)]
  exact if_neg (by omega)

theorem parse_name (level : LogLevel) : LogLevel.parse level.name = .ok level := by
  cases level
  all_goals rfl

theorem parseBool_renderBool (value : Bool) : parseBool (renderBool value) = .ok value := by
  cases value
  all_goals rfl

section

variable (hvalid : config.Valid prim)
include hvalid

theorem Valid.setKey_stored (next : AddressBookConfig) (key : ConfigKey) :
    next.setKey prim (config.stored key) key = .ok (config.withField next key) := by
  have hpaths := hvalid.paths
  simp only [artifacts, forall_mem_cons] at hpaths
  cases key with
  | refreshInterval =>
    rw [AddressBookConfig.setKey, stored, parseRangedU64_render hvalid.refreshInterval (by decide)]
    rfl
  | proxyHost =>
    rw [AddressBookConfig.setKey, stored]
    cases hhost : config.proxyHost with
    | none => simp [withField, hhost]
    | some host =>
      have hloopback := hvalid.proxyHost host hhost
      have hne : host ≠ [] := length_pos_iff.mp (prim.loopback_length host host hloopback).1
      simp [withField, hhost, hne, hloopback]
  | proxyPort =>
    rw [AddressBookConfig.setKey, stored]
    cases hport : config.proxyPort with
    | none => simp [withField, hport]
    | some port =>
      simp only [Option.map_some, Option.getD_some, render_ne_nil, if_false]
      rw [parseRangedU64_render (hvalid.proxyPort port hport) le_rfl]
      simp [withField, hport]
  | theme => rfl
  | logLevel =>
    rw [AddressBookConfig.setKey, stored, parse_name]
    rfl
  | lookupTimeout =>
    rw [AddressBookConfig.setKey, stored, parseRangedU64_render hvalid.lookupTimeout (by decide)]
    rfl
  | maxEntries =>
    rw [AddressBookConfig.setKey, stored, parseRangedU64_render hvalid.maxEntries (by decide)]
    rfl
  | shouldPublish =>
    rw [AddressBookConfig.setKey, stored, parseBool_renderBool]
    rfl
  | _ =>
    simp only [AddressBookConfig.setKey, stored, hpaths]
    rfl

theorem Valid.length_stored (key : ConfigKey) : (config.stored key).length ≤ maxConfigValueLen := by
  have hpath : ∀ path ∈ config.artifacts, path.length ≤ maxConfigValueLen := by
    intro path hpath
    exact (confinedPath_eq_ok (hvalid.paths path hpath)).2.trans (by decide)
  simp only [artifacts, forall_mem_cons] at hpath
  have hinterval := hvalid.refreshInterval
  have htimeout := hvalid.lookupTimeout
  have hentries : config.maxEntries ≤ 1000 := hvalid.maxEntries.2
  cases key with
  | refreshInterval | lookupTimeout | maxEntries => exact length_render_le (by omega)
  | proxyHost =>
    rw [stored]
    cases hhost : config.proxyHost with
    | none => simp
    | some host => exact (prim.loopback_length host host (hvalid.proxyHost host hhost)).2
  | proxyPort =>
    rw [stored]
    cases hport : config.proxyPort with
    | none => simp
    | some port => exact length_render_le (hvalid.proxyPort port hport).2
  | theme => exact hvalid.theme
  | logLevel =>
    rw [stored]
    cases config.logLevel
    all_goals decide
  | shouldPublish =>
    rw [stored]
    cases config.shouldPublish
    all_goals decide
  | _ => simp only [stored, hpath]

theorem Valid.foldlM_stored (next : AddressBookConfig) (keys : List ConfigKey) :
    (keys.map fun key => (key.name, config.stored key)).foldlM (updateEntry prim) next =
      .ok (keys.foldl config.withField next) := by
  induction keys generalizing next with
  | nil => rfl
  | cons key keys ih =>
    have hentry : next.updateEntry prim (key.name, config.stored key) = .ok (config.withField next key) := by
      rw [updateEntry, if_neg (not_lt.mpr (hvalid.length_stored key)), ConfigKey.parse_name]
      exact hvalid.setKey_stored next key
    rw [map_cons, foldlM_cons, hentry, foldl_cons, ← ih]
    rfl

theorem Valid.checkedUpdate_capture (hdistinct : config.artifacts.Nodup)
    (next : AddressBookConfig) : next.checkedUpdate prim (ConfigShape.capture config).entries = .ok config := by
  rw [AddressBookConfig.checkedUpdate, toList_entries_capture, hvalid.foldlM_stored, foldl_withField]
  exact if_neg (not_not.mpr hdistinct)

end

end AddressBookConfig

namespace State

variable {prim : Primitives} {book : State}

theorem rejecting_ok {A : Type} {result : Except AddressBookError (A × State)} (outcome : A)
    (h : result = .ok (outcome, book)) : rejecting result = .ok book := by
  rw [h]
  rfl

theorem Valid.applyConfig_capture (hvalid : book.Valid prim) :
    ∃ revision, rejecting (new.applyConfig prim (ConfigShape.capture book.config).entries) =
      .ok ({ new with config := book.config }.setRevision revision) := by
  have hconfig := hvalid.config.checkedUpdate_capture hvalid.distinctArtifacts new.config
  have hempty : ¬ ([BookKind.privateBook, .localBook, .routerBook, .publishedBook].any
      fun kind => book.config.maxEntries < (new.books kind).entries.size) = true := by
    simp [new, NameTable.empty]
  by_cases hsame : book.config = new.config
  · refine ⟨0, rejecting_ok false (bind_eq_ok.mpr ⟨book.config, hconfig, ?_⟩)⟩
    rw [if_neg hempty, if_pos hsame, hsame]
    rfl
  · refine ⟨1, rejecting_ok true (bind_eq_ok.mpr ⟨book.config, hconfig, ?_⟩)⟩
    rw [if_neg hempty, if_neg hsame]
    rfl

theorem setBook_self (book : State) (kind : BookKind) : book.setBook kind (book.books kind) = book := by
  rw [setBook, Function.update_eq_self]

theorem books_setBook (book : State) (kind other : BookKind) (table : NameTable) :
    (book.setBook kind table).books other = if other = kind then table else book.books other :=
  Function.update_apply ..

theorem applyEntry_insert (book : State) (kind : BookKind) {name destination : Text} (hname : canonicalName name = .ok name)
    (hdestination : validateDestinationText prim destination = .ok ())
    (hroom : (book.books kind).entries.size < min book.config.maxEntries maxEntriesPerBook) :
    rejecting (book.applyEntry prim ⟨kind, name, some destination, false⟩) =
      .ok (book.setBook kind ((book.books kind).insert hname destination)).bumpRevision := by
  refine rejecting_ok (if name ∉ (book.books kind).entries then .created else .updated) ?_
  refine ite_error_eq_ok.mpr ⟨by simp, ?_⟩
  split
  next error herror =>
    rw [hname] at herror
    cases herror
  next raw hraw =>
    obtain rfl : name = raw := Except.ok.inj (hname.symm.trans hraw)
    refine bind_eq_ok.mpr ⟨(), hdestination, ?_⟩
    exact if_neg fun h => absurd h.2 (by dsimp only; omega)

theorem loadEntries_eq_ok {kind : BookKind} {entries : List (Text × Text)} {table : NameTable}
    (hnames : ∀ entry ∈ entries, canonicalName entry.1 = .ok entry.1)
    (hdestinations : ∀ entry ∈ entries, validateDestinationText prim entry.2 = .ok ())
    (hroom : (book.books kind).entries.size + entries.length ≤ min book.config.maxEntries maxEntriesPerBook)
    (htable : table.entries = insertAll (book.books kind).entries entries) :
    ∃ revision, loadEntries prim kind entries book = .ok ((book.setBook kind table).setRevision revision) := by
  induction entries generalizing book with
  | nil =>
    obtain rfl := NameTable.ext htable
    exact ⟨book.revision, by rw [setBook_self]; rfl⟩
  | cons entry entries ih =>
    obtain ⟨name, destination⟩ := entry
    have hname : canonicalName name = .ok name := hnames _ mem_cons_self
    have hentry := applyEntry_insert book kind hname (hdestinations _ mem_cons_self)
      (by rw [length_cons] at hroom; omega)
    generalize hnext : (book.setBook kind ((book.books kind).insert hname destination)).bumpRevision = next at hentry
    have hbooks : next.books kind = (book.books kind).insert hname destination := by
      simp [← hnext, bumpRevision, setBook]
    have hsize : (next.books kind).entries.size ≤ (book.books kind).entries.size + 1 := by
      rw [hbooks]
      exact Std.ExtTreeMap.size_insert_le
    have hconfig : next.config = book.config := by
      rw [← hnext]
      rfl
    obtain ⟨revision, hrest⟩ := @ih next (fun entry hmem => hnames entry (mem_cons_of_mem _ hmem))
      (fun entry hmem => hdestinations entry (mem_cons_of_mem _ hmem))
      (by rw [hconfig]; rw [length_cons] at hroom; omega) (by rw [hbooks]; exact htable)
    refine ⟨revision, bind_eq_ok.mpr ⟨next, hentry, ?_⟩⟩
    rw [hrest, ← hnext]
    simp [setBook, bumpRevision, setRevision]

theorem Valid.loadBook_capture (hvalid : book.Valid prim) {partly : State} (kind : BookKind)
    (hempty : partly.books kind = .empty) (hconfig : partly.config = book.config) :
    ∃ revision, loadBook prim kind (book.books kind).entries partly =
      .ok ((partly.setBook kind (book.books kind)).setRevision revision) := by
  have hsize := hvalid.sizes kind
  have hceiling := hvalid.config.maxEntries
  have hentry : ∀ entry ∈ (book.books kind).entries.toList, (book.books kind).entries[entry.1]? = some entry.2 :=
    fun entry hmem => Std.ExtTreeMap.mem_toList_iff_getElem?_eq_some.mp hmem
  unfold loadBook
  rw [if_neg (by omega)]
  refine loadEntries_eq_ok (fun entry hmem => ?_) (fun entry hmem => ?_) ?_ ?_
  · exact (book.books kind).canonical entry.1 (mem_of_getElem? (hentry entry hmem))
  · exact hvalid.destinations kind entry.1 entry.2 (hentry entry hmem)
  · rw [hempty, hconfig, Std.ExtTreeMap.length_toList]
    simp only [NameTable.empty, Std.ExtTreeMap.size_empty]
    omega
  · rw [hempty]
    exact (insertAll_toList _).symm

theorem entries_capture (book : State) (kind : BookKind) :
    (GenerationShape.capture book).entries kind = (book.books kind).entries := by
  cases kind
  all_goals rfl

theorem Valid.loadBooks_capture (hvalid : book.Valid prim) (partly : State) {kinds : List BookKind} (hkinds : kinds.Nodup)
    (hempty : ∀ kind ∈ kinds, partly.books kind = .empty) (hconfig : partly.config = book.config) :
    ∃ revision, loadBooks prim (.capture book) kinds partly =
      .ok ({ partly with
        books := fun kind => if kind ∈ kinds then book.books kind else partly.books kind }.setRevision revision) := by
  induction kinds generalizing partly with
  | nil => exact ⟨partly.revision, by simp [loadBooks, setRevision]⟩
  | cons kind kinds ih =>
    obtain ⟨hnew, hkinds⟩ := nodup_cons.mp hkinds
    obtain ⟨first, hfirst⟩ := hvalid.loadBook_capture kind (hempty kind mem_cons_self) hconfig
    have hothers : ∀ other ∈ kinds, other ≠ kind := by
      rintro other hother rfl
      exact hnew hother
    obtain ⟨revision, hrest⟩ := ih ((partly.setBook kind (book.books kind)).setRevision first) hkinds
      (fun other hother => by
        rw [setRevision, books_setBook, if_neg (hothers other hother)]
        exact hempty other (mem_cons_of_mem _ hother))
      hconfig
    refine ⟨revision, ?_⟩
    rw [loadBooks, entries_capture, hfirst, ok_bind, hrest]
    have hbooks : (fun other => if other ∈ kinds then book.books other
        else ((partly.setBook kind (book.books kind)).setRevision first).books other) =
        fun other => if other ∈ kind :: kinds then book.books other else partly.books other := by
      funext other
      rw [setRevision, books_setBook]
      by_cases hother : other = kind
      · simp [hother]
      · simp [hother]
    rw [hbooks]
    rfl

theorem mergeSubscriptionSources_empty (subscriptions : SubscriptionSet) :
    mergeSubscriptionSources subscriptions ∅ = .empty := by
  apply NameTable.ext
  refine Std.ExtTreeMap.eq_empty_iff_forall_not_mem.mpr fun name hname => ?_
  obtain ⟨_, -, source, hsource, -⟩ := mem_mergeSubscriptionSources.mp hname
  simp at hsource

theorem replaceSubscriptions_capture (partly : State) (subscriptions : SubscriptionSet)
    (hsources : partly.subscriptionSources = ∅) (hsubscribed : partly.subscribed = .empty) :
    ∃ revision, rejecting (partly.replaceSubscriptions subscriptions.urls) =
      .ok ({ partly with subscriptions := subscriptions }.setRevision revision) := by
  unfold State.replaceSubscriptions
  split
  next error herror =>
    rw [subscriptions.checked] at herror
    cases herror
  next kept hkept =>
    obtain rfl : subscriptions.urls = kept := Except.ok.inj (subscriptions.checked.symm.trans hkept)
    split
    next hsame =>
      obtain rfl : subscriptions = partly.subscriptions := SubscriptionSet.ext hsame
      exact ⟨partly.revision, rfl⟩
    · refine ⟨saturatingAdd partly.revision 1, ?_⟩
      have hfilter : ((∅ : Std.ExtTreeMap Text SubscriptionSource).filter fun url _ => url ∈ subscriptions.urls) = ∅ := rfl
      simp only [rejecting, hsources, hfilter, mergeSubscriptionSources_empty, bumpRevision, setRevision, hsubscribed]

theorem Valid.loadShape_eq (hvalid : book.Valid prim) : ∃ revision, loadShape prim (.capture book) =
      (loadDerived prim (.capture book) ({ book with subscribed := .empty, subscriptionSources := ∅ }.setRevision revision)
        >>= fun loaded => .ok (loaded.setRevision book.revision)) := by
  obtain ⟨r₀, hconfig⟩ := hvalid.applyConfig_capture
  obtain ⟨r₁, hbooks⟩ := hvalid.loadBooks_capture ({ new with config := book.config }.setRevision r₀)
    (by decide : [BookKind.privateBook, .localBook, .routerBook, .publishedBook].Nodup) (fun _ _ => rfl) rfl
  have hall : ∀ kind : BookKind, kind ∈ [BookKind.privateBook, .localBook, .routerBook, .publishedBook] := by
    intro kind
    cases kind
    all_goals decide
  simp only [hall, if_true] at hbooks
  obtain ⟨r₂, hurls⟩ := replaceSubscriptions_capture
    ({ { new with config := book.config }.setRevision r₀ with books := book.books }.setRevision r₁)
    book.subscriptions rfl rfl
  have hsize : ¬ maxSubscriptionUrls < (GenerationShape.capture book).subscriptionSources.size := by
    have hsources := size_le_length hvalid.sourceUrls
    have hurls := (ite_error_eq_ok.mp book.subscriptions.checked).1
    rw [GenerationShape.capture, Std.ExtTreeMap.size_map]
    omega
  refine ⟨r₂, ?_⟩
  unfold loadShape
  rw [show (GenerationShape.capture book).config = .capture book.config from rfl, hconfig, ok_bind, hbooks,
    ok_bind, show (GenerationShape.capture book).subscriptions = book.subscriptions.urls from rfl, hurls,
    ok_bind, if_neg hsize]
  rfl

theorem replaceDerived_eq_ok (partly : State) {table : NameTable} (hsources : partly.subscriptionSources = ∅)
    (hsize : table.entries.size ≤ maxEntriesPerBook) (htable : table.Valid prim) :
    ∃ revision, rejecting (partly.replaceDerived prim table) = .ok ({ partly with subscribed := table }.setRevision revision) := by
  unfold State.replaceDerived
  rw [if_neg (not_lt.mpr hsize), NameTable.valid_iff_forM.mp htable, ok_bind]
  split
  next hsame =>
    subst hsame
    exact ⟨partly.revision, rfl⟩
  · exact ⟨saturatingAdd partly.revision 1, by rw [← hsources]; rfl⟩

def SourcesComplete (book : State) : Prop :=
  book.subscriptionSources = ∅ ∨ ∀ url ∈ book.subscriptions.urls, url ∈ book.subscriptionSources

instance (book : State) : Decidable book.SourcesComplete := inferInstanceAs (Decidable (_ ∨ _))

theorem Valid.replaceSubscriptionSources_eq_ok (hvalid : book.Valid prim) (partly : State)
    (hurls : partly.subscriptions = book.subscriptions) (hsome : book.subscriptionSources ≠ ∅)
    (hcomplete : ∀ url ∈ book.subscriptions.urls, url ∈ book.subscriptionSources) :
    ∃ revision, rejecting (partly.replaceSubscriptionSources prim book.subscriptionSources) =
      .ok ({ partly with
        subscribed := book.subscribed, subscriptionSources := book.subscriptionSources }.setRevision revision) := by
  have hsize : book.subscriptionSources.size = book.subscriptions.urls.length :=
    size_eq_length book.subscriptions.nodup fun url => ⟨hvalid.sourceUrls url, hcomplete url⟩
  have hchecked : (book.subscriptionSources.toList.forM fun entry => checkSource prim entry.2) = .ok () := by
    refine forM_eq_ok.mpr fun entry hentry => ?_
    exact hvalid.sources entry.1 entry.2 (Std.ExtTreeMap.mem_toList_iff_getElem?_eq_some.mp hentry)
  unfold State.replaceSubscriptionSources
  rw [hurls, ← hvalid.merged hsome, if_neg (by simpa [hsize] using hcomplete), hchecked, ok_bind,
    if_neg (not_lt.mpr hvalid.subscribedSize)]
  split
  next hsame =>
    obtain ⟨hsources, hsubscribed⟩ := hsame
    exact ⟨partly.revision, by rw [hsources, hsubscribed, ← hurls]; rfl⟩
  · exact ⟨saturatingAdd partly.revision 1, rfl⟩

theorem replaceSubscriptionSources_eq_error {partly : State} {sources : Std.ExtTreeMap Text SubscriptionSource}
    (hmissing : ¬ ∀ url ∈ partly.subscriptions.urls, url ∈ sources) :
    rejecting (partly.replaceSubscriptionSources prim sources) = .error .invalidGeneration := by
  unfold State.replaceSubscriptionSources
  rw [if_pos (.inr (by simpa using hmissing))]
  rfl

theorem isEmpty_capture (book : State) :
    (GenerationShape.capture book).subscriptionSources.isEmpty = true ↔ book.subscriptionSources = ∅ := by
  rw [Std.ExtTreeMap.isEmpty_iff, Std.ExtTreeMap.eq_empty_iff_size_eq_zero, Std.ExtTreeMap.eq_empty_iff_size_eq_zero,
    GenerationShape.capture, Std.ExtTreeMap.size_map]

theorem Valid.loadShape_capture (hvalid : book.Valid prim) :
    loadShape prim (.capture book) = if book.SourcesComplete then .ok book else .error .invalidGeneration := by
  obtain ⟨revision, hshape⟩ := hvalid.loadShape_eq
  generalize hpartly : ({ book with subscribed := .empty, subscriptionSources := ∅ }.setRevision revision) = partly at hshape
  rw [hshape, loadDerived]
  by_cases hempty : book.subscriptionSources = ∅
  · obtain ⟨last, hderived⟩ := replaceDerived_eq_ok partly (by rw [← hpartly]; rfl) hvalid.subscribedSize
      hvalid.subscribed
    rw [if_pos ((isEmpty_capture book).mpr hempty), if_pos (.inl hempty),
      show (GenerationShape.capture book).subscribed = book.subscribed.entries from rfl, collectNames_toList,
      ok_bind, hderived, ok_bind, ← hpartly]
    simp [setRevision, ← hempty]
  · rw [if_neg ((isEmpty_capture book).not.mpr hempty), show (GenerationShape.capture book).subscriptionSources =
        book.subscriptionSources.map fun _ source => .capture source from rfl, collectSources_capture, ok_bind]
    by_cases hcomplete : ∀ url ∈ book.subscriptions.urls, url ∈ book.subscriptionSources
    · obtain ⟨last, hsources⟩ := hvalid.replaceSubscriptionSources_eq_ok partly (by rw [← hpartly]; rfl)
        hempty hcomplete
      have hsame : ¬ (book.subscribed.entries.size ≠ (GenerationShape.capture book).subscribed.size ∨
          (book.subscribed.entries.toList.any fun entry =>
            (GenerationShape.capture book).subscribed[entry.1]? ≠ some entry.2) = true) := by
        rintro (hsize | hany)
        · exact hsize rfl
        · obtain ⟨entry, hentry, hne⟩ := any_eq_true.mp hany
          exact of_decide_eq_true hne (Std.ExtTreeMap.mem_toList_iff_getElem?_eq_some.mp hentry)
      rw [hsources, ok_bind, if_pos (show book.SourcesComplete from .inr hcomplete)]
      refine (congrArg (· >>= fun loaded : State => Except.ok (loaded.setRevision book.revision)) (if_neg hsame)).trans ?_
      rw [← hpartly]
      rfl
    · have hincomplete : ¬ book.SourcesComplete := not_or.mpr ⟨hempty, hcomplete⟩
      rw [replaceSubscriptionSources_eq_error (by rw [← hpartly]; exact hcomplete), error_bind, error_bind,
        if_neg hincomplete]

end State

/-- A valid book is read back from its generation exactly when its sources are complete and the generation is not too
large. -/
theorem State.Valid.decode_encode {prim : Primitives} {book : State} (hvalid : book.Valid prim) (json : Json) :
    decodeGeneration prim json (encodeGeneration json book) = .ok book ↔
      book.SourcesComplete ∧ (encodeGeneration json book).length ≤ maxGenerationBytes := by
  unfold decodeGeneration
  rw [ite_error_eq_ok, not_lt, and_comm, encodeGeneration, json.fromSlice_toVec]
  refine and_congr ?_ Iff.rfl
  have hversion : ¬ (GenerationShape.capture book).version ≠ generationVersion := not_not.mpr rfl
  dsimp only
  rw [if_neg hversion, hvalid.loadShape_capture]
  by_cases hcomplete : book.SourcesComplete
  · simp [hcomplete]
  · simp [hcomplete]

theorem decodeGeneration_encodeGeneration_iff (prim : Primitives) (json : Json) (calls : List Mutation) :
    decodeGeneration prim json (encodeGeneration json (State.afterCalls prim calls)) = .ok (State.afterCalls prim calls) ↔
      (State.afterCalls prim calls).SourcesComplete ∧
        (encodeGeneration json (State.afterCalls prim calls)).length ≤ maxGenerationBytes :=
  (State.valid_afterCalls calls).decode_encode json

section Sample

def samplePrimitives : Primitives where
  decodesDestination _ := true
  loopback value := if value = Ascii.bytes "127.0.0.1" then some value else none
  loopback_canonical value address h := by
    obtain ⟨rfl, h⟩ := Option.ite_none_right_eq_some.mp h
    rw [← Option.some.inj h]
    rfl
  loopback_length value address h := by
    obtain ⟨rfl, h⟩ := Option.ite_none_right_eq_some.mp h
    rw [← Option.some.inj h]
    decide

/-- One URL is fetched, and a second one is configured before the next refresh. -/
def unfetchedCalls : List Mutation :=
  [.replaceSubscriptions [Ascii.bytes "http://a.i2p/"],
    .replaceSubscriptionSources ((∅ : Std.ExtTreeMap Text SubscriptionSource).insert (Ascii.bytes "http://a.i2p/") ⟨.empty, none, none⟩),
    .replaceSubscriptions [Ascii.bytes "http://a.i2p/", Ascii.bytes "http://b.i2p/"]]

instance {V : Type} [Countable V] : Countable (Std.ExtTreeMap Text V) :=
  (Function.LeftInverse.injective TreeMap.insertAll_toList).countable

instance : Countable SubscriptionSourceShape :=
  Function.Injective.countable (f := fun shape => (shape.entries, shape.etag, shape.lastModified)) (by
    rintro ⟨_, _, _⟩ ⟨_, _, _⟩ h
    cases h
    rfl)

instance : Countable ConfigShape :=
  Function.Injective.countable (f := fun config => ((config.privateArtifact, config.localArtifact, config.routerArtifact,
    config.publishedArtifact, config.subscriptionsArtifact, config.refreshIntervalHours, config.proxyHost, config.proxyPort),
    config.theme, config.logFile, config.logLevel, config.lookupTimeoutSecs, config.maxEntries, config.shouldPublish,
    config.etagsArtifact, config.lastModifiedArtifact)) (by
    rintro ⟨⟩ ⟨⟩ h
    cases h
    rfl)

instance : Countable GenerationShape :=
  Function.Injective.countable (f := fun shape => ((shape.version, shape.revision, shape.privateBook, shape.localBook,
    shape.routerBook), shape.publishedBook, shape.subscriptions, shape.subscribed, shape.subscriptionSources,
    shape.config)) (by
    rintro ⟨⟩ ⟨⟩ h
    cases h
    rfl)

open Classical in
/-- A serializer that writes a number in unary: the place of the shape among those that are known, or a larger one. -/
noncomputable def unaryJson (known : List GenerationShape) : Json :=
  have := Encodable.ofCountable GenerationShape
  { toVec := fun shape =>
      List.replicate (if shape ∈ known then known.idxOf shape else known.length + Encodable.encode shape) 0
    fromSlice := fun bytes =>
      if bytes.length < known.length then known[bytes.length]? else Encodable.decode (bytes.length - known.length)
    fromSlice_toVec := fun shape => by
      rw [List.length_replicate]
      by_cases hknown : shape ∈ known
      · have hlt := List.idxOf_lt_length_of_mem hknown
        rw [if_pos hknown, if_pos hlt, List.getElem?_eq_getElem hlt, List.getElem_idxOf]
      · rw [if_neg hknown, if_neg (by omega), Nat.add_sub_cancel_left, Encodable.encodek] }

theorem length_unaryJson {known : List GenerationShape} {shape : GenerationShape} (h : shape ∈ known) :
    ((unaryJson known).toVec shape).length < known.length := by
  classical
  rw [unaryJson, length_replicate, if_pos h]
  exact idxOf_lt_length_of_mem h

/-- Whatever the serializer, the book with the URL not yet fetched is not restored. -/
theorem decodeGeneration_unfetchedCalls : Nonempty Json ∧ ∀ json : Json,
    decodeGeneration samplePrimitives json (encodeGeneration json (State.afterCalls samplePrimitives unfetchedCalls)) ≠
      .ok (State.afterCalls samplePrimitives unfetchedCalls) := by
  refine ⟨⟨unaryJson []⟩, fun json h => ?_⟩
  unfold decodeGeneration at h
  obtain ⟨-, h⟩ := ite_error_eq_ok.mp h
  rw [encodeGeneration, json.fromSlice_toVec] at h
  obtain ⟨-, h⟩ := ite_error_eq_ok.mp h
  have hfails : (loadShape samplePrimitives (.capture (State.afterCalls samplePrimitives unfetchedCalls))).isOk =
      false := by decide +kernel
  rw [h] at hfails
  cases hfails

end Sample

end I2pr.AddressBook

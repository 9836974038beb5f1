import I2pr.StreamingConfig
import I2pr.Lib.Decimal
import I2pr.Lib.Fallible
import I2pr.Lib.Lines
import I2pr.Lib.TreeFold

namespace I2pr.AddressBook

open Fallible Std Ascii List
open Ascii (bytes)

abbrev Text := List UInt8

inductive AddressBookError where
  | invalidHostname
  | invalidDestination
  | unknownHostname
  | bookFull
  | mixedShapes
  | malformedField
  | invalidSubscription
  | tooManySubscriptions
  | listOverBound
  | unknownConfigKey
  | invalidConfigValue
  | pathEscape
  | invalidGeneration
deriving DecidableEq, Repr

def maxHostnameLen : Nat := 255
def maxLabelLen : Nat := 63
def maxDestinationTextLen : Nat := 4096
def maxEntriesPerBook : Nat := 1000
def maxSubscriptionUrls : Nat := 16
def maxSubscriptionUrlLen : Nat := 2048
def maxSubscriptionValidatorLen : Nat := 1024
def maxConfigValueLen : Nat := 1024
def maxConfigPathLen : Nat := 255

def i2pSuffix : Text := bytes ".i2p"

/-- What the address book takes from other crates and from the standard library: whether a translated Base64 text
decodes to a destination, and the canonical text of a loopback address. -/
structure Primitives where
  decodesDestination : Text → Bool
  loopback : Text → Option Text
  loopback_canonical : ∀ value address, loopback value = some address → loopback address = some address
  loopback_length : ∀ value address, loopback value = some address → 0 < address.length ∧ address.length ≤ maxConfigValueLen

def validLabel (label : Text) : Bool :=
  !(label.isEmpty || maxLabelLen < label.length || label.head? = some 45 || label.getLast? = some 45 ||
    !label.all fun byte => Ascii.isAlphanumeric byte || byte == 45)

def bareName (raw : Text) : Text :=
  let lowered := raw.map Ascii.lower
  if [46] <:+ lowered then lowered.take (lowered.length - 1) else lowered

def checkBareName (bare : Text) : Except AddressBookError Text :=
  if bare = [] ∨ maxHostnameLen < bare.length then .error .invalidHostname
  else if ¬ i2pSuffix <:+ bare then .error .invalidHostname
  else
    let i2p := bare.take (bare.length - i2pSuffix.length)
    if i2p = [] then .error .invalidHostname
    else if ¬ (i2p.splitOn 46).all validLabel then .error .invalidHostname
    else .ok (i2p ++ i2pSuffix)

/-- The text `parse_hostname` canonicalizes to. -/
def canonicalName (raw : Text) : Except AddressBookError Text :=
  if raw = [] ∨ maxHostnameLen < raw.length then .error .invalidHostname
  else if ¬ raw.all (· < 128) then .error .invalidHostname
  else checkBareName (bareName raw)

theorem checkBareName_eq_ok {bare name : Text} (h : checkBareName bare = .ok name) :
    name = bare ∧ ¬ (bare = [] ∨ maxHostnameLen < bare.length) ∧ i2pSuffix <:+ bare := by
  obtain ⟨hlen, h⟩ := ite_error_eq_ok.mp h
  obtain ⟨hsuffix, h⟩ := ite_error_eq_ok.mp h
  obtain ⟨-, h⟩ := ite_error_eq_ok.mp h
  obtain ⟨-, h⟩ := ite_error_eq_ok.mp h
  have hsuffix := not_not.mp hsuffix
  obtain ⟨front, hfront⟩ := hsuffix
  refine ⟨?_, hlen, ⟨front, hfront⟩⟩
  rw [← Except.ok.inj h, ← hfront]
  simp

theorem lower_of_mem_bareName {raw : Text} {byte : UInt8} (h : byte ∈ bareName raw) :
    ∃ original ∈ raw, lower original = byte := by
  have hin : byte ∈ raw.map lower := by
    unfold bareName at h
    dsimp only at h
    split at h
    · exact mem_of_mem_take h
    · exact h
  exact mem_map.mp hin

theorem bareName_of_lowered {name : Text} (hlower : ∀ byte ∈ name, lower byte = byte) (hsuffix : i2pSuffix <:+ name) :
    bareName name = name := by
  have hmap : name.map lower = name := (map_congr_left hlower).trans (map_id name)
  unfold bareName
  rw [hmap]
  refine if_neg fun hdot => ?_
  obtain ⟨front, rfl⟩ := hsuffix
  obtain ⟨before, hbefore⟩ := hdot
  have hlast := congrArg getLast? hbefore
  rw [show i2pSuffix = bytes ".i2" ++ [112] from rfl, ← append_assoc] at hlast
  simp at hlast

theorem lower_lt {byte : UInt8} (h : byte < 128) : lower byte < 128 := by
  cases hupper : isUpper byte with
  | false => rwa [lower_of_not_isUpper hupper]
  | true => exact isAlphanumeric_lt (by simp [isAlphanumeric, lower_of_isUpper hupper])

theorem canonicalName_idem {raw name : Text} (h : canonicalName raw = .ok name) : canonicalName name = .ok name := by
  obtain ⟨-, h⟩ := ite_error_eq_ok.mp h
  obtain ⟨hascii, h⟩ := ite_error_eq_ok.mp h
  obtain ⟨rfl, hlen, hsuffix⟩ := checkBareName_eq_ok h
  have hlower : ∀ byte ∈ bareName raw, lower byte = byte := by
    intro byte hbyte
    obtain ⟨original, -, rfl⟩ := lower_of_mem_bareName hbyte
    exact lower_lower original
  have hname : (bareName raw).all (· < 128) = true := by
    rw [all_eq_true]
    intro byte hbyte
    obtain ⟨original, horiginal, rfl⟩ := lower_of_mem_bareName hbyte
    have hraw := all_eq_true.mp (not_not.mp hascii) original horiginal
    exact decide_eq_true (lower_lt (of_decide_eq_true hraw))
  rw [canonicalName, if_neg hlen, if_neg (not_not.mpr hname), bareName_of_lowered hlower hsuffix]
  exact h

/-- The bytes that stand before the padding, and the padding. -/
def paddingOk (text : Text) : Bool :=
  let padding := text.dropWhile (· ≠ 61)
  padding.all (· = 61) && padding.length ≤ 2

def validateDestinationText (prim : Primitives) (text : Text) : Except AddressBookError Unit :=
  if text = [] ∨ maxDestinationTextLen < text.length ∨ text.length % 4 ≠ 0 then .error .invalidDestination
  else if ¬ text.all (fun byte => Ascii.isAlphanumeric byte || byte == 45 || byte == 126 || byte == 61) then
    .error .invalidDestination
  else if ¬ paddingOk text then .error .invalidDestination
  else if prim.decodesDestination (text.map fun byte => if byte = 45 then 43 else if byte = 126 then 47 else byte) then .ok ()
  else .error .invalidDestination

def validateSubscriptionValidator (value : Text) : Except AddressBookError Unit :=
  if maxSubscriptionValidatorLen < value.length ∨ value.any (fun byte => byte < 0x20 || byte == 0x7f) then
    .error .invalidConfigValue
  else .ok ()

def stripScheme (lowered : Text) : Option Text :=
  if bytes "http://" <+: lowered then some (lowered.drop 7)
  else if bytes "https://" <+: lowered then some (lowered.drop 8)
  else none

def validateSubscriptionUrl (url : Text) : Except AddressBookError Unit :=
  if url = [] ∨ maxSubscriptionUrlLen < url.length then .error .invalidSubscription
  else if url.any (fun byte => byte ≤ 0x20 || byte == 0x7f) then .error .invalidSubscription
  else
    match stripScheme (url.map Ascii.lower) with
    | none => .error .invalidSubscription
    | some rest =>
      let authority := rest.takeWhile fun byte => byte ≠ 47 && byte ≠ 63 && byte ≠ 35
      let host := match Lines.rsplitOnce 58 authority with
        | some (host, port) => if port.all Ascii.isDigit then host else authority
        | none => authority
      if host = [] ∨ maxHostnameLen < host.length ∨ 64 ∈ host ∨ ¬ i2pSuffix <:+ host.map Ascii.lower then
        .error .invalidSubscription
      else .ok ()

/-- The list `SubscriptionSet::checked` keeps: every URL once, in the order of its first mention. -/
def distinctUrls : List Text → List Text → Except AddressBookError (List Text)
  | [], distinct => .ok distinct
  | url :: urls, distinct => do
    validateSubscriptionUrl url
    distinctUrls urls (if url ∈ distinct then distinct else distinct ++ [url])

theorem distinctUrls_self {urls distinct : List Text} (hvalid : ∀ url ∈ urls, validateSubscriptionUrl url = .ok ())
    (hnodup : (distinct ++ urls).Nodup) : distinctUrls urls distinct = .ok (distinct ++ urls) := by
  induction urls generalizing distinct with
  | nil => simp [distinctUrls]
  | cons url urls ih =>
    have hnew : url ∉ distinct := fun hmem => disjoint_of_nodup_append hnodup hmem mem_cons_self
    unfold distinctUrls
    rw [hvalid url mem_cons_self, if_neg hnew]
    have hnext : ((distinct ++ [url]) ++ urls).Nodup := by simpa using hnodup
    refine (ih (fun u hu => hvalid u (mem_cons_of_mem _ hu)) hnext).trans ?_
    simp

theorem distinctUrls_eq_ok {urls distinct kept : List Text} (h : distinctUrls urls distinct = .ok kept)
    (hvalid : ∀ url ∈ distinct, validateSubscriptionUrl url = .ok ()) (hnodup : distinct.Nodup) :
    (∀ url ∈ kept, validateSubscriptionUrl url = .ok ()) ∧ kept.Nodup ∧ kept.length ≤ distinct.length + urls.length := by
  induction urls generalizing distinct with
  | nil =>
    cases h
    exact ⟨hvalid, hnodup, le_rfl⟩
  | cons url urls ih =>
    obtain ⟨_, hurl, h⟩ := bind_eq_ok.mp h
    split at h
    · obtain ⟨hkept, hdistinct, hlen⟩ := ih h hvalid hnodup
      exact ⟨hkept, hdistinct, hlen.trans (by simp)⟩
    next hnew =>
      have hadded : (distinct ++ [url]).Nodup := hnodup.append (nodup_singleton url) (by simpa using hnew)
      obtain ⟨hkept, hdistinct, hlen⟩ := ih h (by simpa [or_imp, forall_and, hurl] using hvalid) hadded
      refine ⟨hkept, hdistinct, hlen.trans ?_⟩
      simp
      omega

def checkedUrls (urls : List Text) : Except AddressBookError (List Text) :=
  if maxSubscriptionUrls < urls.length then .error .tooManySubscriptions else distinctUrls urls []

theorem checkedUrls_eq_ok {urls kept : List Text} (h : checkedUrls urls = .ok kept) :
    kept.Nodup ∧ checkedUrls kept = .ok kept := by
  obtain ⟨hcount, h⟩ := ite_error_eq_ok.mp h
  obtain ⟨hvalid, hnodup, hlen⟩ := distinctUrls_eq_ok h (by simp) nodup_nil
  refine ⟨hnodup, ?_⟩
  simp only [length_nil, Nat.zero_add] at hlen
  rw [checkedUrls, if_neg (by omega), distinctUrls_self hvalid (by simpa using hnodup), nil_append]

inductive LogLevel where
  | off
  | error
  | warn
  | info
  | debug
deriving DecidableEq, Repr

def LogLevel.name : LogLevel → Text
  | .off => bytes "off"
  | .error => bytes "error"
  | .warn => bytes "warn"
  | .info => bytes "info"
  | .debug => bytes "debug"

def LogLevel.parse (text : Text) : Except AddressBookError LogLevel :=
  match [LogLevel.off, .error, .warn, .info, .debug].find? (·.name = text) with
  | some level => .ok level
  | none => .error .invalidConfigValue

structure AddressBookConfig where
  privateArtifact : Text
  localArtifact : Text
  routerArtifact : Text
  publishedArtifact : Text
  subscriptionsArtifact : Text
  refreshIntervalHours : Nat
  proxyHost : Option Text
  proxyPort : Option Nat
  theme : Text
  logFile : Text
  logLevel : LogLevel
  lookupTimeoutSecs : Nat
  maxEntries : Nat
  shouldPublish : Bool
  etagsArtifact : Text
  lastModifiedArtifact : Text
deriving DecidableEq, Repr

inductive ConfigKey where
  | privateBook
  | localBook
  | routerBook
  | publishedBook
  | subscriptions
  | refreshInterval
  | proxyHost
  | proxyPort
  | theme
  | logFile
  | logLevel
  | lookupTimeout
  | maxEntries
  | shouldPublish
  | etags
  | lastModified
deriving DecidableEq, Repr

namespace ConfigKey

def name : ConfigKey → Text
  | privateBook => bytes "private_book"
  | localBook => bytes "local_book"
  | routerBook => bytes "router_book"
  | publishedBook => bytes "published_book"
  | subscriptions => bytes "subscriptions"
  | refreshInterval => bytes "refresh_interval"
  | proxyHost => bytes "proxy_host"
  | proxyPort => bytes "proxy_port"
  | theme => bytes "theme"
  | logFile => bytes "log_file"
  | logLevel => bytes "log_level"
  | lookupTimeout => bytes "lookup_timeout"
  | maxEntries => bytes "max_entries"
  | shouldPublish => bytes "should_publish"
  | etags => bytes "etags"
  | lastModified => bytes "last_modified"

def all : List ConfigKey :=
  [privateBook, localBook, routerBook, publishedBook, subscriptions, refreshInterval, proxyHost, proxyPort, theme, logFile,
    logLevel, lookupTimeout, maxEntries, shouldPublish, etags, lastModified]

def parse (text : Text) : Except AddressBookError ConfigKey :=
  match all.find? (·.name = text) with
  | some key => .ok key
  | none => .error .unknownConfigKey

theorem parse_name (key : ConfigKey) : parse key.name = .ok key := by
  cases key
  all_goals rfl

end ConfigKey

def confinedPath (value : Text) : Except AddressBookError Text :=
  if value = [] ∨ maxConfigPathLen < value.length then .error .invalidConfigValue
  else if value.any (fun byte => byte < 0x20 || byte == 0x7f || byte == 47 || byte == 92 || byte == 0) then
    .error .invalidConfigValue
  else if value = bytes "." ∨ value = bytes ".." then .error .pathEscape
  else if value.head? = some 46 then .error .invalidConfigValue
  else if value = bytes "addressbook.current.json" ∨ value = bytes "addressbook.backup.json" then
    .error .invalidConfigValue
  else .ok value

def parseRangedU64 (text : Text) (minimum maximum : Nat) : Except AddressBookError Nat :=
  if text = [] ∨ ¬ text.all Ascii.isDigit then .error .invalidConfigValue
  else
    match Decimal.parse (2 ^ 64 - 1) text with
    | none => .error .invalidConfigValue
    | some value => if value < minimum ∨ maximum < value then .error .invalidConfigValue else .ok value

def parseBool (text : Text) : Except AddressBookError Bool :=
  if text = bytes "true" then .ok true
  else if text = bytes "false" then .ok false
  else .error .invalidConfigValue

def renderBool (value : Bool) : Text := if value then bytes "true" else bytes "false"

namespace AddressBookConfig

def default : AddressBookConfig where
  privateArtifact := bytes "private.json"
  localArtifact := bytes "local.json"
  routerArtifact := bytes "router.json"
  publishedArtifact := bytes "published.json"
  subscriptionsArtifact := bytes "subscriptions.body"
  refreshIntervalHours := 24
  proxyHost := none
  proxyPort := none
  theme := []
  logFile := bytes "addressbook.log"
  logLevel := .warn
  lookupTimeoutSecs := 30
  maxEntries := maxEntriesPerBook
  shouldPublish := false
  etagsArtifact := bytes "subscriptions.etags"
  lastModifiedArtifact := bytes "subscriptions.last-modified"

def setKey (prim : Primitives) (next : AddressBookConfig) (value : Text) :
    ConfigKey → Except AddressBookError AddressBookConfig
  | .privateBook => do return { next with privateArtifact := ← confinedPath value }
  | .localBook => do return { next with localArtifact := ← confinedPath value }
  | .routerBook => do return { next with routerArtifact := ← confinedPath value }
  | .publishedBook => do return { next with publishedArtifact := ← confinedPath value }
  | .subscriptions => do return { next with subscriptionsArtifact := ← confinedPath value }
  | .refreshInterval => do return { next with refreshIntervalHours := ← parseRangedU64 value 1 720 }
  | .proxyHost =>
    if value = [] then .ok { next with proxyHost := none }
    else
      match prim.loopback value with
      | some address => .ok { next with proxyHost := some address }
      | none => .error .invalidConfigValue
  | .proxyPort =>
    if value = [] then .ok { next with proxyPort := none }
    else do return { next with proxyPort := some (← parseRangedU64 value 1 65535) }
  | .theme => .ok { next with theme := value }
  | .logFile => do return { next with logFile := ← confinedPath value }
  | .logLevel => do return { next with logLevel := ← LogLevel.parse value }
  | .lookupTimeout => do return { next with lookupTimeoutSecs := ← parseRangedU64 value 1 300 }
  | .maxEntries => do return { next with maxEntries := ← parseRangedU64 value 1 maxEntriesPerBook }
  | .shouldPublish => do return { next with shouldPublish := ← parseBool value }
  | .etags => do return { next with etagsArtifact := ← confinedPath value }
  | .lastModified => do return { next with lastModifiedArtifact := ← confinedPath value }

def artifacts (config : AddressBookConfig) : List Text :=
  [config.privateArtifact, config.localArtifact, config.routerArtifact, config.publishedArtifact,
    config.subscriptionsArtifact, config.logFile, config.etagsArtifact, config.lastModifiedArtifact]

def updateEntry (prim : Primitives) (next : AddressBookConfig) (entry : Text × Text) :
    Except AddressBookError AddressBookConfig :=
  if maxConfigValueLen < entry.2.length then .error .invalidConfigValue
  else do
    let key ← ConfigKey.parse entry.1
    next.setKey prim entry.2 key

def checkedUpdate (prim : Primitives) (config : AddressBookConfig) (entries : ExtTreeMap Text Text) :
    Except AddressBookError AddressBookConfig := do
  let next ← entries.toList.foldlM (updateEntry prim) config
  if ¬ next.artifacts.Nodup then .error .invalidConfigValue else .ok next

end AddressBookConfig

inductive BookKind where
  | privateBook
  | localBook
  | routerBook
  | publishedBook
deriving DecidableEq, Repr

structure NameTable where
  entries : ExtTreeMap Text Text
  canonical : ∀ name ∈ entries, canonicalName name = .ok name

namespace NameTable

theorem ext {a b : NameTable} (h : a.entries = b.entries) : a = b := by
  cases a
  cases b
  cases h
  rfl

instance : DecidableEq NameTable := fun a b => decidable_of_iff (a.entries = b.entries) ⟨ext, fun h => h ▸ rfl⟩

def empty : NameTable := ⟨∅, by simp⟩

def insert (table : NameTable) {name : Text} (h : canonicalName name = .ok name) (destination : Text) : NameTable where
  entries := table.entries.insert name destination
  canonical k hk := by
    rcases TreeMap.mem_insert.mp hk with rfl | hk
    · exact h
    · exact table.canonical k hk

def insertAll (table other : NameTable) : NameTable where
  entries := TreeMap.insertAll table.entries other.entries.toList
  canonical k hk := by
    rcases TreeMap.mem_insertAll_toList.mp hk with hk | hk
    · exact other.canonical k hk
    · exact table.canonical k hk

def erase (table : NameTable) (name : Text) : NameTable where
  entries := table.entries.erase name
  canonical k hk := table.canonical k (ExtTreeMap.mem_erase.mp hk).2

end NameTable

structure SubscriptionSource where
  entries : NameTable
  etag : Option Text
  lastModified : Option Text
deriving DecidableEq

/-- The URLs of `SubscriptionSet`, which only `checked` builds. -/
structure SubscriptionSet where
  urls : List Text
  checked : checkedUrls urls = .ok urls

theorem SubscriptionSet.ext {a b : SubscriptionSet} (h : a.urls = b.urls) : a = b := by
  cases a
  cases b
  cases h
  rfl

theorem SubscriptionSet.nodup (subscriptions : SubscriptionSet) : subscriptions.urls.Nodup :=
  (checkedUrls_eq_ok subscriptions.checked).1

structure State where
  books : BookKind → NameTable
  subscribed : NameTable
  subscriptionSources : ExtTreeMap Text SubscriptionSource
  subscriptions : SubscriptionSet
  config : AddressBookConfig
  revision : Nat

namespace State

def new : State where
  books _ := .empty
  subscribed := .empty
  subscriptionSources := ∅
  subscriptions := ⟨[], rfl⟩
  config := .default
  revision := 0

def bumpRevision (book : State) : State := { book with revision := saturatingAdd book.revision 1 }

def setRevision (book : State) (revision : Nat) : State := { book with revision := revision }

end State

def mergeSource (sources : ExtTreeMap Text SubscriptionSource) (merged : NameTable) (url : Text) : NameTable :=
  match sources[url]? with
  | some source => merged.insertAll source.entries
  | none => merged

/-- The entries of the sources, put together in the order of the URLs; later sources win. -/
def mergeSubscriptionSources (subscriptions : SubscriptionSet) (sources : ExtTreeMap Text SubscriptionSource) :
    NameTable :=
  subscriptions.urls.foldl (mergeSource sources) .empty

structure EntryMutation where
  book : BookKind
  hostname : Text
  destination : Option Text
  delete : Bool

inductive EntryOutcome where
  | created
  | updated
  | deleted

namespace State

variable (prim : Primitives)

variable (book : State)

def setBook (kind : BookKind) (table : NameTable) : State :=
  { book with books := Function.update book.books kind table }

def applyEntry (mutation : EntryMutation) : Except AddressBookError (EntryOutcome × State) :=
  if mutation.delete ∧ mutation.destination.isSome then .error .mixedShapes
  else
    match hname : canonicalName mutation.hostname with
    | .error error => .error error
    | .ok name =>
      let table := book.books mutation.book
      if mutation.delete then
        if name ∉ table.entries then .error .unknownHostname
        else .ok (.deleted, (book.setBook mutation.book (table.erase name)).bumpRevision)
      else
        match mutation.destination with
        | none => .error .malformedField
        | some destination => do
          validateDestinationText prim destination
          if name ∉ table.entries ∧ max 1 (min book.config.maxEntries maxEntriesPerBook) ≤ table.entries.size then
            .error .bookFull
          else
            .ok (if name ∉ table.entries then .created else .updated,
              (book.setBook mutation.book (table.insert (canonicalName_idem hname) destination)).bumpRevision)

def replaceSubscriptions (urls : List Text) : Except AddressBookError (Bool × State) :=
  match hkept : checkedUrls urls with
  | .error error => .error error
  | .ok kept =>
    if kept = book.subscriptions.urls then .ok (false, book)
    else
      let next : SubscriptionSet := ⟨kept, (checkedUrls_eq_ok hkept).2⟩
      let sources := book.subscriptionSources.filter fun url _ => url ∈ kept
      .ok (true, { book with
        subscriptions := next
        subscriptionSources := sources
        subscribed := mergeSubscriptionSources next sources }.bumpRevision)

def replaceDerived (entries : NameTable) : Except AddressBookError (Bool × State) :=
  if maxEntriesPerBook < entries.entries.size then .error .listOverBound
  else do
    entries.entries.toList.forM fun entry => validateDestinationText prim entry.2
    if entries = book.subscribed then .ok (false, book)
    else .ok (true, { book with subscribed := entries, subscriptionSources := ∅ }.bumpRevision)

def checkSource (source : SubscriptionSource) : Except AddressBookError Unit :=
  if maxEntriesPerBook < source.entries.entries.size then .error .listOverBound
  else do
    source.etag.forM validateSubscriptionValidator
    source.lastModified.forM validateSubscriptionValidator
    source.entries.entries.toList.forM fun entry => validateDestinationText prim entry.2

def replaceSubscriptionSources (sources : ExtTreeMap Text SubscriptionSource) :
    Except AddressBookError (Bool × State) :=
  if sources.size ≠ book.subscriptions.urls.length ∨ book.subscriptions.urls.any (· ∉ sources) then
    .error .invalidSubscription
  else do
    sources.toList.forM fun entry => checkSource prim entry.2
    let derived := mergeSubscriptionSources book.subscriptions sources
    if maxEntriesPerBook < derived.entries.size then .error .listOverBound
    else if sources = book.subscriptionSources ∧ derived = book.subscribed then .ok (false, book)
    else .ok (true, { book with subscriptionSources := sources, subscribed := derived }.bumpRevision)

def syncPublishedFromRouter : Bool × State :=
  if ¬ book.config.shouldPublish then (false, book)
  else if book.books .publishedBook = book.books .routerBook then (false, book)
  else (true, (book.setBook .publishedBook (book.books .routerBook)).bumpRevision)

def applyConfig (entries : ExtTreeMap Text Text) : Except AddressBookError (Bool × State) := do
  let next ← book.config.checkedUpdate prim entries
  if [BookKind.privateBook, .localBook, .routerBook, .publishedBook].any
      (fun kind => next.maxEntries < (book.books kind).entries.size) then .error .invalidConfigValue
  else if next = book.config then .ok (false, book)
  else .ok (true, { book with config := next }.bumpRevision)

end State

end I2pr.AddressBook

import I2pr.HttpProxy

namespace I2pr.Http

open Decimal Fallible List
open Ascii (bytes)

structure HttpServerPolicy where
  blockReferers : Bool
  blockAccessInProxies : Bool
  blockUserAgents : Bool
  userAgents : List (List UInt8)
  spoofedHost : Option (List UInt8)

def HttpServerPolicy.default : HttpServerPolicy := ⟨true, false, false, [], none⟩

def serverAuthorityMaxBytes : Nat := 256
def spoofedHostMaxBytes : Nat := 253
def u64Max : Nat := 2 ^ 64 - 1

def validHostLabel (label : List UInt8) : Bool :=
  !label.isEmpty && label.length ≤ 63 && label.head?.any Ascii.isAlphanumeric &&
    label.getLast?.any Ascii.isAlphanumeric && label.all fun byte => Ascii.isAlphanumeric byte || byte == 45

def validSpoofedHost (host : List UInt8) : Bool :=
  !(host.isEmpty || spoofedHostMaxBytes < host.length || host.any (128 ≤ ·)) && (host.splitOn 46).all validHostLabel

def validateLocalAuthority (authority : List UInt8) : Except HttpError Unit :=
  if authority.isEmpty ∨ serverAuthorityMaxBytes < authority.length then
    .error ⟨.malformedTarget, "local authority exceeds the ceiling"⟩
  else if authority.any (fun byte => byte ≤ 0x20 || byte == 0x7f) then
    .error ⟨.malformedTarget, "local authority contains control or whitespace bytes"⟩
  else if authority.contains 64 ∨ authority.count 58 ≠ 1 then
    .error ⟨.malformedTarget, "local authority must be host:port"⟩
  else .ok ()

def userAgentIsBlocked (headers : List HeaderEntry) (rules : List (List UInt8)) : Bool :=
  let userAgents := fieldValues (bytes "user-agent") headers
  if userAgents.isEmpty then rules.contains (bytes "none")
  else userAgents.any fun agent =>
    !(bytes "MYOB").isPrefixOf agent &&
      rules.any fun rule => rule ≠ bytes "none" ∧ rule ≠ [] ∧ rule <:+: agent

structure FilteredServerRequest where
  headBytes : List UInt8
  contentLength : Option Nat
deriving DecidableEq, Repr

def isIdentifying (name : List UInt8) : Bool :=
  [bytes "via", bytes "forwarded", bytes "x-forwarded-for", bytes "x-forwarded-host",
    bytes "x-forwarded-proto", bytes "proxy-authorization", bytes "from"].contains name

def filterDrops (nominated : List (List UInt8)) (policy : HttpServerPolicy) (name : List UInt8) : Bool :=
  name = bytes "connection" || nominated.contains name || isHopByHop name || isIdentifying name ||
    (policy.blockReferers && name = bytes "referer")

structure FilterState where
  contentLengths : List Nat
  output : List HeaderEntry
  hostInserted : Bool

def filterLoop (nominated : List (List UInt8)) (policy : HttpServerPolicy) (localAuthority : List UInt8) :
    List HeaderEntry → FilterState → Except HttpError FilterState
  | [], state => .ok state
  | entry :: headers, state =>
    if filterDrops nominated policy entry.name then filterLoop nominated policy localAuthority headers state
    else if entry.name = bytes "content-length" then
      match Decimal.parse u64Max (Utf8.trim entry.value) with
      | none => .error ⟨.malformedHeaders, "Content-Length is not a valid integer"⟩
      | some length => filterLoop nominated policy localAuthority headers
          { state with contentLengths := state.contentLengths ++ [length] }
    else if entry.name = bytes "host" then
      if state.hostInserted then filterLoop nominated policy localAuthority headers state
      else filterLoop nominated policy localAuthority headers { state with
        output := state.output ++ [⟨bytes "host", policy.spoofedHost.getD localAuthority⟩], hostInserted := true }
    else filterLoop nominated policy localAuthority headers { state with output := state.output ++ [entry] }

def filterServerRequestWithPolicy (head : HttpRequestHead) (localAuthority : List UInt8) (policy : HttpServerPolicy) :
    Except HttpError FilteredServerRequest :=
  if head.line.method = bytes "CONNECT" then .error ⟨.methodNotAllowed, "server profile rejects CONNECT"⟩
  else if head.line.target.head? ≠ some 47 then .error ⟨.malformedTarget, "server profile requires origin-form"⟩
  else do
    let _ ← parseOriginForm head.line.target
    validateLocalAuthority localAuthority
    if policy.spoofedHost.any fun host => !validSpoofedHost host then
      .error ⟨.malformedTarget, "configured SpoofedHost is not a valid DNS host"⟩
    else if (fieldValues (bytes "host") head.headers).length = 0 then
      .error ⟨.malformedHeaders, "server profile requires a Host header"⟩
    else if policy.blockAccessInProxies && head.headers.any (fun entry =>
        [bytes "x-forwarded-for", bytes "x-forwarded-server", bytes "forwarded",
          bytes "x-forwarded-host"].contains entry.name) then
      .error ⟨.presentationRefused, "request appears to have passed through an HTTP inproxy"⟩
    else if policy.blockUserAgents && userAgentIsBlocked head.headers policy.userAgents then
      .error ⟨.presentationRefused, "request User-Agent is blocked by the server policy"⟩
    else if head.headers.any fun entry => entry.name = bytes "transfer-encoding" then
      .error ⟨.smugglingAmbiguity, "server profile rejects Transfer-Encoding"⟩
    else do
      let state ← filterLoop (connectionList head.headers) policy localAuthority head.headers ⟨[], [], false⟩
      if 1 < state.contentLengths.length then .error ⟨.smugglingAmbiguity, "duplicate Content-Length"⟩
      else
        let contentLength := state.contentLengths.head?
        let output := match contentLength with
          | none => state.output
          | some length => state.output ++ [⟨bytes "content-length", Decimal.render length⟩]
        let output := output ++ [⟨bytes "connection", bytes "close"⟩]
        .ok ⟨serializeHead head.line.method head.line.target output, contentLength⟩

variable (policy : HttpServerPolicy)

def isHidden (name : List UInt8) : Bool :=
  isHopByHop name || isProxyOrForwardingMetadata name || name = bytes "from" ||
    (policy.blockReferers && name = bytes "referer")

def isOther (name : List UInt8) : Bool :=
  !(name = bytes "host" || name = bytes "connection" || name = bytes "content-length" ||
    isHidden policy name)

def passedOn (head : HttpRequestHead) : List HeaderEntry :=
  head.headers.filter fun entry => isOther policy entry.name && !(connectionList head.headers).contains entry.name

def declaredLengths (headers : List HeaderEntry) : List (Option Nat) :=
  (fieldValues (bytes "content-length") headers).map (Decimal.parse u64Max)

/-- What the local server is to read of a request. -/
structure Presents (policy : HttpServerPolicy) (localAuthority : List UInt8) (head : HttpRequestHead)
    (contentLength : Option Nat) (parsed : HttpRequestHead) : Prop where
  method : parsed.line.method = head.line.method
  target : parsed.line.target = head.line.target
  host : fieldValues (bytes "host") parsed.headers = [policy.spoofedHost.getD localAuthority]
  connection : fieldValues (bytes "connection") parsed.headers = [bytes "close"]
  hidden : ∀ entry ∈ parsed.headers, isHidden policy entry.name = false
  lengths : declaredLengths parsed.headers = declaredLengths head.headers
  reported : contentLength.toList.map some = declaredLengths head.headers
  others : parsed.headers.filter (fun entry => isOther policy entry.name) = passedOn policy head

/-- The head that is produced parses back, and says what it should. -/
def SpoofProof (limits : HttpLimits) (policy : HttpServerPolicy) (localAuthority : List UInt8) (head : HttpRequestHead)
    (filtered : FilteredServerRequest) : Prop :=
  ∃ parsed, parseRequestHead filtered.headBytes { limits with headerCountMax := head.headers.length + 1 } = .ok parsed ∧
    Presents policy localAuthority head filtered.contentLength parsed

def presentedSize (localAuthority : List UInt8) (head : HttpRequestHead) : Nat :=
  (requestLine head.line.method head.line.target).length + 2 +
    ((passedOn policy head).map fun entry => (renderLine entry).length + 2).sum +
    ((policy.spoofedHost.getD localAuthority).length + 8) +
    ((declaredLengths head.headers).reduceOption.map fun length => (Decimal.render length).length + 18).sum + 19 + 2

/-- The requests that are presented as they should be. -/
structure Presentable (limits : HttpLimits) (policy : HttpServerPolicy) (localAuthority : List UInt8)
    (head : HttpRequestHead) : Prop where
  host : bytes "host" ∉ connectionList head.headers
  contentLength : fieldValues (bytes "content-length") head.headers = [] ∨
    bytes "content-length" ∉ connectionList head.headers
  metadata : ∀ entry ∈ head.headers, isProxyOrForwardingMetadata entry.name = true →
    isIdentifying entry.name = true ∨ entry.name ∈ connectionList head.headers
  trimmed : Utf8.trim (policy.spoofedHost.getD localAuthority) = policy.spoofedHost.getD localAuthority
  otherFields : ∀ entry ∈ passedOn policy head, (renderLine entry).length ≤ limits.totalHeaderBytesMax
  hostField : (policy.spoofedHost.getD localAuthority).length ≤ limits.fieldValueMaxBytes ∧
    (policy.spoofedHost.getD localAuthority).length + 6 ≤ limits.totalHeaderBytesMax
  lengthField : ∀ length, some length ∈ declaredLengths head.headers →
    (Decimal.render length).length + 16 ≤ limits.totalHeaderBytesMax
  connectionField : 10 ≤ limits.fieldNameMaxBytes ∧ 5 ≤ limits.fieldValueMaxBytes ∧ 17 ≤ limits.totalHeaderBytesMax
  size : presentedSize policy localAuthority head ≤ limits.retainedBufferMaxBytes

section Loop

variable {nominated : List (List UInt8)} {policy : HttpServerPolicy} {localAuthority : List UInt8}

def presented (host : List UInt8) (entry : HeaderEntry) : HeaderEntry :=
  if entry.name = bytes "host" then ⟨bytes "host", host⟩ else entry

theorem presented_name (host : List UInt8) (entry : HeaderEntry) : (presented host entry).name = entry.name := by
  unfold presented
  split
  next h => exact h.symm
  · rfl

def isKept (nominated : List (List UInt8)) (policy : HttpServerPolicy) (entry : HeaderEntry) : Bool :=
  !filterDrops nominated policy entry.name && entry.name ≠ bytes "content-length"

theorem filterLoop_inv {headers : List HeaderEntry} {state result : FilterState}
    (hhosts : (fieldValues (bytes "host") headers).length ≤ if state.hostInserted then 0 else 1)
    (h : filterLoop nominated policy localAuthority headers state = .ok result) :
    result.output = state.output ++
        (headers.filter (isKept nominated policy)).map (presented (policy.spoofedHost.getD localAuthority)) ∧
      result.contentLengths.map some = state.contentLengths.map some ++
        if filterDrops nominated policy (bytes "content-length") then []
        else (fieldValues (bytes "content-length") headers).map fun value =>
          parse u64Max (Utf8.trim value) := by
  induction headers generalizing state with
  | nil =>
    cases h
    simp [fieldValues]
  | cons entry headers ih =>
    rw [filterLoop] at h
    rw [fieldValues_cons, length_append] at hhosts
    have hrest : (fieldValues (bytes "host") headers).length ≤ if state.hostInserted then 0 else 1 := by omega
    rw [fieldValues_cons, map_append]
    split at h
    next hdrops =>
      obtain ⟨houtput, hlengths⟩ := ih (by exact hrest) h
      have hkept : isKept nominated policy entry = false := by simp [isKept, hdrops]
      refine ⟨by rw [houtput, filter_cons_of_neg (by simp [hkept])], ?_⟩
      rw [hlengths]
      by_cases hname : entry.name = bytes "content-length"
      · rw [hname] at hdrops
        rw [if_pos hdrops, if_pos hdrops]
      · rw [fieldValues_singleton_ne hname, map_nil, nil_append]
    next hdrops =>
      split at h
      next hname =>
        have hkept : isKept nominated policy entry = false := by simp [isKept, hname]
        rw [filter_cons_of_neg (by simp [hkept])]
        rw [hname] at hdrops
        split at h
        · cases h
        next length hlength =>
          obtain ⟨houtput, hlengths⟩ := ih (by exact hrest) h
          refine ⟨houtput, ?_⟩
          rw [hlengths, if_neg hdrops, if_neg hdrops]
          simp [fieldValues, hname, hlength]
      next hname =>
        have hkept : isKept nominated policy entry = true := by simp [isKept, hdrops, hname]
        rw [filter_cons_of_pos hkept, map_cons, fieldValues_singleton_ne hname, map_nil,
          nil_append]
        split at h
        next hhost =>
          have hone : (fieldValues (bytes "host") [entry]).length = 1 := by simp [fieldValues, hhost]
          rw [hone] at hhosts
          split at h
          next hinserted =>
            rw [if_pos hinserted] at hhosts
            omega
          next hinserted =>
            rw [if_neg hinserted] at hhosts
            obtain ⟨houtput, hlengths⟩ := ih (by simpa using hhosts) h
            refine ⟨?_, hlengths⟩
            rw [houtput, presented, if_pos hhost]
            simp
        next hhost =>
          obtain ⟨houtput, hlengths⟩ := ih (by exact hrest) h
          refine ⟨?_, hlengths⟩
          rw [houtput, presented, if_neg hhost]
          simp

end Loop

def presentedFields (localAuthority : List UInt8) (head : HttpRequestHead)
    (contentLength : Option Nat) : List HeaderEntry :=
  (head.headers.filter (isKept (connectionList head.headers) policy)).map
      (presented (policy.spoofedHost.getD localAuthority)) ++
    contentLength.toList.map (fun length => ⟨bytes "content-length", Decimal.render length⟩) ++
    [⟨bytes "connection", bytes "close"⟩]

/-- What a request that passes the filter is, and what becomes of it. -/
structure Passed (policy : HttpServerPolicy) (localAuthority : List UInt8) (head : HttpRequestHead)
    (filtered : FilteredServerRequest) : Prop where
  authority : validateLocalAuthority localAuthority = .ok ()
  spoofedHost : ∀ host, policy.spoofedHost = some host → validSpoofedHost host = true
  host : (fieldValues (bytes "host") head.headers).length = 1
  transferEncoding : ∀ entry ∈ head.headers, entry.name ≠ bytes "transfer-encoding"
  headBytes : filtered.headBytes = serializeHead head.line.method head.line.target
    (presentedFields policy localAuthority head filtered.contentLength)
  contentLength : filtered.contentLength.toList.map some =
    if bytes "content-length" ∈ connectionList head.headers then [] else declaredLengths head.headers

variable {name : List UInt8}

theorem isHidden_written (h : name ∈ [bytes "host", bytes "content-length", bytes "connection"]) :
    isHidden policy name = false := by
  have hall : ∀ name ∈ [bytes "host", bytes "content-length", bytes "connection"], isHopByHop name = false ∧
      isProxyOrForwardingMetadata name = false ∧ name ≠ bytes "from" ∧ name ≠ bytes "referer" := by decide
  obtain ⟨hhop, hmetadata, hfrom, hreferer⟩ := hall name h
  simp [isHidden, hhop, hmetadata, hfrom, hreferer]

variable {policy} {nominated : List (List UInt8)} {filtered : FilteredServerRequest} {localAuthority : List UInt8}
  {limits : HttpLimits} {head : HttpRequestHead}

theorem isHidden_of_isIdentifying (h : isIdentifying name = true) : isHidden policy name = true := by
  have hall : ∀ name ∈ [bytes "via", bytes "forwarded", bytes "x-forwarded-for",
      bytes "x-forwarded-host", bytes "x-forwarded-proto", bytes "proxy-authorization",
      bytes "from"], isProxyOrForwardingMetadata name = true ∨ name = bytes "from" := by decide
  rcases hall name (contains_iff_mem.mp h) with hmetadata | hfrom
  · simp [isHidden, hmetadata]
  · simp [isHidden, hfrom]

theorem filterDrops_of_not_hidden (h : isHidden policy name = false) (hconnection : name ≠ bytes "connection") :
    filterDrops nominated policy name = nominated.contains name := by
  have hidentifying : isIdentifying name = false := by
    cases hname : isIdentifying name with
    | false => rfl
    | true =>
      rw [isHidden_of_isIdentifying hname] at h
      cases h
  simp only [isHidden, Bool.or_eq_false_iff] at h
  obtain ⟨⟨⟨hhop, -⟩, -⟩, hreferer⟩ := h
  simp [filterDrops, hconnection, hhop, hidentifying, hreferer]

theorem passed_of_filter (haccepted : Accepted limits head)
    (h : filterServerRequestWithPolicy head localAuthority policy = .ok filtered) :
    Passed policy localAuthority head filtered := by
  unfold filterServerRequestWithPolicy at h
  simp only [ite_error_eq_ok, bind_eq_ok] at h
  obtain ⟨-, -, _, -, _, hlocal, hspoofed, hhost, -, -, hencoding, state, hloop, hduplicate, h⟩ := h
  have hunique := haccepted.host
  rw [enforceHostUniqueness] at hunique
  have hone := not_lt.mp (ite_error_eq_ok.mp hunique).1
  obtain ⟨houtput, hlengths⟩ := filterLoop_inv (by simpa using hone) hloop
  have hdeclared : (fieldValues (bytes "content-length") head.headers).map (fun value =>
      parse u64Max (Utf8.trim value)) = declaredLengths head.headers := by
    refine map_congr_left fun value hvalue => ?_
    obtain ⟨entry, hentry, rfl⟩ := mem_map.mp hvalue
    rw [(haccepted.headers entry (mem_of_mem_filter hentry)).trimmed]
  have hhead : state.contentLengths.head?.toList = state.contentLengths := by
    match hstate : state.contentLengths with
    | [] => rfl
    | [_] => rfl
    | _ :: _ :: _ =>
      rw [hstate] at hduplicate
      exact absurd (by simp) hduplicate
  have hbytes := Except.ok.inj h
  subst hbytes
  refine ⟨hlocal, ?_, by omega, by simpa using hencoding, ?_, ?_⟩
  · intro host hsome
    simpa [hsome] using hspoofed
  · rw [presentedFields]
    rw [nil_append] at houtput
    dsimp only
    split
    next hnone => simp [hnone, houtput]
    next length hsome => simp [hsome, houtput]
  · rw [hhead, hlengths, hdeclared, filterDrops_of_not_hidden (isHidden_written policy (by decide)) (by decide)]
    exact if_congr contains_iff_mem rfl rfl

theorem fieldValues_presented_ne {host : List UInt8} (hname : name ≠ bytes "host")
    (headers : List HeaderEntry) : fieldValues name (headers.map (presented host)) = fieldValues name headers := by
  induction headers with
  | nil => rfl
  | cons entry headers ih =>
    rw [map_cons, fieldValues_cons, ih, fieldValues_cons name entry headers]
    congr 1
    unfold presented
    split
    next hhost =>
      rw [fieldValues_singleton_ne (Ne.symm hname), fieldValues_singleton_ne (by rw [hhost]; exact Ne.symm hname)]
    · rfl

theorem fieldValues_presented_host (host : List UInt8) (headers : List HeaderEntry) :
    fieldValues (bytes "host") (headers.map (presented host)) =
      (fieldValues (bytes "host") headers).map fun _ => host := by
  induction headers with
  | nil => rfl
  | cons entry headers ih =>
    rw [map_cons, fieldValues_cons, ih, fieldValues_cons _ entry headers, map_append]
    congr 1
    unfold presented
    split
    next hhost => simp [fieldValues, hhost]
    next hhost => simp [fieldValues, hhost]

section Fields

variable {contentLength : Option Nat}

theorem fieldValues_kept (name : List UInt8) :
    fieldValues name (head.headers.filter (isKept (connectionList head.headers) policy)) =
      if !filterDrops (connectionList head.headers) policy name && name ≠ bytes "content-length" then
        fieldValues name head.headers
      else [] :=
  fieldValues_filter name (fun name => !filterDrops (connectionList head.headers) policy name &&
    name ≠ bytes "content-length") head.headers

theorem fieldValues_lengths (name : List UInt8) :
    fieldValues name (contentLength.toList.map fun length => ⟨bytes "content-length", render length⟩) =
      if bytes "content-length" = name then contentLength.toList.map render else [] := by
  cases contentLength with
  | none => simp [fieldValues]
  | some length =>
    split
    next h => simp [fieldValues, h]
    next h => exact fieldValues_singleton_ne h

theorem fieldValues_host (hhost : (fieldValues (bytes "host") head.headers).length = 1) :
    fieldValues (bytes "host") (presentedFields policy localAuthority head contentLength) =
      if bytes "host" ∈ connectionList head.headers then [] else [policy.spoofedHost.getD localAuthority] := by
  obtain ⟨value, hvalue⟩ := length_eq_one_iff.mp hhost
  rw [presentedFields, fieldValues_append, fieldValues_append, fieldValues_presented_host, fieldValues_kept,
    filterDrops_of_not_hidden (isHidden_written policy (by decide)) (by decide), fieldValues_lengths,
    if_neg (show bytes "content-length" ≠ bytes "host" by decide), fieldValues_singleton_ne (by decide), hvalue]
  by_cases hlisted : bytes "host" ∈ connectionList head.headers
  · simp [hlisted]
  · simp [hlisted, show bytes "host" ≠ bytes "content-length" by decide]

theorem fieldValues_connection :
    fieldValues (bytes "connection") (presentedFields policy localAuthority head contentLength) = [bytes "close"] := by
  rw [presentedFields, fieldValues_append, fieldValues_append, fieldValues_presented_ne (by decide), fieldValues_kept,
    if_neg (by simp [filterDrops]), fieldValues_lengths, if_neg (by decide)]
  rfl

theorem fieldValues_contentLength :
    fieldValues (bytes "content-length") (presentedFields policy localAuthority head contentLength) =
      contentLength.toList.map render := by
  rw [presentedFields, fieldValues_append, fieldValues_append, fieldValues_presented_ne (by decide), fieldValues_kept,
    if_neg (by simp), fieldValues_lengths, if_pos rfl, fieldValues_singleton_ne (by decide), nil_append,
    append_nil]

theorem isKept_iff {entry : HeaderEntry} : isKept (connectionList head.headers) policy entry = true ↔
      entry.name ≠ bytes "connection" ∧ entry.name ∉ connectionList head.headers ∧ isHopByHop entry.name = false ∧
      isIdentifying entry.name = false ∧ (policy.blockReferers && entry.name = bytes "referer") = false ∧
      entry.name ≠ bytes "content-length" := by
  simp only [isKept, filterDrops, Bool.and_eq_true, Bool.not_eq_true', Bool.or_eq_false_iff, decide_eq_true_eq,
    decide_eq_false_iff_not, and_assoc, contains_eq_mem, ne_eq]

theorem isOther_iff : isOther policy name = true ↔ name ≠ bytes "host" ∧
    name ≠ bytes "connection" ∧ name ≠ bytes "content-length" ∧ isHidden policy name = false := by
  simp only [isOther, Bool.not_eq_true', Bool.or_eq_false_iff, decide_eq_false_iff_not, and_assoc]

theorem filter_isOther_presentedFields :
    (presentedFields policy localAuthority head contentLength).filter (fun entry => isOther policy entry.name) =
      passedOn policy head := by
  have hname : ((fun entry => isOther policy entry.name) ∘ presented (policy.spoofedHost.getD localAuthority)) =
      fun entry : HeaderEntry => isOther policy entry.name := by
    funext entry
    exact congrArg (isOther policy) (presented_name _ entry)
  have hkept : (head.headers.filter (isKept (connectionList head.headers) policy)).filter
      (fun entry => isOther policy entry.name) = passedOn policy head := by
    rw [filter_filter, passedOn]
    refine filter_congr fun entry _ => ?_
    cases hother : isOther policy entry.name with
    | false => rfl
    | true =>
      obtain ⟨-, hconnection, hlength, hhidden⟩ := isOther_iff.mp hother
      simp [isKept, filterDrops_of_not_hidden hhidden hconnection, hlength]
  have hid : (passedOn policy head).map (presented (policy.spoofedHost.getD localAuthority)) = passedOn policy head := by
    refine (map_congr_left fun entry hentry => ?_).trans (map_id _)
    have hother := (Bool.and_eq_true_iff.mp (mem_filter.mp hentry).2).1
    exact if_neg (isOther_iff.mp hother).1
  rw [presentedFields, filter_append, filter_append, filter_map, hname, hkept, hid]
  have hlengths : (contentLength.toList.map fun length => (⟨bytes "content-length", render length⟩ :
      HeaderEntry)).filter (fun entry => isOther policy entry.name) = [] := by
    rw [filter_eq_nil_iff]
    intro entry hentry
    obtain ⟨length, -, rfl⟩ := mem_map.mp hentry
    simp [isOther]
  rw [hlengths, append_nil, filter_cons_of_neg (by simp [isOther]), filter_nil, append_nil]

theorem mem_presentedFields {entry : HeaderEntry} : entry ∈ presentedFields policy localAuthority head contentLength ↔
      (∃ original ∈ head.headers, isKept (connectionList head.headers) policy original = true ∧
        entry = presented (policy.spoofedHost.getD localAuthority) original) ∨
      (∃ length, contentLength = some length ∧ entry = ⟨bytes "content-length", render length⟩) ∨
      entry = ⟨bytes "connection", bytes "close"⟩ := by
  simp only [presentedFields, mem_append, mem_map, mem_filter, Option.mem_toList, mem_singleton,
    or_assoc, and_assoc]
  simp only [eq_comm (b := entry)]

theorem forall_presentedFields {P : HeaderEntry → Prop}
    (hkept : ∀ entry ∈ head.headers, isKept (connectionList head.headers) policy entry = true →
      P (presented (policy.spoofedHost.getD localAuthority) entry))
    (hlength : ∀ length, contentLength = some length → P ⟨bytes "content-length", render length⟩)
    (hclose : P ⟨bytes "connection", bytes "close"⟩) :
    ∀ entry ∈ presentedFields policy localAuthority head contentLength, P entry := by
  intro entry hentry
  rcases mem_presentedFields.mp hentry with ⟨original, horiginal, hstays, rfl⟩ | ⟨length, hsome, rfl⟩ | rfl
  · exact hkept original horiginal hstays
  · exact hlength length hsome
  · exact hclose

end Fields

section Host

theorem isAlphanumeric_visible {byte : UInt8} (h : Ascii.isAlphanumeric byte = true) : 32 < byte ∧ byte ≠ 0x7f := by
  simp only [Ascii.isAlphanumeric, Ascii.isUpper, Ascii.isLower, Ascii.isDigit, Bool.or_eq_true, Bool.and_eq_true,
    decide_eq_true_eq] at h
  rcases h with (h | h) | h
  all_goals
    refine ⟨UInt8.lt_of_lt_of_le (by decide) h.1, ?_⟩
    rintro rfl
    exact absurd h.2 (by decide)

theorem clean_of_visible {value : List UInt8} (h : ∀ byte ∈ value, 32 < byte ∧ byte ≠ 0x7f) :
    value.any isControl = false := by
  rw [any_eq_false]
  intro byte hbyte hcontrol
  obtain ⟨hspace, hdelete⟩ := h byte hbyte
  simp only [isControl, Bool.or_eq_true, beq_iff_eq, Bool.and_eq_true, decide_eq_true_eq] at hcontrol
  rcases hcontrol with (rfl | hlow) | hlast
  · exact absurd hspace (by decide)
  · exact UInt8.lt_irrefl _ (UInt8.lt_trans hspace hlow.1)
  · exact hdelete hlast

theorem validSpoofedHost_bytes {host : List UInt8} (h : validSpoofedHost host = true) :
    host ≠ [] ∧ ∀ byte ∈ host, (32 < byte ∧ byte ≠ 0x7f) ∧ byte < 128 := by
  simp only [validSpoofedHost, Bool.and_eq_true, Bool.not_eq_true', Bool.or_eq_false_iff, all_eq_true] at h
  obtain ⟨⟨⟨hempty, -⟩, -⟩, hlabels⟩ := h
  refine ⟨isEmpty_eq_false_iff.mp hempty, fun byte hbyte => ?_⟩
  rcases Lines.mem_splitOn 46 hbyte with rfl | ⟨label, hlabel, hbyte⟩
  · decide
  · have hvalid := hlabels label hlabel
    simp only [validHostLabel, Bool.and_eq_true, all_eq_true, Bool.or_eq_true] at hvalid
    rcases hvalid.2 byte hbyte with halphanumeric | hhyphen
    · exact ⟨isAlphanumeric_visible halphanumeric, Ascii.isAlphanumeric_lt halphanumeric⟩
    · rw [eq_of_beq hhyphen]
      decide

theorem validateLocalAuthority_bytes (h : validateLocalAuthority localAuthority = .ok ()) :
    localAuthority ≠ [] ∧ ∀ byte ∈ localAuthority, 32 < byte ∧ byte ≠ 0x7f := by
  unfold validateLocalAuthority at h
  obtain ⟨hempty, h⟩ := ite_error_eq_ok.mp h
  obtain ⟨hcontrol, -⟩ := ite_error_eq_ok.mp h
  refine ⟨fun hnil => hempty (.inl (by simp [hnil])), fun byte hbyte => ?_⟩
  have hvisible : (byte ≤ 0x20 || byte == 0x7f) = false := by
    rw [Bool.not_eq_true, any_eq_false] at hcontrol
    exact Bool.not_eq_true _ ▸ hcontrol byte hbyte
  simpa [UInt8.not_le] using hvisible

theorem tidy_contentLength (length : Nat) : Tidy ⟨bytes "content-length", render length⟩ :=
  Tidy.of_graphic goodName_written.2.2.1 fun _ hbyte => graphic_of_isDigit (isDigit_of_mem_render hbyte)

variable (h : Passed policy localAuthority head filtered)
include h

theorem Passed.host_bytes : policy.spoofedHost.getD localAuthority ≠ [] ∧
      ∀ byte ∈ policy.spoofedHost.getD localAuthority, 32 < byte ∧ byte ≠ 0x7f := by
  cases hspoofed : policy.spoofedHost with
  | none => exact validateLocalAuthority_bytes h.authority
  | some host =>
    obtain ⟨hne, hbytes⟩ := validSpoofedHost_bytes (h.spoofedHost host hspoofed)
    exact ⟨hne, fun byte hbyte => (hbytes byte hbyte).1⟩

variable (hvalid : Utf8.valid localAuthority = true)
include hvalid

theorem Passed.host_valid : Utf8.valid (policy.spoofedHost.getD localAuthority) = true := by
  cases hspoofed : policy.spoofedHost with
  | none => exact hvalid
  | some host =>
    obtain ⟨-, hbytes⟩ := validSpoofedHost_bytes (h.spoofedHost host hspoofed)
    exact Utf8.valid_of_ascii fun byte hbyte => (hbytes byte hbyte).2

theorem Passed.writable_host : Writable ⟨bytes "host", policy.spoofedHost.getD localAuthority⟩ := by
  have hbytes := h.host_bytes.2
  refine ⟨goodName_written.1, h.host_valid hvalid, fun hmem => ?_, fun hmem => ?_⟩
  · exact absurd (hbytes 13 hmem).1 (by decide)
  · exact absurd (hbytes 10 hmem).1 (by decide)

variable (hheaders : ∀ entry ∈ head.headers, Tidy entry)
include hheaders

theorem Passed.writable_fields {contentLength : Option Nat} :
    ∀ entry ∈ presentedFields policy localAuthority head contentLength, Writable entry := by
  refine forall_presentedFields (fun original horiginal _ => ?_) (fun length _ => (tidy_contentLength length).writable)
    tidy_close.writable
  unfold presented
  split
  · exact h.writable_host hvalid
  · exact (hheaders original horiginal).writable

/-- With a host that has no white space at its ends, all fields are read back as they are. -/
theorem Passed.map_trimmed_fields
    (htrimmed : Utf8.trim (policy.spoofedHost.getD localAuthority) = policy.spoofedHost.getD localAuthority)
    {contentLength : Option Nat} : (presentedFields policy localAuthority head contentLength).map HeaderEntry.trimmed =
      presentedFields policy localAuthority head contentLength := by
  refine map_trimmed fun entry hentry => ⟨h.writable_fields hvalid hheaders entry hentry, ?_⟩
  refine forall_presentedFields (P := fun entry => Utf8.trim entry.value = entry.value)
    (fun original horiginal _ => ?_) (fun length _ => (tidy_contentLength length).trimmed) tidy_close.trimmed entry hentry
  unfold presented
  split
  · exact htrimmed
  · exact (hheaders original horiginal).trimmed

end Host

theorem Accepted.tidy (h : Accepted limits head) : ∀ entry ∈ head.headers, Tidy entry :=
  fun entry hentry => (h.headers entry hentry).tidy

theorem fieldValues_trimmed (name : List UInt8) (headers : List HeaderEntry) :
    fieldValues name (headers.map HeaderEntry.trimmed) = (fieldValues name headers).map Utf8.trim := by
  rw [fieldValues, filter_map, map_map, fieldValues, map_map]
  rfl

section Presentation

theorem isHidden_of_isKept {entry : HeaderEntry} (hkept : isKept (connectionList head.headers) policy entry = true)
    (hmetadata : isProxyOrForwardingMetadata entry.name = true →
      isIdentifying entry.name = true ∨ entry.name ∈ connectionList head.headers) :
    isHidden policy entry.name = false := by
  obtain ⟨-, hlisted, hhop, hidentifying, hreferer, -⟩ := isKept_iff.mp hkept
  have hnot : isProxyOrForwardingMetadata entry.name = false :=
    Bool.eq_false_iff.mpr fun h => (hmetadata h).elim (Bool.eq_false_iff.mp hidentifying) hlisted
  have hfrom : entry.name ≠ bytes "from" := by
    intro h
    rw [h] at hidentifying
    exact absurd hidentifying (by decide)
  simp [isHidden, hhop, hnot, hfrom, hreferer]

theorem isKept_of_metadata {entry : HeaderEntry} (hmetadata : isProxyOrForwardingMetadata entry.name = true)
    (hidentifying : isIdentifying entry.name = false) (hlisted : entry.name ∉ connectionList head.headers) :
    isKept (connectionList head.headers) policy entry = true := by
  have hnot : ∀ name, isProxyOrForwardingMetadata name = false → entry.name ≠ name := by
    rintro name hname rfl
    rw [hname] at hmetadata
    cases hmetadata
  have hhop : isHopByHop entry.name = false := by
    have hall : ∀ name ∈ [bytes "proxy-connection", bytes "keep-alive", bytes "te",
        bytes "trailer", bytes "upgrade", bytes "transfer-encoding"],
        isProxyOrForwardingMetadata name = false := by decide
    exact Bool.eq_false_iff.mpr fun h => hnot _ (hall _ (contains_iff_mem.mp h)) rfl
  have hreferer := hnot (bytes "referer") (by decide)
  exact isKept_iff.mpr ⟨hnot _ (by decide), hlisted, hhop, hidentifying, by simp [hreferer], hnot _ (by decide)⟩

theorem hidden_iff {contentLength : Option Nat} :
    (∀ entry ∈ presentedFields policy localAuthority head contentLength, isHidden policy entry.name = false) ↔
      ∀ entry ∈ head.headers, isProxyOrForwardingMetadata entry.name = true →
        isIdentifying entry.name = true ∨ entry.name ∈ connectionList head.headers := by
  constructor
  · intro h entry hentry hmetadata
    by_contra hnot
    rw [not_or, Bool.not_eq_true] at hnot
    have hkept : isKept (connectionList head.headers) policy entry = true := isKept_of_metadata hmetadata hnot.1 hnot.2
    have hhidden := h _ (mem_presentedFields.mpr (.inl ⟨entry, hentry, hkept, rfl⟩))
    rw [presented_name] at hhidden
    simp [isHidden, hmetadata] at hhidden
  · refine fun h => forall_presentedFields (fun original horiginal hkept => ?_)
      (fun _ _ => isHidden_written policy (.tail _ (.head _))) (isHidden_written policy (by decide))
    rw [presented_name]
    exact isHidden_of_isKept hkept (h original horiginal)

theorem length_renderLine (entry : HeaderEntry) :
    (renderLine entry).length = entry.name.length + entry.value.length + 2 := by
  simp [renderLine]
  omega

theorem length_hostLine (value : List UInt8) : (renderLine ⟨bytes "host", value⟩).length = value.length + 6 := by
  have hname : (bytes "host").length = 4 := by decide
  simp [length_renderLine, hname, Nat.add_comm 4]

theorem length_lengthLine (value : List UInt8) :
    (renderLine ⟨bytes "content-length", value⟩).length = value.length + 16 := by
  have hname : (bytes "content-length").length = 14 := by decide
  simp [length_renderLine, hname, Nat.add_comm 14]

theorem sum_fieldValues_cons (name : List UInt8) (size : Nat) (entry : HeaderEntry) (l : List HeaderEntry) :
    ((fieldValues name (entry :: l)).map fun value => value.length + size).sum =
      (if entry.name = name then entry.value.length + size else 0) +
        ((fieldValues name l).map fun value => value.length + size).sum := by
  by_cases h : entry.name = name
  · simp [fieldValues, h]
  · simp [fieldValues, h]

theorem sum_fields {l : List HeaderEntry} (hhidden : ∀ entry ∈ l, isHidden policy entry.name = false) :
    (l.map fun entry => (renderLine entry).length + 2).sum =
      ((l.filter fun entry => isOther policy entry.name).map fun entry => (renderLine entry).length + 2).sum +
      ((fieldValues (bytes "host") l).map fun value => value.length + 8).sum +
      ((fieldValues (bytes "content-length") l).map fun value => value.length + 18).sum +
      ((fieldValues (bytes "connection") l).map fun value => value.length + 14).sum := by
  induction l with
  | nil => rfl
  | cons entry l ih =>
    have hmore := ih fun entry hentry => hhidden entry (mem_cons_of_mem _ hentry)
    have hentry := hhidden entry mem_cons_self
    have hhostLength : (bytes "host").length = 4 := by decide
    have hlengthLength : (bytes "content-length").length = 14 := by decide
    have hconnectionLength : (bytes "connection").length = 10 := by decide
    rw [map_cons, sum_cons, hmore, sum_fieldValues_cons, sum_fieldValues_cons, sum_fieldValues_cons]
    -- a field that is not one of the others has one of the three names
    cases hother : isOther policy entry.name with
    | true =>
      rw [filter_cons, if_pos hother, map_cons, sum_cons]
      obtain ⟨hhost, hconnection, hlength, -⟩ := isOther_iff.mp hother
      rw [if_neg hhost, if_neg hlength, if_neg hconnection]
      omega
    | false =>
      rw [filter_cons, if_neg (by simp [hother]), length_renderLine]
      simp only [isOther, hentry, Bool.or_false, Bool.not_eq_false', Bool.or_eq_true, decide_eq_true_eq] at hother
      rcases hother with (hname | hname) | hname
      · rw [hname, if_pos rfl, if_neg (by decide), if_neg (by decide)]
        omega
      · rw [hname, if_neg (by decide), if_neg (by decide), if_pos rfl]
        omega
      · rw [hname, if_neg (by decide), if_pos rfl, if_neg (by decide)]
        omega

theorem length_serializeHead (method target : List UInt8) (entries : List HeaderEntry) :
    (serializeHead method target entries).length = (requestLine method target).length + 2 +
      (entries.map fun entry => (renderLine entry).length + 2).sum + 2 := by
  simp [serializeHead, Lines.crlf, length_flatMap]
  omega

variable (h : Passed policy localAuthority head filtered)

abbrev Passed.fields (_ : Passed policy localAuthority head filtered) : List HeaderEntry :=
  presentedFields policy localAuthority head filtered.contentLength

/-- The limits under which the local server reads what is written. -/
abbrev readLimits (limits : HttpLimits) (head : HttpRequestHead) : HttpLimits :=
  { limits with headerCountMax := head.headers.length + 1 }

include h

theorem Passed.parse_length {length : Nat} (hlength : filtered.contentLength = some length) :
    ∃ value ∈ fieldValues (bytes "content-length") head.headers, parse u64Max value = some length := by
  have hcontent := h.contentLength
  rw [hlength] at hcontent
  split at hcontent
  · cases hcontent
  have hmem : some length ∈ declaredLengths head.headers := by
    rw [← hcontent]
    exact mem_singleton_self _
  obtain ⟨value, hvalue, hparse⟩ := mem_map.mp hmem
  exact ⟨value, hvalue, hparse⟩

theorem declaredLengths_presentedFields : declaredLengths h.fields =
      filtered.contentLength.toList.map some := by
  rw [declaredLengths, fieldValues_contentLength, map_map]
  refine map_congr_left fun length hlength => ?_
  obtain ⟨value, -, hparse⟩ := h.parse_length (Option.mem_toList.mp hlength)
  exact parse_render (le_of_parse hparse)

theorem length_presented (hhost : bytes "host" ∉ connectionList head.headers)
    (hreported : filtered.contentLength.toList.map some = declaredLengths head.headers) (hhidden : ∀ entry ∈ h.fields,
      isHidden policy entry.name = false) :
    (serializeHead head.line.method head.line.target
      h.fields).length =
        presentedSize policy localAuthority head := by
  have hreduce : (declaredLengths head.headers).reduceOption = filtered.contentLength.toList := by
    rw [← hreported]
    simp [reduceOption]
  rw [length_serializeHead, sum_fields hhidden, filter_isOther_presentedFields, fieldValues_host h.host,
    fieldValues_contentLength, fieldValues_connection, if_neg hhost, presentedSize, hreduce]
  have hclose : (bytes "close").length = 5 := by decide
  simp only [map_cons, map_nil, sum_cons, sum_nil, map_map, hclose, Function.comp_def]
  omega

theorem length_presentedFields_le : h.fields.length ≤ head.headers.length + 1 := by
  have hkept : (head.headers.filter (isKept (connectionList head.headers) policy)).length ≤
      (head.headers.filter fun entry => !decide (entry.name = bytes "content-length")).length := by
    refine (monotone_filter_right head.headers fun entry hentry => ?_).length_le
    simp only [isKept, Bool.and_eq_true] at hentry
    simpa using hentry.2
  have hlengths : filtered.contentLength.toList.length ≤
      (fieldValues (bytes "content-length") head.headers).length := by
    have hcontent := congrArg length h.contentLength
    rw [length_map] at hcontent
    rw [hcontent]
    split
    · exact Nat.zero_le _
    · simp [declaredLengths]
  have hsplit := length_eq_length_filter_add (l := head.headers) fun entry =>
    decide (entry.name = bytes "content-length")
  simp only [fieldValues, length_map] at hlengths
  simp only [presentedFields, length_append, length_map, length_singleton]
  omega

theorem hostUniqueness_presented : enforceHostUniqueness h.fields = .ok () := by
  rw [enforceHostUniqueness, fieldValues_host h.host]
  refine ite_error_eq_ok.mpr ⟨?_, rfl⟩
  split
  · decide
  · simp

theorem reported_iff : filtered.contentLength.toList.map some = declaredLengths head.headers ↔
      fieldValues (bytes "content-length") head.headers = [] ∨
        bytes "content-length" ∉ connectionList head.headers := by
  rw [h.contentLength]
  split
  next hlisted =>
    rw [declaredLengths, eq_comm, map_eq_nil_iff]
    exact ⟨.inl, fun h => h.resolve_right (not_not.mpr hlisted)⟩
  next hlisted => exact iff_of_true rfl (.inr hlisted)

variable (haccepted : Accepted limits head)
include haccepted

theorem noSmuggling_presented : enforceNoSmuggling h.fields head.line.method = .ok () := by
  have hencoding : h.fields.any (fun entry => entry.name = bytes "transfer-encoding") = false := by
    simp only [any_eq_false, decide_eq_true_eq]
    refine forall_presentedFields (fun original horiginal _ => ?_)
      (fun _ _ => show bytes "content-length" ≠ bytes "transfer-encoding" by decide)
      (show bytes "connection" ≠ bytes "transfer-encoding" by decide)
    rw [presented_name]
    exact h.transferEncoding original horiginal
  have hsmuggling := haccepted.smuggling
  rw [enforceNoSmuggling] at hsmuggling ⊢
  obtain ⟨-, hsmuggling⟩ := ite_error_eq_ok.mp hsmuggling
  obtain ⟨-, hsmuggling⟩ := ite_error_eq_ok.mp hsmuggling
  obtain ⟨hbodyless, -⟩ := ite_error_eq_ok.mp hsmuggling
  rw [fieldValues_contentLength, hencoding]
  refine ite_error_eq_ok.mpr ⟨?_, ite_error_eq_ok.mpr ⟨by simp, ite_error_eq_ok.mpr
    ⟨?_, rfl⟩⟩⟩
  · cases filtered.contentLength with
    | none | some length => simp
  · rintro ⟨hmethod, hlength⟩
    refine hbodyless ⟨hmethod, ?_⟩
    cases hcontent : filtered.contentLength with
    | none =>
      rw [hcontent] at hlength
      cases hlength
    | some length =>
      obtain ⟨value, hvalue, -⟩ := h.parse_length hcontent
      have hne : (fieldValues (bytes "content-length") head.headers).isEmpty = false :=
        isEmpty_eq_false_iff.mpr (ne_nil_of_mem hvalue)
      simp [hne]

theorem fits_presented (hpresentable : Presentable limits policy localAuthority head) : ∀ entry ∈ h.fields,
      Fits (readLimits limits head) entry := by
  intro entry hentry
  rcases mem_presentedFields.mp hentry with ⟨original, horiginal, hkept, rfl⟩ | ⟨length, hlength, rfl⟩ | rfl
  · have hreceived := haccepted.headers original horiginal
    by_cases hhost : original.name = bytes "host"
    · have hname := hreceived.name
      rw [hhost] at hname
      rw [presented, if_pos hhost]
      have hbytes := h.host_bytes
      exact ⟨(length_hostLine _).le.trans hpresentable.hostField.2, hname,
        hpresentable.trimmed.symm ▸ hpresentable.hostField.1, hpresentable.trimmed.symm ▸ hbytes.1,
        hpresentable.trimmed.symm ▸ clean_of_visible hbytes.2⟩
    · have hhidden := isHidden_of_isKept hkept (hpresentable.metadata original horiginal)
      have hpassed : original ∈ passedOn policy head := by
        obtain ⟨hconnection, hlisted, -, -, -, hlength⟩ := isKept_iff.mp hkept
        refine mem_filter.mpr ⟨horiginal, ?_⟩
        simp [isOther_iff.mpr ⟨hhost, hconnection, hlength, hhidden⟩, hlisted]
      rw [presented, if_neg hhost]
      exact ⟨hpresentable.otherFields original hpassed, hreceived.name, hreceived.trimmed.symm ▸ hreceived.value,
        hreceived.trimmed.symm ▸ hreceived.nonempty, hreceived.trimmed.symm ▸ hreceived.clean⟩
  · obtain ⟨value, hvalue, hparse⟩ := h.parse_length hlength
    obtain ⟨original, horiginal, rfl⟩ := mem_map.mp hvalue
    obtain ⟨horiginal, hname⟩ := mem_filter.mp horiginal
    have hreceived := haccepted.headers original horiginal
    have hlengthName := hreceived.name
    rw [of_decide_eq_true hname] at hlengthName
    have hmem : some length ∈ declaredLengths head.headers := mem_map.mpr ⟨_, hvalue, hparse⟩
    have hclean : (render length).any isControl = false := by
      refine clean_of_visible fun byte hbyte => isAlphanumeric_visible ?_
      simp [Ascii.isAlphanumeric, isDigit_of_mem_render hbyte]
    have htrimmed := (tidy_contentLength length).trimmed.symm
    exact ⟨(length_lengthLine _).le.trans (hpresentable.lengthField length hmem), hlengthName,
      htrimmed ▸ (length_render_le hparse).trans hreceived.value, htrimmed ▸ render_ne_nil length,
      htrimmed ▸ hclean⟩
  · obtain ⟨hname, hvalue, hline⟩ := hpresentable.connectionField
    exact ⟨hline, hname, tidy_close.trimmed.symm ▸ hvalue, by decide, by decide⟩

variable (hvalid : Utf8.valid localAuthority = true)
include hvalid

theorem parse_presented {parsed : HttpRequestHead}
    (hparsed : parseRequestHead filtered.headBytes (readLimits limits head) =
      .ok parsed) :
    filtered.headBytes.length ≤ limits.retainedBufferMaxBytes ∧
      (∀ entry ∈ h.fields,
        Fits (readLimits limits head) entry) ∧
      parsed = ⟨head.line, h.fields.map
        HeaderEntry.trimmed, []⟩ := by
  rw [h.headBytes] at hparsed ⊢
  obtain ⟨hsize, -, hfits, -, -, hparsed⟩ := (parseRequestHead_serializeHead (by exact haccepted.line) haccepted.valid
    (h.writable_fields hvalid haccepted.tidy)).mp hparsed
  exact ⟨hsize, hfits, hparsed⟩

theorem presented_parse
    (htrimmed : Utf8.trim (policy.spoofedHost.getD localAuthority) = policy.spoofedHost.getD localAuthority)
    (hsize : filtered.headBytes.length ≤ limits.retainedBufferMaxBytes) (hfits : ∀ entry ∈ h.fields,
      Fits (readLimits limits head) entry) :
    parseRequestHead filtered.headBytes (readLimits limits head) =
      .ok ⟨head.line, h.fields, []⟩ := by
  have hfields : h.fields.map HeaderEntry.trimmed = h.fields := h.map_trimmed_fields hvalid haccepted.tidy htrimmed
  rw [h.headBytes] at hsize ⊢
  refine (parseRequestHead_serializeHead (by exact haccepted.line) haccepted.valid (h.writable_fields hvalid haccepted.tidy)).mpr ?_
  rw [hfields]
  exact ⟨hsize, fun _ => length_presentedFields_le h, hfits, noSmuggling_presented h haccepted,
    hostUniqueness_presented h, rfl⟩

end Presentation

/-- The head that the local server gets cannot be spoofed exactly where neither the host nor a length is listed in a
`Connection` field, no forwarding metadata is let through, and the parts that the filter writes fit. -/
theorem spoofProof_iff {buffer : List UInt8} {limits : HttpLimits} {head : HttpRequestHead}
    {policy : HttpServerPolicy} {localAuthority : List UInt8} {filtered : FilteredServerRequest}
    (hhead : parseRequestHead buffer limits = .ok head) (hvalid : Utf8.valid localAuthority = true)
    (hfilter : filterServerRequestWithPolicy head localAuthority policy = .ok filtered) :
    SpoofProof limits policy localAuthority head filtered ↔ Presentable limits policy localAuthority head := by
  have haccepted := accepted_of_parseRequestHead hhead
  have hpassed := passed_of_filter haccepted hfilter
  constructor
  · rintro ⟨parsed, hparsed, hpresents⟩
    obtain ⟨hsize, hfits, rfl⟩ := parse_presented hpassed haccepted hvalid hparsed
    -- the host first: with it the fields are read back as they were written
    have hhost := hpresents.host
    dsimp only at hhost
    rw [fieldValues_trimmed, fieldValues_host hpassed.host] at hhost
    have hlisted : bytes "host" ∉ connectionList head.headers := by
      intro hlisted
      rw [if_pos hlisted] at hhost
      cases hhost
    rw [if_neg hlisted] at hhost
    have htrimmed := (cons.inj hhost).1
    rw [hpassed.map_trimmed_fields hvalid haccepted.tidy htrimmed] at hpresents
    have hhidden := hpresents.hidden
    have hhostMem : (⟨bytes "host", policy.spoofedHost.getD localAuthority⟩ : HeaderEntry) ∈ hpassed.fields := by
      have hvalue : policy.spoofedHost.getD localAuthority ∈ fieldValues (bytes "host") hpassed.fields := by
        rw [hpresents.host]
        exact mem_singleton_self _
      obtain ⟨entry, hentry, hvalue⟩ := mem_map.mp hvalue
      obtain ⟨hentry, hname⟩ := mem_filter.mp hentry
      rw [← hvalue, ← of_decide_eq_true hname]
      exact hentry
    have hhostFits := hfits _ hhostMem
    have hcloseFits := hfits _ (mem_presentedFields.mpr (.inr (.inr rfl)))
    refine ⟨hlisted, (reported_iff hpassed).mp hpresents.reported, hidden_iff.mp hhidden, htrimmed,
      fun entry hentry => ?_, ⟨?_, ?_⟩, fun length hlength => ?_, ⟨hcloseFits.name, ?_, hcloseFits.line⟩, ?_⟩
    · rw [← hpresents.others] at hentry
      exact (hfits entry (mem_of_mem_filter hentry)).line
    · have hvalue := hhostFits.value
      rwa [htrimmed] at hvalue
    · exact (length_hostLine _).ge.trans hhostFits.line
    · rw [← hpresents.reported] at hlength
      obtain ⟨reported, hreported, hsome⟩ := mem_map.mp hlength
      cases hsome
      have hfit := hfits _ (mem_presentedFields.mpr (.inr (.inl ⟨length, Option.mem_toList.mp hreported, rfl⟩)))
      exact (length_lengthLine _).ge.trans hfit.line
    · have hvalue := hcloseFits.value
      rwa [tidy_close.trimmed] at hvalue
    · rw [hpassed.headBytes, length_presented hpassed hlisted hpresents.reported hhidden] at hsize
      exact hsize
  · intro hpresentable
    have hreported := (reported_iff hpassed).mpr hpresentable.contentLength
    have hhidden : ∀ entry ∈ hpassed.fields, isHidden policy entry.name = false := hidden_iff.mpr hpresentable.metadata
    have hsize : filtered.headBytes.length ≤ limits.retainedBufferMaxBytes := by
      rw [hpassed.headBytes, length_presented hpassed hpresentable.host hreported hhidden]
      exact hpresentable.size
    refine ⟨_, presented_parse hpassed haccepted hvalid hpresentable.trimmed hsize
      (fits_presented hpassed haccepted hpresentable), rfl, rfl, ?_, fieldValues_connection, hhidden, ?_, hreported,
      filter_isOther_presentedFields⟩
    · rw [fieldValues_host hpassed.host, if_neg hpresentable.host]
    · rw [declaredLengths_presentedFields hpassed, hreported]

def sampleGet (fields : List HeaderEntry) : HttpRequestHead where
  line := ⟨bytes "GET", bytes "/", bytes "HTTP/1.1"⟩
  headers := ⟨bytes "host", bytes "a.i2p"⟩ :: fields
  initialBodyBytes := []

def sampleAuthority : List UInt8 := bytes "127.0.0.1:80"

theorem spoofProof_iff_sample :
    ∃ filtered, filterServerRequestWithPolicy (sampleGet [⟨bytes "via", bytes "x"⟩]) sampleAuthority
        .default = .ok filtered ∧
      SpoofProof .defaults .default sampleAuthority (sampleGet [⟨bytes "via", bytes "x"⟩]) filtered := by
  have hhead : parseRequestHead (bytes "GET / HTTP/1.1\r\nHost: a.i2p\r\nVia: x\r\n\r\n") .defaults =
      .ok (sampleGet [⟨bytes "via", bytes "x"⟩]) := rfl
  refine ⟨_, rfl, (spoofProof_iff hhead (by decide) rfl).mpr ⟨?_, .inl ?_, ?_, ?_, ?_, ?_, nofun, ?_, ?_⟩⟩
  all_goals decide +kernel

theorem SpoofProof.presents {parsed : HttpRequestHead}
    (h : SpoofProof limits policy localAuthority head filtered)
    (hparsed : parseRequestHead filtered.headBytes { limits with headerCountMax := head.headers.length + 1 } =
      .ok parsed) : Presents policy localAuthority head filtered.contentLength parsed := by
  obtain ⟨other, hother, hpresents⟩ := h
  cases hparsed.symm.trans hother
  exact hpresents

/-- A request that lists its host, which is then dropped; one that lists its length; and one with the forwarding
metadata that the server profile does not know. -/
theorem not_spoofProof_requests : (∃ head filtered, parseRequestHead
        (bytes "GET / HTTP/1.1\r\nHost: a.i2p\r\nConnection: host\r\n\r\n") .defaults = .ok head ∧
      filterServerRequestWithPolicy head sampleAuthority .default = .ok filtered ∧
      ¬ SpoofProof .defaults .default sampleAuthority head filtered) ∧
    (∃ head filtered, parseRequestHead
        (bytes "POST / HTTP/1.1\r\nHost: a.i2p\r\nConnection: content-length\r\nContent-Length: 2\r\n\r\nok")
        .defaults = .ok head ∧
      filterServerRequestWithPolicy head sampleAuthority .default = .ok filtered ∧
      ¬ SpoofProof .defaults .default sampleAuthority head filtered) ∧
    ∃ head filtered, parseRequestHead
        (bytes "GET / HTTP/1.1\r\nHost: a.i2p\r\nX-Real-IP: 10.0.0.1\r\n\r\n") .defaults = .ok head ∧
      filterServerRequestWithPolicy head sampleAuthority .default = .ok filtered ∧
      ¬ SpoofProof .defaults .default sampleAuthority head filtered := by
  refine ⟨⟨_, _, rfl, rfl, fun h => ?_⟩, ⟨_, _, rfl, rfl, fun h => ?_⟩, ⟨_, _, rfl, rfl, fun h => ?_⟩⟩
  · exact absurd (h.presents rfl).host (by decide +kernel)
  · obtain ⟨parsed, -, hpresents⟩ := h
    exact absurd hpresents.reported (by decide +kernel)
  · exact absurd ((h.presents rfl).hidden ⟨bytes "x-real-ip", bytes "10.0.0.1"⟩ (by decide +kernel)) (by decide +kernel)

end I2pr.Http

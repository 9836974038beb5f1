import I2pr.HttpTarget

namespace I2pr.Http

open List

open Ascii (bytes)

inductive UserAgentPolicy where
  | keep
  | strip
  | replaceStable
deriving DecidableEq, Repr

structure PrivacyPolicy where
  userAgent : UserAgentPolicy
  stripReferer : Bool
  stripFrom : Bool
  allowAccept : Bool

def PrivacyPolicy.default : PrivacyPolicy := ⟨.replaceStable, true, true, true⟩

def defaultUserAgentValue : List UInt8 := bytes "MYOB/6.66 (AN/ON)"

def connectionList (headers : List HeaderEntry) : List (List UInt8) :=
  (fieldValues (bytes "connection") headers).flatMap fun value =>
    ((value.splitOn 44).map Utf8.trim).filterMap fun token =>
      if token.isEmpty then none else some (token.map Ascii.lower)

variable (name : List UInt8)

def isHopByHop : Bool :=
  [bytes "proxy-connection", bytes "keep-alive", bytes "te", bytes "trailer",
    bytes "upgrade", bytes "transfer-encoding"].contains name

def isProxyOrForwardingMetadata : Bool :=
  [bytes "via", bytes "forwarded", bytes "proxy-authorization", bytes "proxy-authenticate",
    bytes "x-real-ip", bytes "x-client-ip"].contains name || (bytes "x-forwarded-").isPrefixOf name

variable (nominated : List (List UInt8))

def rewriteDrops (privacy : PrivacyPolicy) (name : List UInt8) : Bool :=
  name = bytes "connection" || nominated.contains name || isHopByHop name || isProxyOrForwardingMetadata name ||
    (name = bytes "accept" && !privacy.allowAccept) || (name = bytes "referer" && privacy.stripReferer) ||
    (name = bytes "from" && privacy.stripFrom) ||
    (name = bytes "user-agent" && privacy.userAgent = .strip)

def rewriteLoop (nominated : List (List UInt8)) (privacy : PrivacyPolicy) (authority : List UInt8) :
    List HeaderEntry → List HeaderEntry × Bool → List HeaderEntry × Bool
  | [], state => state
  | entry :: headers, (output, hostInserted) =>
    rewriteLoop nominated privacy authority headers <|
      if rewriteDrops nominated privacy entry.name then (output, hostInserted)
      else if entry.name = bytes "host" then
        if hostInserted then (output, hostInserted) else (output ++ [⟨bytes "host", authority⟩], true)
      else (output ++ [entry], hostInserted)

def rewriteUserAgent (policy : UserAgentPolicy) (output : List HeaderEntry) : List HeaderEntry :=
  match policy with
  | .keep => output
  | .strip => output.filter fun entry => entry.name ≠ bytes "user-agent"
  | .replaceStable =>
    let replaced := output.map fun entry =>
      if entry.name = bytes "user-agent" then { entry with value := defaultUserAgentValue } else entry
    if output.any (fun entry => entry.name = bytes "user-agent") then replaced
    else replaced ++ [⟨bytes "user-agent", defaultUserAgentValue⟩]

def rewriteHeaders (headers : List HeaderEntry) (target : RequestTarget) (privacy : PrivacyPolicy) : List HeaderEntry :=
  let authority := canonicalAuthority target
  let (output, hostInserted) := rewriteLoop (connectionList headers) privacy authority headers ([], false)
  let output := if hostInserted then output else output ++ [⟨bytes "host", authority⟩]
  rewriteUserAgent privacy.userAgent (output ++ [⟨bytes "connection", bytes "close"⟩])

def b32Alphabet : List UInt8 := bytes "abcdefghijklmnopqrstuvwxyz234567"

/-- The inner loop of `encode_b32_label`: five bits at a time from the top, and how many are left. -/
def drainBits (accumulator : Nat) : Nat → List UInt8 × Nat
  | bits + 5 =>
    let (out, left) := drainBits accumulator bits
    (b32Alphabet.getD ((accumulator >>> bits) % 32) 0 :: out, left)
  | bits => ([], bits)

def encodeB32Loop (accumulator bits : Nat) : List UInt8 → List UInt8
  | [] => if bits ≠ 0 then [b32Alphabet.getD ((accumulator <<< (5 - bits)) % 32) 0] else []
  | byte :: bytes =>
    let accumulator := (accumulator <<< 8) ||| byte.toNat
    let (out, left) := drainBits accumulator (bits + 8)
    out ++ encodeB32Loop (accumulator % 2 ^ left) left bytes

def encodeB32Label (bytes : List UInt8) : List UInt8 := encodeB32Loop 0 0 bytes

def targetForRemoteDestination (target : RequestTarget) (destinationHash : List UInt8) : RequestTarget :=
  { target with host := encodeB32Label destinationHash ++ b32Suffix }

def forwardedHead (head : HttpRequestHead) (target : RequestTarget) (destinationHash : List UInt8)
    (privacy : PrivacyPolicy) : List UInt8 :=
  serializeHead head.line.method (originForm target)
    (rewriteHeaders head.headers (targetForRemoteDestination target destinationHash) privacy)

def readField (line : List UInt8) : Option HeaderEntry :=
  (Lines.splitOnce 58 line).map fun field => ⟨field.1.map Ascii.lower, Utf8.trim field.2⟩

def readFields (bytes : List UInt8) : List HeaderEntry :=
  ((Lines.splitCrlf bytes).tail.takeWhile (· ≠ [])).filterMap readField

/-- A body is framed for the destination as it was framed by the client. -/
structure FramingKept (received : HttpRequestHead) (forwarded : List UInt8) : Prop where
  contentLength : fieldValues (bytes "content-length") (readFields forwarded) =
    fieldValues (bytes "content-length") received.headers
  transferEncoding : fieldValues (bytes "transfer-encoding") (readFields forwarded) =
    fieldValues (bytes "transfer-encoding") received.headers
  lines : ∃ lines : List (List UInt8), forwarded = lines.flatMap (· ++ Lines.crlf) ++ Lines.crlf ∧
    ∀ line ∈ lines, line ≠ [] ∧ 13 ∉ line ∧ 10 ∉ line

/-- The names that never reach the destination under the policy. -/
def isWithheld (privacy : PrivacyPolicy) (name : List UInt8) : Bool :=
  isHopByHop name || isProxyOrForwardingMetadata name || (name = bytes "accept" && !privacy.allowAccept) ||
    (name = bytes "referer" && privacy.stripReferer) || (name = bytes "from" && privacy.stripFrom) ||
    (name = bytes "user-agent" && privacy.userAgent = .strip)

/-- The names that the rules leave alone. -/
def isCarried (headers : List HeaderEntry) (privacy : PrivacyPolicy) (name : List UInt8) : Bool :=
  !isWithheld privacy name && !(connectionList headers).contains name && name ≠ bytes "host" &&
    name ≠ bytes "connection" && (name ≠ bytes "user-agent" || privacy.userAgent = .keep)

structure HeaderPrivacy (headers : List HeaderEntry) (target : RequestTarget) (privacy : PrivacyPolicy)
    (output : List HeaderEntry) : Prop where
  host : fieldValues (bytes "host") output = [canonicalAuthority target]
  connection : fieldValues (bytes "connection") output = [bytes "close"]
  withheld : ∀ entry ∈ output, isWithheld privacy entry.name = false
  stable : privacy.userAgent = .replaceStable → fieldValues (bytes "user-agent") output ≠ [] ∧
    ∀ value ∈ fieldValues (bytes "user-agent") output, value = defaultUserAgentValue
  nominated : ∀ entry ∈ output, entry.name ∈ connectionList headers → entry.name = bytes "host" ∨
    entry.name = bytes "connection" ∨ entry.name = bytes "user-agent" ∧ privacy.userAgent = .replaceStable
  carried : output.filter (fun entry => isCarried headers privacy entry.name) =
    headers.filter fun entry => isCarried headers privacy entry.name

theorem fieldValues_append (a b : List HeaderEntry) :
    fieldValues name (a ++ b) = fieldValues name a ++ fieldValues name b := by
  simp [fieldValues]

theorem fieldValues_cons (entry : HeaderEntry) (headers : List HeaderEntry) :
    fieldValues name (entry :: headers) = fieldValues name [entry] ++ fieldValues name headers :=
  fieldValues_append name [entry] headers

theorem fieldValues_singleton_ne {name : List UInt8} {entry : HeaderEntry} (h : entry.name ≠ name) :
    fieldValues name [entry] = [] := by
  simp [fieldValues, h]

section Rewrite

def isForwarded (nominated : List (List UInt8)) (privacy : PrivacyPolicy) (name : List UInt8) : Bool :=
  !rewriteDrops nominated privacy name && name ≠ bytes "host"

def framed (authority : List UInt8) (before after : List HeaderEntry) : List HeaderEntry :=
  before ++ ⟨bytes "host", authority⟩ :: after ++ [⟨bytes "connection", bytes "close"⟩]

def stableAgent (policy : UserAgentPolicy) (entry : HeaderEntry) : HeaderEntry :=
  if entry.name = bytes "user-agent" ∧ policy = .replaceStable then { entry with value := defaultUserAgentValue } else entry

variable {nominated : List (List UInt8)} {privacy : PrivacyPolicy} {authority name : List UInt8}
  {headers before after output : List HeaderEntry} {target : RequestTarget} {entry : HeaderEntry} {policy : UserAgentPolicy}

theorem mem_framed : entry ∈ framed authority before after ↔
    entry ∈ before ++ after ∨ entry = ⟨bytes "host", authority⟩ ∨ entry = ⟨bytes "connection", bytes "close"⟩ := by
  simp only [framed, mem_append, mem_cons, not_mem_nil, or_false]
  tauto

theorem filter_framed {p : HeaderEntry → Bool} (hhost : p ⟨bytes "host", authority⟩ = false)
    (hconnection : p ⟨bytes "connection", bytes "close"⟩ = false) :
    (framed authority before after).filter p = (before ++ after).filter p := by
  simp [framed, hhost, hconnection]

theorem fieldValues_framed (h : ∀ entry ∈ before ++ after, entry.name ≠ name) :
    fieldValues name (framed authority before after) =
      fieldValues name [⟨bytes "host", authority⟩, ⟨bytes "connection", bytes "close"⟩] := by
  obtain ⟨hbefore, hafter⟩ := forall_mem_append.mp h
  simp only [fieldValues, framed, filter_append, filter_cons]
  rw [filter_eq_nil_iff.mpr (by simpa using hbefore), filter_eq_nil_iff.mpr (by simpa using hafter)]
  split <;> simp

theorem rewriteLoop_inserted (headers output : List HeaderEntry) :
    rewriteLoop nominated privacy authority headers (output, true) =
      (output ++ headers.filter fun entry => isForwarded nominated privacy entry.name, true) := by
  induction headers generalizing output with
  | nil => simp [rewriteLoop]
  | cons entry headers ih =>
    rw [rewriteLoop]
    by_cases hdrops : rewriteDrops nominated privacy entry.name = true
    · simp [ih, isForwarded, hdrops]
    by_cases hhost : entry.name = bytes "host"
    · simp [ih, isForwarded, hhost]
    · simp [ih, isForwarded, hdrops, hhost]

/-- The loop keeps what it forwards in its order, with the authority of the target somewhere in between. -/
theorem rewriteLoop_eq (nominated : List (List UInt8)) (privacy : PrivacyPolicy) (authority : List UInt8)
    (headers output : List HeaderEntry) : ∃ before after,
    before ++ after = headers.filter (fun entry => isForwarded nominated privacy entry.name) ∧
      let result := rewriteLoop nominated privacy authority headers (output, false)
      (if result.2 then result.1 else result.1 ++ [⟨bytes "host", authority⟩]) ++ [⟨bytes "connection", bytes "close"⟩] =
        output ++ framed authority before after := by
  induction headers generalizing output with
  | nil => exact ⟨[], [], by simp [rewriteLoop, framed]⟩
  | cons entry headers ih =>
    rw [rewriteLoop]
    by_cases hdrops : rewriteDrops nominated privacy entry.name = true
    · simpa [isForwarded, hdrops] using ih output
    by_cases hhost : entry.name = bytes "host"
    · rw [hhost] at hdrops
      exact ⟨[], _, rfl, by simp [rewriteLoop_inserted, isForwarded, framed, hhost, hdrops]⟩
    · obtain ⟨before, after, hkept, hresult⟩ := ih (output ++ [entry])
      exact ⟨entry :: before, after, by simp [isForwarded, hdrops, hhost, hkept],
        by simpa [framed, hdrops, hhost] using hresult⟩

theorem stableAgent_name (entry : HeaderEntry) : (stableAgent policy entry).name = entry.name := by
  rw [stableAgent]
  split <;> rfl

theorem stableAgent_of_ne (h : entry.name = bytes "user-agent" → policy ≠ .replaceStable) :
    stableAgent policy entry = entry :=
  if_neg fun hagent => h hagent.1 hagent.2

theorem rewriteUserAgent_eq (hstrip : policy = .strip → ∀ entry ∈ output, entry.name ≠ bytes "user-agent") :
    ∃ agents, rewriteUserAgent policy output = output.map (stableAgent policy) ++ agents ∧
      (∀ entry ∈ agents, entry = ⟨bytes "user-agent", defaultUserAgentValue⟩ ∧ policy = .replaceStable) ∧
      (policy = .replaceStable → ∃ entry ∈ rewriteUserAgent policy output, entry.name = bytes "user-agent") := by
  have hsame : policy ≠ .replaceStable → output.map (stableAgent policy) = output := fun hpolicy =>
    (map_congr_left fun entry _ => stableAgent_of_ne fun _ => hpolicy).trans (map_id' output)
  cases policy with
  | keep => exact ⟨[], by simp [rewriteUserAgent, hsame], nofun, nofun⟩
  | strip => exact ⟨[], by simpa [rewriteUserAgent, hsame] using hstrip rfl, nofun, nofun⟩
  | replaceStable =>
    rw [rewriteUserAgent]
    split
    next hany =>
      obtain ⟨entry, hentry, hname⟩ := any_eq_true.mp hany
      refine ⟨[], by simp [stableAgent], nofun, fun _ => ⟨_, mem_map_of_mem hentry, ?_⟩⟩
      rw [if_pos (of_decide_eq_true hname)]
      exact of_decide_eq_true hname
    · exact ⟨[⟨bytes "user-agent", defaultUserAgentValue⟩], by simp [stableAgent], by simp, fun _ => by simp⟩

theorem rewriteHeaders_eq (headers : List HeaderEntry) (target : RequestTarget) (privacy : PrivacyPolicy) :
    ∃ before after agents,
      before ++ after = headers.filter (fun entry => isForwarded (connectionList headers) privacy entry.name) ∧
      rewriteHeaders headers target privacy =
        (framed (canonicalAuthority target) before after).map (stableAgent privacy.userAgent) ++ agents ∧
      (∀ entry ∈ agents, entry = ⟨bytes "user-agent", defaultUserAgentValue⟩ ∧ privacy.userAgent = .replaceStable) ∧
      (privacy.userAgent = .replaceStable → ∃ entry ∈ rewriteHeaders headers target privacy,
        entry.name = bytes "user-agent") := by
  obtain ⟨before, after, hkept, hresult⟩ :=
    rewriteLoop_eq (connectionList headers) privacy (canonicalAuthority target) headers []
  refine ⟨before, after, ?_⟩
  dsimp only [rewriteHeaders] at hresult ⊢
  rw [hresult]
  have hstrip : privacy.userAgent = .strip → ∀ entry ∈ framed (canonicalAuthority target) before after,
      entry.name ≠ bytes "user-agent" := by
    intro hpolicy entry hentry hname
    rcases mem_framed.mp hentry with hmem | rfl | rfl
    · rw [hkept] at hmem
      simp [isForwarded, rewriteDrops, hname, hpolicy] at hmem
    · exact absurd hname (by simp [bytes])
    · exact absurd hname (by decide)
  obtain ⟨agents, heq, hagents⟩ := rewriteUserAgent_eq hstrip
  exact ⟨agents, hkept, heq, hagents⟩

/-- What is sent was received and kept, or is written by the proxy. -/
theorem mem_rewriteHeaders (h : entry ∈ rewriteHeaders headers target privacy) :
    entry = ⟨bytes "host", canonicalAuthority target⟩ ∨ entry = ⟨bytes "connection", bytes "close"⟩ ∨
      entry = ⟨bytes "user-agent", defaultUserAgentValue⟩ ∧ privacy.userAgent = .replaceStable ∨
      entry ∈ headers ∧ rewriteDrops (connectionList headers) privacy entry.name = false ∧
        ¬ (entry.name = bytes "user-agent" ∧ privacy.userAgent = .replaceStable) := by
  obtain ⟨before, after, agents, hkept, heq, hagents, -⟩ := rewriteHeaders_eq headers target privacy
  rw [heq] at h
  rcases mem_append.mp h with h | h
  · obtain ⟨original, horiginal, rfl⟩ := mem_map.mp h
    by_cases hagent : original.name = bytes "user-agent" ∧ privacy.userAgent = .replaceStable
    · exact .inr (.inr (.inl ⟨by rw [stableAgent, if_pos hagent, hagent.1], hagent.2⟩))
    rw [stableAgent, if_neg hagent]
    rcases mem_framed.mp horiginal with hmem | rfl | rfl
    · rw [hkept] at hmem
      obtain ⟨hheaders, hforwarded⟩ := mem_filter.mp hmem
      exact .inr (.inr (.inr ⟨hheaders, by simpa using (Bool.and_eq_true_iff.mp hforwarded).1, hagent⟩))
    · exact .inl rfl
    · exact .inr (.inl rfl)
  · exact .inr (.inr (.inl (hagents entry h)))

theorem fieldValues_filter (name : List UInt8) (p : List UInt8 → Bool) (headers : List HeaderEntry) :
    fieldValues name (headers.filter fun entry => p entry.name) = if p name then fieldValues name headers else [] := by
  rw [fieldValues, filter_filter]
  split
  next hp =>
    congr 1
    refine filter_congr fun entry _ => ?_
    by_cases hname : entry.name = name
    · simp [hname, hp]
    · simp [hname]
  next hp =>
    have hnone : headers.filter (fun entry => decide (entry.name = name) && p entry.name) = [] := by
      rw [filter_eq_nil_iff]
      intro entry _ hentry
      simp only [Bool.and_eq_true, decide_eq_true_eq] at hentry
      exact hp (hentry.1 ▸ hentry.2)
    rw [hnone, map_nil]

theorem filter_rewriteHeaders (privacy : PrivacyPolicy) {p : List UInt8 → Bool}
    (hagent : p (bytes "user-agent") = true → privacy.userAgent ≠ .replaceStable) : ∃ before after,
      before ++ after = headers.filter (fun entry => isForwarded (connectionList headers) privacy entry.name) ∧
      (rewriteHeaders headers target privacy).filter (fun entry => p entry.name) =
        (framed (canonicalAuthority target) before after).filter fun entry => p entry.name := by
  obtain ⟨before, after, agents, hkept, heq, hagents, -⟩ := rewriteHeaders_eq headers target privacy
  refine ⟨before, after, hkept, ?_⟩
  have hnone : agents.filter (fun entry => p entry.name) = [] := by
    refine filter_eq_nil_iff.mpr fun entry hentry hp => ?_
    obtain ⟨rfl, hstable⟩ := hagents entry hentry
    exact hagent hp hstable
  rw [heq, filter_append, hnone, append_nil, filter_map]
  simp only [Function.comp_def, stableAgent_name]
  refine (map_congr_left fun entry hentry => ?_).trans (map_id' _)
  exact stableAgent_of_ne fun hname => hagent (hname ▸ (mem_filter.mp hentry).2)

theorem fieldValues_rewriteHeaders (hhost : name ≠ bytes "host") (hconnection : name ≠ bytes "connection")
    (hagent : name ≠ bytes "user-agent") (headers : List HeaderEntry) (target : RequestTarget) (privacy : PrivacyPolicy) :
    fieldValues name (rewriteHeaders headers target privacy) =
      if rewriteDrops (connectionList headers) privacy name then [] else fieldValues name headers := by
  obtain ⟨before, after, hkept, heq⟩ := filter_rewriteHeaders privacy (p := (· = name)) (by simp [hagent.symm])
  rw [fieldValues, heq, filter_framed (by simp [hhost.symm]) (by simp [hconnection.symm]), hkept]
  exact (fieldValues_filter name _ headers).trans (by cases h : rewriteDrops (connectionList headers) privacy name <;>
    simp [isForwarded, hhost, h])

theorem tidy_rewriteHeaders (hauthority : Tidy ⟨bytes "host", canonicalAuthority target⟩)
    (hheaders : ∀ entry ∈ headers, Tidy entry) (privacy : PrivacyPolicy) :
    ∀ entry ∈ rewriteHeaders headers target privacy, Tidy entry := by
  have hvalid : Utf8.valid defaultUserAgentValue = true := by decide
  have hline : 13 ∉ defaultUserAgentValue ∧ 10 ∉ defaultUserAgentValue := by decide
  have htrimmed : Utf8.trim defaultUserAgentValue = defaultUserAgentValue := by decide
  intro entry hentry
  rcases mem_rewriteHeaders hentry with rfl | rfl | ⟨rfl, -⟩ | ⟨hmem, -⟩
  · exact hauthority
  · exact tidy_close
  · exact ⟨⟨goodName_written.2.2.2, hvalid, hline⟩, htrimmed⟩
  · exact hheaders entry hmem

/-- The destination is shown what the policy allows, and all of it. -/
theorem rewriteHeaders_privacy (headers : List HeaderEntry) (target : RequestTarget) (privacy : PrivacyPolicy) :
    HeaderPrivacy headers target privacy (rewriteHeaders headers target privacy) where
  host := by
    obtain ⟨before, after, hkept, heq⟩ := filter_rewriteHeaders privacy (p := (· = bytes "host")) nofun
    rw [fieldValues, heq, ← fieldValues, fieldValues_framed (by simp [hkept, isForwarded])]
    rfl
  connection := by
    obtain ⟨before, after, hkept, heq⟩ := filter_rewriteHeaders privacy (p := (· = bytes "connection")) nofun
    rw [fieldValues, heq, ← fieldValues, fieldValues_framed (by simp +contextual [hkept, isForwarded, rewriteDrops])]
    rfl
  withheld entry hentry := by
    have hwritten : ∀ name ∈ [bytes "host", bytes "connection", bytes "user-agent"], isHopByHop name = false ∧
        isProxyOrForwardingMetadata name = false ∧ name ≠ bytes "accept" ∧ name ≠ bytes "referer" ∧
        name ≠ bytes "from" := by decide
    have hagent : bytes "host" ≠ bytes "user-agent" ∧ bytes "connection" ≠ bytes "user-agent" := by decide
    rcases mem_rewriteHeaders hentry with rfl | rfl | ⟨rfl, hstable⟩ | ⟨-, hkept, -⟩
    · simp [isWithheld, hwritten, hagent]
    · simp [isWithheld, hwritten, hagent]
    · simp [isWithheld, hwritten, hstable]
    · simp only [rewriteDrops, Bool.or_eq_false_iff] at hkept
      simp only [isWithheld, hkept, Bool.or_false]
  stable hstable := by
    obtain ⟨_, _, _, _, _, _, hsome⟩ := rewriteHeaders_eq headers target privacy
    refine ⟨by simpa [fieldValues] using hsome hstable, fun value hvalue => ?_⟩
    obtain ⟨entry, hentry, rfl⟩ := mem_map.mp hvalue
    obtain ⟨hmem, hname⟩ := mem_filter.mp hentry
    rcases mem_rewriteHeaders hmem with rfl | rfl | ⟨rfl, -⟩ | ⟨-, -, hkept⟩
    · cases hname
    · cases hname
    · rfl
    · exact absurd ⟨of_decide_eq_true hname, hstable⟩ hkept
  nominated entry hentry hnominated := by
    rcases mem_rewriteHeaders hentry with rfl | rfl | ⟨rfl, hstable⟩ | ⟨-, hkept, -⟩
    · exact .inl rfl
    · exact .inr (.inl rfl)
    · exact .inr (.inr ⟨rfl, hstable⟩)
    · simp [rewriteDrops, hnominated] at hkept
  carried := by
    obtain ⟨before, after, hkept, heq⟩ := filter_rewriteHeaders privacy (p := isCarried headers privacy)
      (by simp +contextual [isCarried])
    rw [heq, filter_framed (by simp [isCarried]) (by simp [isCarried]), hkept, filter_filter]
    refine filter_congr fun entry _ => ?_
    cases hcarried : isCarried headers privacy entry.name with
    | false => rfl
    | true =>
      simp only [isCarried, isWithheld, Bool.and_eq_true, Bool.not_eq_true', Bool.or_eq_false_iff,
        contains_eq_mem, decide_eq_true_eq, decide_eq_false_iff_not] at hcarried
      simp [isForwarded, rewriteDrops, hcarried]

end Rewrite

theorem b32Alphabet_getD (index : Nat) : b32Alphabet.getD (index % 32) 0 ∈ b32Alphabet := by
  have hlength : index % 32 < b32Alphabet.length := Nat.mod_lt _ (by decide)
  rw [getD_eq_getElem _ _ hlength]
  exact getElem_mem hlength

theorem drainBits_mem (accumulator bits : Nat) : ∀ byte ∈ (drainBits accumulator bits).1, byte ∈ b32Alphabet := by
  fun_induction drainBits accumulator bits with
  | case1 bits out left hdrain ih =>
    rw [hdrain] at ih
    exact forall_mem_cons.mpr ⟨b32Alphabet_getD _, ih⟩
  | case2 => simp

theorem encodeB32Loop_mem (accumulator bits : Nat) (bytes : List UInt8) :
    ∀ byte ∈ encodeB32Loop accumulator bits bytes, byte ∈ b32Alphabet := by
  induction bytes generalizing accumulator bits with
  | nil =>
    rw [encodeB32Loop]
    split
    · exact forall_mem_singleton.mpr (b32Alphabet_getD _)
    · exact forall_mem_nil _
  | cons first bytes ih =>
    rw [encodeB32Loop]
    exact forall_mem_append.mpr ⟨drainBits_mem (accumulator <<< 8 ||| first.toNat) (bits + 8), ih _ _⟩

theorem tidy_remoteAuthority (target : RequestTarget) (destinationHash : List UInt8) :
    Tidy ⟨bytes "host", canonicalAuthority (targetForRemoteDestination target destinationHash)⟩ := by
  have halphabet : ∀ byte ∈ b32Alphabet, 32 < byte ∧ byte < 128 := by decide +kernel
  have hhost : ∀ byte ∈ encodeB32Label destinationHash ++ b32Suffix, 32 < byte ∧ byte < 128 := by
    refine forall_mem_append.mpr ⟨fun byte hbyte => ?_, by decide +kernel⟩
    exact halphabet byte (encodeB32Loop_mem 0 0 destinationHash byte hbyte)
  refine Tidy.of_graphic goodName_written.1 ?_
  rw [canonicalAuthority]
  split
  · exact hhost
  next port _ =>
    split
    · exact hhost
    refine forall_mem_append.mpr ⟨hhost, forall_mem_cons.mpr ⟨by decide, fun byte hbyte => ?_⟩⟩
    exact Decimal.graphic_of_isDigit (Decimal.isDigit_of_mem_render hbyte)

theorem readFields_serializeHead {method target : List UInt8} (hline : 13 ∉ requestLine method target)
    {entries : List HeaderEntry} (hentries : ∀ entry ∈ entries, Tidy entry) :
    readFields (serializeHead method target entries) = entries := by
  have hlines : ∀ line ∈ requestLine method target :: entries.map renderLine, 13 ∉ line := by
    refine forall_mem_cons.mpr ⟨hline, forall_mem_map.mpr fun entry hentry => ?_⟩
    exact (hentries entry hentry).writable.line.1
  have htake : (entries.map renderLine ++ [[], []]).takeWhile (· ≠ []) = entries.map renderLine := by
    rw [takeWhile_append_of_pos]
    · simp
    · exact forall_mem_map.mpr fun entry hentry => by simpa using (hentries entry hentry).writable.head.1
  have hread : ∀ entry ∈ entries, readField (renderLine entry) = some entry := by
    intro entry hentry
    have htidy := hentries entry hentry
    rw [readField, htidy.writable.splitOnce, Option.map_some, htidy.writable.name.lower,
      Utf8.trim_space htidy.writable.valid, htidy.trimmed]
  rw [readFields, serializeHead_eq, Lines.splitCrlf_lines hlines]
  change ((entries.map renderLine ++ [[], []]).takeWhile (· ≠ [])).filterMap readField = entries
  rw [htake, filterMap_map]
  exact (filterMap_congr hread).trans filterMap_some

theorem rewriteDrops_contentLength (privacy : PrivacyPolicy) :
    rewriteDrops nominated privacy (bytes "content-length") = nominated.contains (bytes "content-length") := by
  have hmetadata : isProxyOrForwardingMetadata (bytes "content-length") = false := by decide
  have hhop : isHopByHop (bytes "content-length") = false := by decide
  have hnames : ∀ name ∈ [bytes "connection", bytes "accept", bytes "referer", bytes "from",
      bytes "user-agent"], bytes "content-length" ≠ name := by decide
  simp only [forall_mem_cons] at hnames
  obtain ⟨h1, h2, h3, h4, h5, -⟩ := hnames
  simp only [rewriteDrops, hmetadata, hhop, h1, h2, h3, h4, h5, decide_false, Bool.false_or, Bool.false_and,
    Bool.or_false]

theorem rewriteDrops_transferEncoding (privacy : PrivacyPolicy) :
    rewriteDrops nominated privacy (bytes "transfer-encoding") = true := by
  have hhop : isHopByHop (bytes "transfer-encoding") = true := by decide
  simp [rewriteDrops, hhop]

/-- The framing is kept exactly for the heads without `Transfer-Encoding` whose `Content-Length`, where there is one, is
not listed in a `Connection` field. -/
theorem framingKept_iff {isIpAddr : List UInt8 → Bool} {buffer : List UInt8} {limits : HttpLimits}
    {head : HttpRequestHead} {policy : TargetPolicy} {target : RequestTarget}
    (hhead : parseRequestHead buffer limits = .ok head)
    (htarget : parseRequestTargetWithPolicy isIpAddr head.line.target policy = .ok target)
    (destinationHash : List UInt8) (privacy : PrivacyPolicy) :
    FramingKept head (forwardedHead head target destinationHash privacy) ↔
      fieldValues (bytes "transfer-encoding") head.headers = [] ∧
      (fieldValues (bytes "content-length") head.headers = [] ∨
        bytes "content-length" ∉ connectionList head.headers) := by
  have haccepted := accepted_of_parseRequestHead hhead
  have htidy := tidy_rewriteHeaders (tidy_remoteAuthority target destinationHash)
    (fun entry hentry => (haccepted.headers entry hentry).tidy) privacy
  have hrequest : 13 ∉ requestLine head.line.method (originForm target) ∧
      10 ∉ requestLine head.line.method (originForm target) := by
    obtain ⟨hcr, hlf⟩ := not_mem_of_parseRequestLine haccepted.line
    have horigin := originForm_subset htarget
    simp only [requestLine, mem_append, mem_cons, not_or] at hcr hlf ⊢
    refine ⟨⟨⟨hcr.1.1, by decide, fun hmem => ?_⟩, by decide⟩, ⟨hlf.1.1, by decide, fun hmem => ?_⟩, by decide⟩
    · exact (horigin 13 hmem).elim hcr.1.2.2 (by decide)
    · exact (horigin 10 hmem).elim hlf.1.2.2 (by decide)
  have hread : readFields (forwardedHead head target destinationHash privacy) =
      rewriteHeaders head.headers (targetForRemoteDestination target destinationHash) privacy :=
    readFields_serializeHead hrequest.1 htidy
  have hlength : fieldValues (bytes "content-length") (readFields (forwardedHead head target destinationHash privacy)) =
      if (connectionList head.headers).contains (bytes "content-length") then []
      else fieldValues (bytes "content-length") head.headers := by
    rw [hread, fieldValues_rewriteHeaders (by decide) (by decide) (by decide),
      rewriteDrops_contentLength]
  have hencoding : fieldValues (bytes "transfer-encoding")
      (readFields (forwardedHead head target destinationHash privacy)) = [] := by
    rw [hread, fieldValues_rewriteHeaders (by decide) (by decide) (by decide),
      rewriteDrops_transferEncoding, if_pos rfl]
  constructor
  · intro hkept
    have hte := hkept.transferEncoding
    have hcl := hkept.contentLength
    rw [hencoding] at hte
    rw [hlength] at hcl
    refine ⟨hte.symm, ?_⟩
    split at hcl
    · exact .inl hcl.symm
    next hnominated => exact .inr (by simpa using hnominated)
  · rintro ⟨hte, hcl⟩
    refine ⟨?_, hencoding.trans hte.symm, _, serializeHead_eq _ _ _, ?_⟩
    · rw [hlength]
      rcases hcl with hcl | hnominated
      · rw [hcl, ite_self]
      · rw [if_neg (by simpa using hnominated)]
    · refine forall_mem_cons.mpr ⟨⟨requestLine_ne_nil _ _, hrequest⟩, forall_mem_map.mpr fun entry hentry => ?_⟩
      have hwritable := (htidy entry hentry).writable
      exact ⟨isEmpty_eq_false_iff.mp hwritable.head.1, hwritable.line⟩

def sampleTarget : RequestTarget := ⟨bytes "a.i2p", none, bytes "/", []⟩

def samplePost (fields : List HeaderEntry) (body : List UInt8) : HttpRequestHead where
  line := ⟨bytes "POST", bytes "http://a.i2p/", bytes "HTTP/1.1"⟩
  headers := ⟨bytes "host", bytes "a.i2p"⟩ :: fields
  initialBodyBytes := body

theorem framingKept_iff_sample :
    parseRequestHead (bytes "POST http://a.i2p/ HTTP/1.1\r\nHost: a.i2p\r\nContent-Length: 2\r\n\r\nok") .defaults =
        .ok (samplePost [⟨bytes "content-length", bytes "2"⟩] (bytes "ok")) ∧
      FramingKept (samplePost [⟨bytes "content-length", bytes "2"⟩] (bytes "ok"))
        (forwardedHead (samplePost [⟨bytes "content-length", bytes "2"⟩] (bytes "ok")) sampleTarget
          (List.replicate 32 0) .default) := by
  have htarget : parseRequestTargetWithPolicy (fun _ => false) (bytes "http://a.i2p/") .i2pOnly = .ok sampleTarget := rfl
  refine (and_iff_left_of_imp fun hhead => ?_).mpr rfl
  exact (framingKept_iff hhead htarget _ _).mpr ⟨by decide +kernel, .inr (by decide +kernel)⟩

/-- The chunked body of the first request and the body of the second lose what delimits them. -/
theorem not_framingKept_requests : (∃ head, parseRequestHead (Ascii.bytes
          "POST http://a.i2p/ HTTP/1.1\r\nHost: a.i2p\r\nTransfer-Encoding: chunked\r\n\r\n0\r\n\r\n") .defaults = .ok head ∧
        parseRequestTargetWithPolicy (fun _ => false) head.line.target .i2pOnly = .ok sampleTarget ∧
        ¬ FramingKept head (forwardedHead head sampleTarget (List.replicate 32 0) .default)) ∧
      ∃ head, parseRequestHead (Ascii.bytes
          "POST http://a.i2p/ HTTP/1.1\r\nHost: a.i2p\r\nConnection: Content-Length\r\nContent-Length: 5\r\n\r\nGET /")
          .defaults = .ok head ∧
        parseRequestTargetWithPolicy (fun _ => false) head.line.target .i2pOnly = .ok sampleTarget ∧
        ¬ FramingKept head (forwardedHead head sampleTarget (List.replicate 32 0) .default) := by
  refine ⟨⟨_, rfl, rfl, fun hkept => ?_⟩, ⟨_, rfl, rfl, fun hkept => ?_⟩⟩
  · exact absurd hkept.transferEncoding (by decide +kernel)
  · exact absurd hkept.contentLength (by decide +kernel)

end I2pr.Http

import I2pr.HttpWire
import I2pr.Lib.Decimal

namespace I2pr.Http

open Fallible

inductive TargetPolicy where
  | i2pOnly
  | allowsClearnet
deriving DecidableEq, Repr

structure RequestTarget where
  host : List UInt8
  port : Option Nat
  path : List UInt8
  query : List UInt8
deriving DecidableEq, Repr

def hostMaxBytes : Nat := 256
def pathMaxBytes : Nat := 4096
def queryMaxBytes : Nat := 4096
def i2pSuffix : List UInt8 := Ascii.bytes ".i2p"
def b32Suffix : List UInt8 := Ascii.bytes ".b32.i2p"
def maxStaticAliasLen : Nat := 67
def maxStaticAliasLabelLen : Nat := 63

def validateAliasPart (part : List UInt8) : Except String Unit :=
  if part.isEmpty then .error "alias label must not contain empty labels"
  else if maxStaticAliasLabelLen < part.length then .error "alias sub-label exceeds 63 bytes"
  else if !part.all (fun byte => Ascii.isLower byte || Ascii.isDigit byte || byte == 45) then
    .error "alias labels must be lower-case alphanumeric or hyphen"
  else if part.head? = some 45 ∨ part.getLast? = some 45 then .error "alias sub-label must not start or end with hyphen"
  else .ok ()

section Target

-- whether the address parser of the standard library takes a text
variable (isIpAddr : List UInt8 → Bool)

def validateStaticAlias (value : List UInt8) : Except String Unit :=
  if value.isEmpty then .error "must not be empty"
  else if maxStaticAliasLen < value.length then .error "exceeds the static alias ceiling"
  else if ¬ i2pSuffix <:+ value then .error "must end with .i2p"
  else if b32Suffix <:+ value then .error "b32 references are not static aliases"
  else
    let label := value.take (value.length - i2pSuffix.length)
    if label.isEmpty then .error "alias label must not be empty"
    else if maxStaticAliasLabelLen < label.length then .error "alias label exceeds 63 bytes"
    else if label.head? = some 45 ∨ label.getLast? = some 45 then
      .error "alias label must not start or end with hyphen"
    else if [46, 46] <:+: label then .error "alias label must not contain empty labels"
    else if isIpAddr label then .error "IP literals are rejected for aliases"
    else (label.splitOn 46).forM validateAliasPart

def validateHostWithPolicy (host : List UInt8) (policy : TargetPolicy) : Except HttpError Unit :=
  if host.isEmpty then .error ⟨.nonI2pAuthority, "host is empty"⟩
  else if isIpAddr host then .error ⟨.nonI2pAuthority, "IP literals are rejected"⟩
  else
    let lowered := host.map Ascii.lower
    if lowered = Ascii.bytes "localhost" ∨ Ascii.bytes ".localhost" <:+ lowered then
      .error ⟨.nonI2pAuthority, "localhost authority is rejected"⟩
    else if policy = .allowsClearnet then .ok ()
    else if ¬ i2pSuffix <:+ lowered then .error ⟨.nonI2pAuthority, "host must end with .i2p"⟩
    else if ¬ b32Suffix <:+ lowered then
      (validateStaticAlias isIpAddr lowered).mapError fun _ => ⟨.nonI2pAuthority, "static alias is malformed"⟩
    else .ok ()

variable (input : List UInt8)

def parseAuthority (requirePort : Bool) : Except HttpError (List UInt8 × Option Nat) :=
  if input.isEmpty then .error ⟨.malformedTarget, "authority is empty"⟩
  else if input.contains 64 then .error ⟨.userinfoInAuthority, "userinfo is forbidden in HTTP proxy authorities"⟩
  else do
    let (hostPort, portLiteral) ← match Lines.rsplitOnce 58 input with
      | some (host, port) => .ok (host, some port)
      | none => if requirePort then .error ⟨.malformedTarget, "authority missing port"⟩ else .ok (input, none)
    if hostPort.isEmpty then .error ⟨.malformedTarget, "authority host is empty"⟩
    else if hostPort.contains 58 then .error ⟨.malformedTarget, "authority host contains multiple colons"⟩
    else if hostMaxBytes < hostPort.length then .error ⟨.malformedTarget, "authority host exceeds the ceiling"⟩
    else match portLiteral with
      | none => .ok (hostPort.map Ascii.lower, none)
      | some literal => match Decimal.parse 65535 literal with
        | none => .error ⟨.malformedTarget, "authority port is invalid"⟩
        | some port => .ok (hostPort.map Ascii.lower, some port)

def parsePathQuery : Except HttpError (List UInt8 × List UInt8) :=
  if pathMaxBytes + 1 + queryMaxBytes < input.length then
    .error ⟨.malformedTarget, "path+query exceeds the ceiling"⟩
  else if input.any (fun byte => byte ≤ 0x1f || byte == 0x7f) then
    .error ⟨.malformedField, "path or query contains control bytes"⟩
  else if input.head? ≠ some 47 then .error ⟨.malformedTarget, "origin-form path must start with '/'"⟩
  else
    let (path, query) := (Lines.splitOnce 63 input).getD (input, [])
    if pathMaxBytes < path.length then .error ⟨.malformedTarget, "path exceeds the ceiling"⟩
    else if queryMaxBytes < query.length then .error ⟨.malformedTarget, "query exceeds the ceiling"⟩
    else .ok (path, query)

def parseOriginForm : Except HttpError (List UInt8 × List UInt8) := parsePathQuery input

def parseAbsoluteFormWithPolicy (policy : TargetPolicy) : Except HttpError RequestTarget :=
  if ¬ Ascii.bytes "http://" <+: input then .error ⟨.unsupportedScheme, "absolute-form must use the http scheme"⟩
  else
    let remainder := input.drop 7
    if remainder.isEmpty then .error ⟨.malformedTarget, "absolute-form authority is empty"⟩
    else do
      let (host, port) ← parseAuthority (remainder.takeWhile (· ≠ 47)) false
      validateHostWithPolicy isIpAddr host policy
      let (path, query) ← parsePathQuery (remainder.dropWhile (· ≠ 47))
      return ⟨host, port, path, query⟩

def parseRequestTargetWithPolicy (policy : TargetPolicy) : Except HttpError RequestTarget :=
  if Ascii.bytes "http://" <+: input then parseAbsoluteFormWithPolicy isIpAddr input policy
  else .error ⟨.malformedTarget, "request-target must be absolute-form for ordinary proxy requests"⟩

end Target

def canonicalAuthority (target : RequestTarget) : List UInt8 :=
  match target.port with
  | none => target.host
  | some port => if port = 80 then target.host else target.host ++ 58 :: Decimal.render port

def originForm (target : RequestTarget) : List UInt8 :=
  if target.query.isEmpty then target.path else target.path ++ 63 :: target.query

theorem parsePathQuery_subset {input path query : List UInt8} (h : parsePathQuery input = .ok (path, query)) :
    path ⊆ input ∧ query ⊆ input := by
  unfold parsePathQuery at h
  iterate 5 obtain ⟨-, h⟩ := ite_error_eq_ok.mp h
  have hparts : (Lines.splitOnce 63 input).getD (input, []) = (path, query) := Except.ok.inj h
  cases hsplit : Lines.splitOnce 63 input with
  | none =>
    rw [hsplit] at hparts
    cases hparts
    exact ⟨fun _ hbyte => hbyte, by simp⟩
  | some parts =>
    rw [hsplit] at hparts
    obtain ⟨rfl, -⟩ := Lines.splitOnce_eq_some.mp (hsplit.trans (congrArg some hparts))
    simp

theorem originForm_subset {isIpAddr : List UInt8 → Bool} {input : List UInt8} {policy : TargetPolicy}
    {target : RequestTarget} (h : parseRequestTargetWithPolicy isIpAddr input policy = .ok target) :
    ∀ byte ∈ originForm target, byte ∈ input ∨ byte = 63 := by
  unfold parseRequestTargetWithPolicy at h
  split at h
  · unfold parseAbsoluteFormWithPolicy at h
    simp only [ite_error_eq_ok, bind_eq_ok] at h
    obtain ⟨-, -, authority, -, _, -, ⟨path, query⟩, hpath, h⟩ := h
    cases h
    obtain ⟨hpath, hquery⟩ := parsePathQuery_subset hpath
    have hremainder : ∀ byte ∈ (input.drop 7).dropWhile (· ≠ 47), byte ∈ input := fun byte hbyte =>
      List.mem_of_mem_drop ((List.dropWhile_suffix _).subset hbyte)
    intro byte hbyte
    unfold originForm at hbyte
    split at hbyte
    · exact .inl (hremainder byte (hpath hbyte))
    rcases List.mem_append.mp hbyte with hbyte | hbyte
    · exact .inl (hremainder byte (hpath hbyte))
    · rcases List.mem_cons.mp hbyte with rfl | hbyte
      · exact .inr rfl
      · exact .inl (hremainder byte (hquery hbyte))
  · cases h

end I2pr.Http

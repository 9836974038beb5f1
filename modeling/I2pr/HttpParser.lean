import I2pr.Lib.Ascii
import I2pr.Lib.Lines
import I2pr.Lib.Fallible

namespace I2pr.Http

inductive HttpErrorKind where
  | malformedRequestLine
  | malformedHeaders
  | malformedField
  | malformedTarget
  | unsupportedScheme
  | nonI2pAuthority
  | userinfoInAuthority
  | smugglingAmbiguity
  | methodNotAllowed
  | presentationRefused
  | bufferCeilingExceeded
deriving DecidableEq, Repr

structure HttpError where
  kind : HttpErrorKind
  reason : String
deriving DecidableEq, Repr

structure HttpLimits where
  requestLineMaxBytes : Nat
  totalHeaderBytesMax : Nat
  headerCountMax : Nat
  fieldNameMaxBytes : Nat
  fieldValueMaxBytes : Nat
  retainedBufferMaxBytes : Nat

def HttpLimits.defaults : HttpLimits where
  requestLineMaxBytes := 8192
  totalHeaderBytesMax := 65536
  headerCountMax := 100
  fieldNameMaxBytes := 256
  fieldValueMaxBytes := 8192
  retainedBufferMaxBytes := 65536

def httpHeaderCountMax : Nat := 100

structure HeaderEntry where
  name : List UInt8
  value : List UInt8
deriving DecidableEq, Repr

structure RequestLine where
  method : List UInt8
  target : List UInt8
  version : List UInt8
deriving DecidableEq, Repr

structure HttpRequestHead where
  line : RequestLine
  headers : List HeaderEntry
  initialBodyBytes : List UInt8
deriving DecidableEq, Repr

/-- The loop of `find_header_end`: the offset behind the empty line that ends the header section. -/
def findHeaderEndFrom (index : Nat) : List UInt8 → Option Nat
  | 13 :: 10 :: 13 :: 10 :: _ => some (index + 4)
  | _ :: rest => findHeaderEndFrom (index + 1) rest
  | [] => none

def findHeaderEnd (buffer : List UInt8) : Option Nat := findHeaderEndFrom 0 buffer

def parseRequestLine (input : List UInt8) (maxBytes : Nat) : Except HttpError RequestLine :=
  if input.isEmpty then .error ⟨.malformedRequestLine, "request line is empty"⟩
  else if maxBytes < input.length then .error ⟨.malformedRequestLine, "request line exceeds ceiling"⟩
  else if input.any (fun byte => byte ≤ 0x1f || byte == 0x7f) then
    .error ⟨.malformedRequestLine, "request line contains control bytes"⟩
  else match input.splitOn 32 with
    | [] => .error ⟨.malformedRequestLine, "request line missing method"⟩
    | [_] => .error ⟨.malformedRequestLine, "request line missing target"⟩
    | [_, _] => .error ⟨.malformedRequestLine, "request line missing version"⟩
    | _ :: _ :: _ :: _ :: _ => .error ⟨.malformedRequestLine, "request line has too many spaces"⟩
    | [method, target, version] =>
      if method.isEmpty || !method.all Ascii.isUpper then
        .error ⟨.malformedRequestLine, "method must be uppercase ASCII"⟩
      else if httpHeaderCountMax < method.length then .error ⟨.malformedRequestLine, "method exceeds the ceiling"⟩
      else if version ≠ Ascii.bytes "HTTP/1.1" then .error ⟨.malformedRequestLine, "version must be HTTP/1.1"⟩
      else .ok ⟨method, target, version⟩

def isTokenByte (byte : UInt8) : Bool :=
  Ascii.isAlphanumeric byte || (Ascii.bytes "!#$%&'*+-.^_`|~").contains byte

def isControl (byte : UInt8) : Bool :=
  byte == 0 || (byte < 0x20 && byte != 9) || byte == 0x7f

def parseHeaderLine (input : List UInt8) (nameMaxBytes valueMaxBytes : Nat) : Except HttpError HeaderEntry :=
  match Lines.splitOnce 58 input with
  | none => .error ⟨.malformedField, "header line missing colon"⟩
  | some (rawName, rawValue) =>
    match rawName with
    | [] => .error ⟨.malformedField, "header name is empty"⟩
    | first :: _ =>
      if nameMaxBytes < rawName.length then .error ⟨.malformedField, "header name exceeds the ceiling"⟩
      else if !(Ascii.isAlphanumeric first || first == 33) then
        .error ⟨.malformedField, "header name has invalid first byte"⟩
      else if !rawName.all isTokenByte then .error ⟨.malformedField, "header name contains forbidden character"⟩
      else
        let value := Utf8.trim rawValue
        if value.isEmpty then .error ⟨.malformedField, "header value is empty"⟩
        else if valueMaxBytes < value.length then .error ⟨.malformedField, "header value exceeds the ceiling"⟩
        else if value.any isControl then .error ⟨.malformedField, "header value contains control bytes"⟩
        else .ok ⟨rawName.map Ascii.lower, value⟩

def fieldValues (name : List UInt8) (headers : List HeaderEntry) : List (List UInt8) :=
  (headers.filter fun entry => entry.name = name).map HeaderEntry.value

def enforceNoSmuggling (headers : List HeaderEntry) (method : List UInt8) : Except HttpError Unit :=
  let contentLengthValues := fieldValues (Ascii.bytes "content-length") headers
  let transferEncodingPresent := headers.any fun entry => entry.name = Ascii.bytes "transfer-encoding"
  if contentLengthValues.tail.any fun value => some value ≠ contentLengthValues.head? then
    .error ⟨.smugglingAmbiguity, "conflicting Content-Length values"⟩
  else if transferEncodingPresent && !contentLengthValues.isEmpty then
    .error ⟨.smugglingAmbiguity, "Transfer-Encoding with Content-Length is rejected"⟩
  else if (method = Ascii.bytes "GET" ∨ method = Ascii.bytes "HEAD") ∧
      (!contentLengthValues.isEmpty || transferEncodingPresent) then
    .error ⟨.smugglingAmbiguity, "GET/HEAD must not carry framing headers"⟩
  else .ok ()

def enforceHostUniqueness (headers : List HeaderEntry) : Except HttpError Unit :=
  if 1 < (fieldValues (Ascii.bytes "host") headers).length then
    .error ⟨.malformedHeaders, "duplicate Host authority is rejected"⟩
  else .ok ()

/-- The loop of `parse_request_head` over the lines behind the request line. -/
def parseHeaders (limits : HttpLimits) : List (List UInt8) → List HeaderEntry → Except HttpError (List HeaderEntry)
  | [], headers => .ok headers
  | raw :: lines, headers =>
    if raw.isEmpty then .ok headers
    else if limits.headerCountMax ≤ headers.length then .error ⟨.malformedHeaders, "header count exceeds ceiling"⟩
    else if limits.totalHeaderBytesMax < raw.length then
      .error ⟨.malformedHeaders, "header line exceeds the ceiling"⟩
    else if raw.head? = some 32 ∨ raw.head? = some 9 then .error ⟨.malformedField, "obs-fold is rejected"⟩
    else do
      let entry ← parseHeaderLine raw limits.fieldNameMaxBytes limits.fieldValueMaxBytes
      parseHeaders limits lines (headers ++ [entry])

def parseRequestHead (buffer : List UInt8) (limits : HttpLimits) : Except HttpError HttpRequestHead :=
  if limits.retainedBufferMaxBytes < buffer.length then
    .error ⟨.bufferCeilingExceeded, "input buffer exceeds retained ceiling"⟩
  else match findHeaderEnd buffer with
    | none => .error ⟨.malformedHeaders, "header section terminator not found within retained buffer"⟩
    | some bodyOffset =>
      let head := buffer.take bodyOffset
      if !Utf8.valid head then .error ⟨.malformedHeaders, "header bytes are not valid UTF-8"⟩
      else match Lines.splitCrlf head with
        | [] => .error ⟨.malformedRequestLine, "request line is missing"⟩
        | requestLine :: lines => do
          let line ← parseRequestLine requestLine limits.requestLineMaxBytes
          let headers ← parseHeaders limits lines []
          enforceNoSmuggling headers line.method
          enforceHostUniqueness headers
          return ⟨line, headers, buffer.drop bodyOffset⟩

end I2pr.Http

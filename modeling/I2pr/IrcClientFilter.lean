import I2pr.Lib.Ascii
import I2pr.Lib.Utf8

namespace I2pr.Irc

open Ascii (bytes)

inductive IrcCommand where
  | pass
  | cap
  | authenticate
  | nick
  | user
  | server
  | ping
  | pong
  | join
  | part
  | quit
  | privmsg
  | notice
  | mode
  | topic
  | away
  | names
  | list
  | who
  | whois
  | whowas
  | ison
  | invite
  | kick
  | userhost
  | numericReply
  | serverCommand
deriving DecidableEq, Repr

inductive IrcCommandClass where
  | known (command : IrcCommand)
  | unknown
deriving DecidableEq, Repr

structure ParsedLine where
  command : IrcCommandClass
  linePrefix : Option (List UInt8)
  args : List (List UInt8)
  hasTrailing : Bool

variable (parsed : ParsedLine)

def ParsedLine.trailing : Option (List UInt8) :=
  if !parsed.hasTrailing then none else parsed.args.getLast?

inductive IrcErrorKind where
  | invalidTag

structure IrcError where
  kind : IrcErrorKind
  reason : String

/-- `from_utf8(bytes).unwrap_or("")`. -/
def lossy (bytes : List UInt8) : List UInt8 :=
  if Utf8.valid bytes then bytes else []

def splitAtSpace (bytes : List UInt8) : Option (List UInt8 × List UInt8) :=
  match bytes.dropWhile (· ≠ 32) with
  | [] => none
  | _ :: rest => some (bytes.takeWhile (· ≠ 32), rest)

def commandNames : List (List UInt8 × IrcCommand) :=
  [(bytes "PASS", .pass), (bytes "CAP", .cap), (bytes "AUTHENTICATE", .authenticate),
    (bytes "NICK", .nick), (bytes "USER", .user), (bytes "SERVER", .server),
    (bytes "PING", .ping), (bytes "PONG", .pong), (bytes "JOIN", .join),
    (bytes "PART", .part), (bytes "QUIT", .quit), (bytes "PRIVMSG", .privmsg),
    (bytes "NOTICE", .notice), (bytes "MODE", .mode), (bytes "TOPIC", .topic),
    (bytes "AWAY", .away), (bytes "NAMES", .names), (bytes "LIST", .list),
    (bytes "WHO", .who), (bytes "WHOIS", .whois), (bytes "WHOWAS", .whowas),
    (bytes "ISON", .ison), (bytes "INVITE", .invite), (bytes "KICK", .kick),
    (bytes "USERHOST", .userhost), (bytes "ACCOUNT", .serverCommand),
    (bytes "CHGHOST", .serverCommand), (bytes "ERROR", .serverCommand)]

def classifyCommandName (name : List UInt8) : IrcCommandClass :=
  match commandNames.lookup name with
  | some command => .known command
  | none => if name.length = 3 ∧ name.all (fun byte => 48 ≤ byte ∧ byte ≤ 57) then .known .numericReply else .unknown

def splitCommandAndArgs (input : List UInt8) : List UInt8 × List UInt8 :=
  (splitAtSpace input).getD (input, [])

/-- The loop of `parse_args`: `current` is the argument that starts at `start`, so a colon opens the trailing parameter
where it is empty. -/
def parseArgsLoop (args : List (List UInt8)) (current : List UInt8) : List UInt8 → List (List UInt8) × Bool
  | [] => (if current.isEmpty then args else args ++ [lossy current], false)
  | byte :: rest =>
    if byte = 58 ∧ current.isEmpty then (args ++ [lossy rest], true)
    else if byte = 32 then parseArgsLoop (if current.isEmpty then args else args ++ [lossy current]) [] rest
    else parseArgsLoop args (current ++ [byte]) rest

def parseArgs (tail : List UInt8) : List (List UInt8) × Bool :=
  parseArgsLoop [] [] tail

/-- `classify_core` once the prefix is off. -/
def classifyRemainder (linePrefix : Option (List UInt8)) (remainder : List UInt8) : ParsedLine :=
  if remainder.isEmpty then ⟨.unknown, linePrefix, [], false⟩
  else
    let (head, trailing) := splitCommandAndArgs remainder
    if !Utf8.valid head then ⟨.unknown, linePrefix, [], false⟩
    else
      let (args, hasTrailing) := parseArgs trailing
      ⟨classifyCommandName (head.map Ascii.upper), linePrefix, args, hasTrailing⟩

def classifyCore (core : List UInt8) : Except IrcError ParsedLine :=
  if core.isEmpty then .ok ⟨.unknown, none, [], false⟩
  else if core.any (fun byte => byte = 0 ∨ byte = 13 ∨ byte = 10) then
    .error ⟨.invalidTag, "core line contains CR/LF/NUL"⟩
  else if core.head? = some 58 then
    match splitAtSpace core with
    | some (before, remainder) => .ok (classifyRemainder (some (before.drop 1)) remainder)
    | none => .ok ⟨.unknown, some (core.drop 1), [], false⟩
  else .ok (classifyRemainder none core)

inductive IrcDropReason where
  | unknownCommand
  | dccBlocked
  | unsupportedCtcp
  | malformedCtcp
  | realnameTooLong
  | badUserField
deriving DecidableEq, Repr

inductive FilterOutcome where
  | allow
  | rewrite (line : List UInt8)
  | drop (reason : IrcDropReason)
deriving DecidableEq, Repr

structure PrivacySubstitutions where
  userHostname : List UInt8
  userServername : List UInt8

def PrivacySubstitutions.default : PrivacySubstitutions :=
  ⟨bytes "i2p", bytes "localhost"⟩

inductive ReasonRewritePolicy where
  | keep
  | replaceStable
deriving DecidableEq, Repr

def crlf : List UInt8 := [13, 10]

def ParsedLine.renderPrefix : List UInt8 :=
  parsed.linePrefix.elim [] fun bytes => 58 :: (bytes ++ [32])

def rewriteUser (maxRealnameBytes : Nat) (substitutions : PrivacySubstitutions) : FilterOutcome :=
  match parsed.args with
  | username :: _ :: _ :: realname :: _ =>
    if maxRealnameBytes < realname.length then .drop .realnameTooLong
    else if 0 ∈ username ∨ 0 ∈ substitutions.userHostname ∨ 0 ∈ substitutions.userServername ∨ 0 ∈ realname then
      .drop .badUserField
    else .rewrite (parsed.renderPrefix ++ (bytes "USER" ++ 32 :: (username ++ 32 :: (substitutions.userHostname ++
      32 :: (substitutions.userServername ++ 32 :: 58 :: (realname ++ crlf))))))
  | _ => .drop .badUserField

def rewriteReason (policy : ReasonRewritePolicy) (command : List UInt8) : FilterOutcome :=
  match parsed.trailing with
  | none => .allow
  | some reason =>
    if policy = .replaceStable then
      if 0 ∈ reason then .allow else .rewrite (parsed.renderPrefix ++ (command ++ crlf))
    else .allow

def ctcpCommand (inner : List UInt8) : List UInt8 :=
  (((splitAtSpace inner).map Prod.fst).getD inner).map Ascii.upper

def decideCtcpCommand : FilterOutcome :=
  match parsed.trailing with
  | none => .allow
  | some bytes =>
    let delimiterCount := bytes.count 1
    if delimiterCount = 0 then .allow
    else if delimiterCount ≠ 2 ∨ bytes.head? ≠ some 1 ∨ bytes.getLast? ≠ some 1 then .drop .malformedCtcp
    else
      let command := ctcpCommand ((bytes.drop 1).dropLast)
      if command = Ascii.bytes "ACTION" then .allow
      else if command = Ascii.bytes "DCC" then .drop .dccBlocked
      else .drop .unsupportedCtcp

def decideClientToServer (policy : ReasonRewritePolicy) (substitutions : PrivacySubstitutions)
    (maxRealnameBytes : Nat) : FilterOutcome :=
  match parsed.command with
  | .unknown => .drop .unknownCommand
  | .known .user => rewriteUser parsed maxRealnameBytes substitutions
  | .known .privmsg | .known .notice => decideCtcpCommand parsed
  | .known .quit => rewriteReason parsed policy (bytes "QUIT")
  | .known .part => rewriteReason parsed policy (bytes "PART")
  | .known _ => .allow

def ircCoreMaxBytes : Nat := 512
def ircTagEnvelopeMaxBytes : Nat := 8191

/-- The core of a line, and `none` for a malformed envelope. -/
def splitTagEnvelope (line : List UInt8) : Option (List UInt8) :=
  if line.head? ≠ some 64 then some line
  else match splitAtSpace line with
    | none => none
    | some (envelope, core) => if ircTagEnvelopeMaxBytes < envelope.length then none else some core

/-- What becomes of one line from the client. -/
inductive LineResult where
  | structuralFailure
  | dropped (reason : IrcDropReason)
  | emitted (bytes : List UInt8)

/-- The body of the loop of `run_irc_filtered_loop` over the lines of the client. -/
def filterLine (policy : ReasonRewritePolicy) (maxRealnameBytes : Nat) (line : List UInt8) : LineResult :=
  if ircCoreMaxBytes < line.length + 2 then .structuralFailure
  else match splitTagEnvelope line with
    | none => .structuralFailure
    | some core =>
      match classifyCore core with
      | .error _ => .structuralFailure
      | .ok parsed =>
        match decideClientToServer parsed policy .default maxRealnameBytes with
        | .allow => .emitted (line ++ crlf)
        | .rewrite line => .emitted line
        | .drop reason => .dropped reason

end I2pr.Irc

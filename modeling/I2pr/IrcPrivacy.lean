import I2pr.IrcClientFilter
import I2pr.Lib.Lines

namespace I2pr.Irc

open List Option

open Ascii (bytes)

/-- A line as the grammar splits it, with its command in upper case. -/
structure Message where
  command : List UInt8
  middles : List (List UInt8)
  trailing : Option (List UInt8)
deriving DecidableEq

def Message.params (m : Message) : List (List UInt8) :=
  m.middles ++ m.trailing.toList

def readParams (word : List UInt8) : List UInt8 → List (List UInt8) × Option (List UInt8)
  | [] => (if word = [] then [] else [word], none)
  | byte :: rest =>
    if byte = 58 ∧ word = [] then ([], some rest)
    else if byte = 32 then ((if word = [] then [] else [word]) ++ (readParams [] rest).1, (readParams [] rest).2)
    else readParams (word ++ [byte]) rest

def readCommand (body : List UInt8) : Option Message :=
  let (head, tail) := (splitAtSpace body).getD (body, [])
  if head = [] then none else some ⟨head.map Ascii.upper, (readParams [] tail).1, (readParams [] tail).2⟩

def readCore (core : List UInt8) : Option Message :=
  if core.head? = some 58 then (splitAtSpace core).bind fun split => readCommand split.2 else readCommand core

def readLine (line : List UInt8) : Option Message :=
  if line.head? = some 64 then (splitAtSpace line).bind fun split => readCore split.2 else readCore line

/-- Delimiters at both ends, none between them, and the word ACTION. -/
def IsAction (param : List UInt8) : Prop :=
  param.count 1 = 2 ∧ param.head? = some 1 ∧ param.getLast? = some 1 ∧
    ((((param.drop 1).dropLast).takeWhile (· ≠ 32)).map Ascii.upper) = bytes "ACTION"

instance (param : List UInt8) : Decidable (IsAction param) :=
  inferInstanceAs (Decidable (_ ∧ _ ∧ _ ∧ _))

/-- No delimiter in any parameter, except those of one ACTION. -/
def CtcpClean (params : List (List UInt8)) : Prop :=
  (params.filter fun param => 1 ∈ param).length ≤ 1 ∧ ∀ param ∈ params, 1 ∈ param → IsAction param

instance (params : List (List UInt8)) : Decidable (CtcpClean params) :=
  inferInstanceAs (Decidable (_ ∧ _))

def Message.IsText (m : Message) : Prop :=
  m.command = bytes "PRIVMSG" ∨ m.command = bytes "NOTICE"

/-- What an emitted message may tell of the one the client sent. -/
@[mk_iff]
structure Hides (policy : ReasonRewritePolicy) (original out : Message) : Prop where
  text : out.IsText → CtcpClean out.params
  user : out.command = bytes "USER" → ∃ username realname, original.params[0]? = some username ∧
    original.params[3]? = some realname ∧
    out.params = [username, bytes "i2p", bytes "localhost", realname]
  quit : policy = .replaceStable → out.command = bytes "QUIT" → out.params = []
  part : policy = .replaceStable → out.command = bytes "PART" → out.params = original.params.take 1

/-- What is emitted for a line hides what it should. -/
def Protected (policy : ReasonRewritePolicy) (maxRealnameBytes : Nat) (line : List UInt8) : Prop :=
  ∀ bytes, filterLine policy maxRealnameBytes line = .emitted bytes →
    ∃ body original out, bytes = body ++ crlf ∧ readLine line = some original ∧ readLine body = some out ∧
      Hides policy original out

/-- The messages the filter deals with as it should. A text is dropped for a trailing parameter in UTF-8 with
delimiters other than those of an ACTION, and a USER for a realname that is too long. -/
@[mk_iff]
structure Guarded (policy : ReasonRewritePolicy) (maxRealnameBytes : Nat) (m : Message) : Prop where
  text : m.IsText → (∃ trailing, m.trailing = some trailing ∧ Utf8.valid trailing ∧ 1 ∈ trailing ∧
    ¬ IsAction trailing) ∨ CtcpClean m.params
  user : m.command = bytes "USER" → ∀ username realname, m.params[0]? = some username →
    m.params[3]? = some realname →
    Utf8.valid realname ∧ (maxRealnameBytes < realname.length ∨ Utf8.valid username)
  quit : policy = .replaceStable → m.command = bytes "QUIT" → m.trailing.isSome ∨ m.params = []
  part : policy = .replaceStable → m.command = bytes "PART" → m.trailing = none ∧ m.params.length ≤ 1

section Reading

theorem splitAtSpace_eq_some {bytes before rest : List UInt8} :
    splitAtSpace bytes = some (before, rest) ↔ bytes = before ++ 32 :: rest ∧ 32 ∉ before :=
  Lines.splitOnce_eq_some

def IsMiddle (word : List UInt8) : Prop :=
  word ≠ [] ∧ 32 ∉ word ∧ word.head? ≠ some 58

variable {word name body core : List UInt8} {command : IrcCommand}

theorem mem_single {param : List UInt8} : param ∈ (if word = [] then [] else [word]) ↔ word ≠ [] ∧ param = word := by
  split <;> simp [*]

theorem isMiddle_of_mem_readParams {tail : List UInt8} (hword : word = [] ∨ IsMiddle word) :
    ∀ middle ∈ (readParams word tail).1, IsMiddle middle := by
  have hsingle : ∀ middle ∈ (if word = [] then [] else [word]), IsMiddle middle := by
    intro middle hmiddle
    obtain ⟨hne, rfl⟩ := mem_single.mp hmiddle
    exact hword.resolve_left hne
  induction tail generalizing word with
  | nil => exact hsingle
  | cons byte rest ih =>
    rw [readParams]
    split
    · simp
    next hcolon =>
      split
      · rw [forall_mem_append]
        exact ⟨hsingle, ih (.inl rfl) (by simp)⟩
      next hspace =>
        have hmiddle : IsMiddle (word ++ [byte]) := by
          rcases hword with rfl | ⟨hne, hnot, hhead⟩
          · refine ⟨by simp, by simpa using Ne.symm hspace, ?_⟩
            simpa using hcolon
          · refine ⟨by simp, by simp [hnot, Ne.symm hspace], ?_⟩
            rwa [head?_append_of_ne_nil _ hne]
        refine ih (.inr hmiddle) ?_
        simpa using hmiddle

theorem mem_of_mem_readParams {tail : List UInt8} :
    ∀ param ∈ (readParams word tail).1 ++ (readParams word tail).2.toList, ∀ byte ∈ param,
      byte ∈ word ∨ byte ∈ tail := by
  induction tail generalizing word with
  | nil =>
    intro param hparam byte hbyte
    rw [readParams, toList_none, append_nil] at hparam
    exact .inl ((mem_single.mp hparam).2 ▸ hbyte)
  | cons first rest ih =>
    intro param hparam byte hbyte
    rw [readParams] at hparam
    split at hparam
    · rw [nil_append, toList_some, mem_singleton] at hparam
      exact .inr (mem_cons_of_mem _ (hparam ▸ hbyte))
    · split at hparam
      · rw [append_assoc, mem_append] at hparam
        rcases hparam with hparam | hparam
        · exact .inl ((mem_single.mp hparam).2 ▸ hbyte)
        · have hrest := ih param hparam byte hbyte
          exact .inr (mem_cons_of_mem _ (hrest.resolve_left not_mem_nil))
      · have hmore := ih param hparam byte hbyte
        rw [mem_append, mem_singleton] at hmore
        rcases hmore with (hword | rfl) | hrest
        · exact .inl hword
        · exact .inr mem_cons_self
        · exact .inr (mem_cons_of_mem _ hrest)

theorem readParams_append {middle rest : List UInt8} (hmiddle : IsMiddle (word ++ middle)) :
    readParams word (middle ++ 32 :: rest) =
      ((word ++ middle) :: (readParams [] rest).1, (readParams [] rest).2) := by
  induction middle generalizing word with
  | nil =>
    have hne : word ≠ [] := by simpa using hmiddle.1
    simp [readParams, hne]
  | cons byte middle ih =>
    have hbyte : byte ≠ 32 := by
      rintro rfl
      exact hmiddle.2.1 (by simp)
    have hcolon : ¬ (byte = 58 ∧ word = []) := by
      rintro ⟨rfl, rfl⟩
      exact hmiddle.2.2 rfl
    rw [cons_append, readParams, if_neg hcolon, if_neg hbyte, ih (by simpa using hmiddle)]
    simp

/-- The arguments of the filter are the parameters, emptied where they are not UTF-8. -/
theorem parseArgsLoop_eq (args : List (List UInt8)) (current tail : List UInt8) :
    parseArgsLoop args current tail = (args ++ ((readParams current tail).1 ++ (readParams current tail).2.toList).map lossy,
      (readParams current tail).2.isSome) := by
  induction tail generalizing args current with
  | nil =>
    rw [parseArgsLoop, readParams]
    split <;> simp_all
  | cons byte rest ih =>
    rw [parseArgsLoop, readParams]
    simp only [List.isEmpty_iff]
    split
    · simp
    · split
      · rw [ih]
        split <;> simp
      · rw [ih]

theorem readCommand_append (hne : name ≠ []) (hspace : 32 ∉ name) (tail : List UInt8) :
    readCommand (name ++ 32 :: tail) = some ⟨name.map Ascii.upper, (readParams [] tail).1, (readParams [] tail).2⟩ := by
  unfold readCommand
  rw [splitAtSpace_eq_some.mpr ⟨rfl, hspace⟩]
  exact if_neg hne

structure Message.Readable (m : Message) (core : List UInt8) : Prop where
  middle : ∀ middle ∈ m.middles, IsMiddle middle
  mem : ∀ param ∈ m.params, ∀ byte ∈ param, byte ∈ core

theorem readable_of_readCommand {m : Message} (h : readCommand body = some m) : m.Readable body := by
  unfold readCommand at h
  dsimp only at h
  split at h
  · cases h
  cases h
  refine ⟨isMiddle_of_mem_readParams (.inl rfl), fun param hparam byte hbyte => ?_⟩
  have htail := (mem_of_mem_readParams param hparam byte hbyte).resolve_left not_mem_nil
  cases hsplit : splitAtSpace body with
  | none =>
    rw [hsplit] at htail
    cases htail
  | some split =>
    rw [hsplit] at htail
    rw [(splitAtSpace_eq_some.mp hsplit).1]
    exact mem_append_right _ (mem_cons_of_mem _ htail)

theorem readable_of_readCore {m : Message} (h : readCore core = some m) : m.Readable core := by
  unfold readCore at h
  split at h
  · obtain ⟨⟨before, body⟩, hsplit, hbody⟩ := bind_eq_some_iff.mp h
    have hreadable := readable_of_readCommand hbody
    refine ⟨hreadable.middle, fun param hparam byte hbyte => ?_⟩
    rw [(splitAtSpace_eq_some.mp hsplit).1]
    exact mem_append_right _ (mem_cons_of_mem _ (hreadable.mem param hparam byte hbyte))
  · exact readable_of_readCommand h

theorem classifyCommandName_eq_known (h : classifyCommandName name = .known command) : (name, command) ∈ commandNames ∨
      (command = .numericReply ∧ ∀ byte ∈ name, byte < 128) := by
  unfold classifyCommandName at h
  split at h
  next found hfound =>
    cases h
    obtain ⟨before, after, htable, -⟩ := lookup_eq_some_iff.mp hfound
    exact .inl (by rw [htable]; simp)
  · split at h
    next hdigits =>
      cases h
      refine .inr ⟨rfl, fun byte hbyte => ?_⟩
      have hdigit := all_eq_true.mp hdigits.2 byte hbyte
      rw [decide_eq_true_iff, UInt8.le_iff_toNat_le, UInt8.le_iff_toNat_le] at hdigit
      rw [UInt8.lt_iff_toNat_lt]
      exact Nat.lt_of_le_of_lt hdigit.2 (by decide)
    · cases h

theorem lt_of_known (h : classifyCommandName name = .known command) : ∀ byte ∈ name, byte < 128 := by
  rcases classifyCommandName_eq_known h with hmem | ⟨-, hdigits⟩
  · have htable : ∀ entry ∈ commandNames, ∀ byte ∈ entry.1, byte < 128 := by decide +kernel
    exact htable _ hmem
  · exact hdigits

theorem valid_of_known {head : List UInt8}
    (h : classifyCommandName (head.map Ascii.upper) = .known command) : Utf8.valid head = true := by
  refine Utf8.valid_of_ascii fun byte hbyte => Ascii.lt_of_upper_lt ?_
  exact lt_of_known h _ (mem_map_of_mem hbyte)

/-- What the filter sees of a message. -/
structure Sees (parsed : ParsedLine) (m : Message) : Prop where
  command : parsed.command = classifyCommandName m.command
  linePrefix : ∀ bytes ∈ parsed.linePrefix, 32 ∉ bytes
  args : parsed.command ≠ .unknown → parsed.args = m.params.map lossy ∧ parsed.hasTrailing = m.trailing.isSome

theorem classifyRemainder_unread (linePrefix : Option (List UInt8)) (h : readCommand body = none) :
    (classifyRemainder linePrefix body).command = .unknown := by
  unfold readCommand at h
  dsimp only at h
  split at h
  next hhead =>
    unfold classifyRemainder splitCommandAndArgs
    split
    · rfl
    dsimp only
    rw [hhead]
    rfl
  · cases h

theorem classifyRemainder_sees {linePrefix : Option (List UInt8)} {m : Message}
    (hbefore : ∀ bytes ∈ linePrefix, 32 ∉ bytes) (h : readCommand body = some m) :
    Sees (classifyRemainder linePrefix body) m := by
  have hbody : body.isEmpty = false := by
    cases body with
    | nil => cases h
    | cons => rfl
  unfold readCommand at h
  dsimp only at h
  obtain ⟨hhead, h⟩ := ite_none_left_eq_some.mp h
  cases h
  unfold classifyRemainder splitCommandAndArgs
  rw [hbody]
  dsimp only
  cases hvalid : Utf8.valid ((splitAtSpace body).getD (body, [])).1 with
  | false =>
    refine ⟨?_, hbefore, fun hknown => absurd rfl hknown⟩
    cases hname : classifyCommandName (((splitAtSpace body).getD (body, [])).1.map Ascii.upper) with
    | unknown => rfl
    | known => rw [valid_of_known hname] at hvalid; cases hvalid
  | true =>
    refine ⟨rfl, hbefore, fun _ => ?_⟩
    dsimp only
    rw [parseArgs, parseArgsLoop_eq]
    exact ⟨rfl, rfl⟩

/-- Bytes the filter takes as the core of a line. -/
def Clean (core : List UInt8) : Prop := 0 ∉ core ∧ 13 ∉ core ∧ 10 ∉ core

theorem classifyCore_of_clean (hclean : Clean core) :
    ∃ parsed, classifyCore core = .ok parsed ∧ (readCore core = none → parsed.command = .unknown) ∧
      ∀ m, readCore core = some m → Sees parsed m := by
  have hany : core.any (fun byte => byte = 0 ∨ byte = 13 ∨ byte = 10) = false := by
    rw [List.any_eq_false]
    rintro byte hbyte hbad
    rw [decide_eq_true_iff] at hbad
    rcases hbad with rfl | rfl | rfl
    · exact hclean.1 hbyte
    · exact hclean.2.1 hbyte
    · exact hclean.2.2 hbyte
  unfold classifyCore readCore
  cases hcore : core.isEmpty with
  | true =>
    rw [List.isEmpty_iff] at hcore
    subst hcore
    exact ⟨_, rfl, fun _ => rfl, fun m hm => by cases hm⟩
  | false =>
    simp only [hany, Bool.false_eq_true, if_false]
    split
    · cases hsplit : splitAtSpace core with
      | none => exact ⟨_, rfl, fun _ => rfl, fun m hm => by cases hm⟩
      | some split =>
        obtain ⟨before, remainder⟩ := split
        refine ⟨_, rfl, fun h => classifyRemainder_unread _ h, fun m hm => classifyRemainder_sees ?_ hm⟩
        intro bytes hbytes
        cases hbytes
        exact fun hmem => (splitAtSpace_eq_some.mp hsplit).2 (List.mem_of_mem_drop hmem)
    · exact ⟨_, rfl, fun h => classifyRemainder_unread _ h, fun m hm => classifyRemainder_sees (by simp) hm⟩

theorem classifyCore_of_nul (h : 0 ∈ core) : ∃ e, classifyCore core = .error e := by
  have hne : core.isEmpty = false := by
    cases core with
    | nil => cases h
    | cons => rfl
  have hany : core.any (fun byte => byte = 0 ∨ byte = 13 ∨ byte = 10) = true :=
    any_eq_true.mpr ⟨0, h, by simp⟩
  unfold classifyCore
  rw [hne, hany]
  exact ⟨_, rfl⟩

theorem readLine_of_splitTagEnvelope {line : List UInt8} (h : splitTagEnvelope line = some core) :
    readLine line = readCore core ∧ ∀ byte ∈ core, byte ∈ line := by
  unfold splitTagEnvelope at h
  unfold readLine
  split at h
  next hhead =>
    cases h
    exact ⟨if_neg hhead, fun byte hbyte => hbyte⟩
  next hhead =>
    rw [if_pos (not_not.mp hhead)]
    split at h
    · cases h
    next envelope core' hsplit =>
      split at h
      · cases h
      cases h
      refine ⟨by rw [hsplit]; rfl, fun byte hbyte => ?_⟩
      rw [(splitAtSpace_eq_some.mp hsplit).1]
      simp [hbyte]

theorem readLine_renderPrefix {parsed : ParsedLine}
    (hbefore : ∀ bytes ∈ parsed.linePrefix, 32 ∉ bytes) (hcolon : body.head? ≠ some 58) (hat : body.head? ≠ some 64) :
    readLine (parsed.renderPrefix ++ body) = readCommand body := by
  unfold ParsedLine.renderPrefix
  cases hlinePrefix : parsed.linePrefix with
  | none =>
    rw [elim_none, nil_append, readLine, if_neg hat, readCore, if_neg hcolon]
  | some bytes =>
    have hnot := hbefore bytes hlinePrefix
    have hsplit : splitAtSpace (58 :: (bytes ++ [32]) ++ body) = some (58 :: bytes, body) :=
      splitAtSpace_eq_some.mpr ⟨by simp, by simpa using hnot⟩
    rw [elim_some, readLine, if_neg (by simp), readCore, if_pos (by simp), hsplit]
    rfl

end Reading

section Decisions

variable {policy : ReasonRewritePolicy} {maxRealnameBytes : Nat} {line : List UInt8} {parsed : ParsedLine} {m : Message}

theorem Sees.trailing (h : Sees parsed m) (hknown : parsed.command ≠ .unknown) :
    parsed.trailing = m.trailing.map lossy := by
  obtain ⟨hargs, htrailing⟩ := h.args hknown
  unfold ParsedLine.trailing
  rw [hargs, htrailing, Message.params]
  cases m.trailing with
  | none => rfl
  | some trailing => simp

theorem lossy_of_valid {bytes : List UInt8} (h : Utf8.valid bytes = true) : lossy bytes = bytes :=
  if_pos h

theorem lossy_of_not_valid {bytes : List UInt8} (h : ¬ Utf8.valid bytes = true) : lossy bytes = [] :=
  if_neg h

theorem ctcpCommand_eq (inner : List UInt8) : ctcpCommand inner = (inner.takeWhile (· ≠ 32)).map Ascii.upper := by
  unfold ctcpCommand splitAtSpace
  split
  next hdrop =>
    have hall := takeWhile_append_dropWhile (p := (· ≠ 32)) (l := inner)
    rw [hdrop, append_nil] at hall
    rw [hall]
    rfl
  · rfl

theorem decideCtcpCommand_cases (hsees : parsed.trailing = m.trailing.map lossy) :
    (decideCtcpCommand parsed = .allow ∧ ∀ trailing ∈ m.trailing, 1 ∈ lossy trailing → IsAction (lossy trailing)) ∨
      (∃ reason, decideCtcpCommand parsed = .drop reason) ∧
        ∃ trailing ∈ m.trailing, 1 ∈ lossy trailing ∧ ¬ IsAction (lossy trailing) := by
  unfold decideCtcpCommand
  rw [hsees]
  cases m.trailing with
  | none => exact .inl ⟨rfl, by simp⟩
  | some trailing =>
    simp only [map_some, mem_some_iff, forall_eq', exists_eq_left']
    split
    next hcount => exact .inl ⟨rfl, fun hmem => absurd (count_pos_iff.mpr hmem) (by omega)⟩
    next hcount =>
      have hmem : 1 ∈ lossy trailing := count_pos_iff.mp (Nat.pos_of_ne_zero hcount)
      rw [ctcpCommand_eq]
      split
      next hmalformed =>
        refine .inr ⟨⟨_, rfl⟩, hmem, fun haction => ?_⟩
        rcases hmalformed with h | h | h
        · exact h haction.1
        · exact h haction.2.1
        · exact h haction.2.2.1
      next hwell =>
        simp only [not_or, not_not] at hwell
        split
        next haction => exact .inl ⟨rfl, fun _ => ⟨hwell.1, hwell.2.1, hwell.2.2, haction⟩⟩
        next haction =>
          refine .inr ⟨?_, hmem, fun h => haction h.2.2.2⟩
          split <;> exact ⟨_, rfl⟩

theorem rewriteReason_eq (policy : ReasonRewritePolicy) (hsees : parsed.trailing = m.trailing.map lossy)
    (hnul : ∀ param ∈ m.params, 0 ∉ lossy param) (name : List UInt8) :
    rewriteReason parsed policy name = if m.trailing.isSome ∧ policy = .replaceStable then
      .rewrite (parsed.renderPrefix ++ (name ++ crlf)) else .allow := by
  unfold rewriteReason
  rw [hsees]
  cases hreason : m.trailing with
  | none => simp
  | some reason =>
    have hclean : 0 ∉ lossy reason := hnul reason (by simp [Message.params, hreason])
    simp [hclean]

theorem protected_iff_of_emitted {body : List UInt8} {out : Message}
    (h : filterLine policy maxRealnameBytes line = .emitted (body ++ crlf)) (hm : readLine line = some m)
    (hout : readLine body = some out) : Protected policy maxRealnameBytes line ↔ Hides policy m out := by
  constructor
  · intro hprotected
    obtain ⟨body', original, out', hbytes, horiginal, hout', hhides⟩ := hprotected _ h
    cases append_cancel_right hbytes
    cases hm.symm.trans horiginal
    cases hout.symm.trans hout'
    exact hhides
  · intro hhides bytes hbytes
    cases h.symm.trans hbytes
    exact ⟨body, m, out, rfl, hm, hout, hhides⟩

theorem protected_of_not_emitted (h : ∀ bytes, filterLine policy maxRealnameBytes line ≠ .emitted bytes) :
    Protected policy maxRealnameBytes line :=
  fun bytes hbytes => absurd hbytes (h bytes)

def FilterOutcome.result (line : List UInt8) : FilterOutcome → LineResult
  | .allow => .emitted (line ++ crlf)
  | .rewrite line => .emitted line
  | .drop reason => .dropped reason

theorem filterLine_eq (policy : ReasonRewritePolicy) (maxRealnameBytes : Nat) {core : List UInt8}
    (hlength : line.length + 2 ≤ ircCoreMaxBytes)
    (hcore : splitTagEnvelope line = some core) (hparsed : classifyCore core = .ok parsed) :
    filterLine policy maxRealnameBytes line =
      (decideClientToServer parsed policy .default maxRealnameBytes).result line := by
  unfold filterLine
  rw [if_neg (not_lt.mpr hlength)]
  simp only [hcore, hparsed]
  cases decideClientToServer parsed policy .default maxRealnameBytes <;> rfl

theorem name_of_known {name expected : List UInt8} {command : IrcCommand}
    (h : classifyCommandName name = .known command) (hnumeric : command ≠ .numericReply)
    (hname : ∀ entry ∈ commandNames, entry.2 = command → entry.1 = expected) : name = expected :=
  hname _ ((classifyCommandName_eq_known h).resolve_right fun hreply => hnumeric hreply.1) rfl

/-- A message with no rule of its own. -/
structure Plain (m : Message) : Prop where
  text : ¬ m.IsText
  user : m.command ≠ bytes "USER"
  quit : m.command ≠ bytes "QUIT"
  part : m.command ≠ bytes "PART"

theorem Plain.hides (h : Plain m) (original : Message) : Hides policy original m :=
  ⟨fun htext => absurd htext h.text, fun huser => absurd huser h.user, fun _ hquit => absurd hquit h.quit,
    fun _ hpart => absurd hpart h.part⟩

theorem Plain.guarded (h : Plain m) : Guarded policy maxRealnameBytes m :=
  ⟨fun htext => absurd htext h.text, fun huser => absurd huser h.user, fun _ hquit => absurd hquit h.quit,
    fun _ hpart => absurd hpart h.part⟩

theorem Plain.decide_cases (h : Plain m) (hsees : Sees parsed m) :
    decideClientToServer parsed policy .default maxRealnameBytes = .allow ∨
      ∃ reason, decideClientToServer parsed policy .default maxRealnameBytes = .drop reason := by
  have hname {command expected} (hknown : parsed.command = .known command) :=
    @name_of_known _ expected _ (hsees.command.symm.trans hknown)
  unfold decideClientToServer
  split
  · exact .inr ⟨_, rfl⟩
  next hknown => exact absurd (hname hknown (by decide) (by decide +kernel)) h.user
  next hknown => exact absurd (.inl (hname hknown (by decide) (by decide +kernel))) h.text
  next hknown => exact absurd (.inr (hname hknown (by decide) (by decide +kernel))) h.text
  next hknown => exact absurd (hname hknown (by decide) (by decide +kernel)) h.quit
  next hknown => exact absurd (hname hknown (by decide) (by decide +kernel)) h.part
  · exact .inl rfl

-- A message has at most one of the four rules.
section OneRule

variable {original : Message}

theorem hides_iff_of_text (h : m.IsText) : Hides policy original m ↔ CtcpClean m.params := by
  rcases h with h | h <;> simp +decide [hides_iff, Message.IsText, h]

theorem hides_iff_of_user (h : m.command = bytes "USER") :
    Hides policy original m ↔ ∃ username realname, original.params[0]? = some username ∧
      original.params[3]? = some realname ∧ m.params = [username, bytes "i2p", bytes "localhost", realname] := by
  simp +decide [hides_iff, Message.IsText, h]

theorem hides_iff_of_quit (h : m.command = bytes "QUIT") :
    Hides policy original m ↔ (policy = .replaceStable → m.params = []) := by
  simp +decide [hides_iff, Message.IsText, h]

theorem hides_iff_of_part (h : m.command = bytes "PART") :
    Hides policy original m ↔ (policy = .replaceStable → m.params = original.params.take 1) := by
  simp +decide [hides_iff, Message.IsText, h]

theorem guarded_iff_of_text (h : m.IsText) : Guarded policy maxRealnameBytes m ↔
      (∃ trailing, m.trailing = some trailing ∧ Utf8.valid trailing ∧ 1 ∈ trailing ∧ ¬ IsAction trailing) ∨
        CtcpClean m.params := by
  rcases h with h | h <;> simp +decide [guarded_iff, Message.IsText, h]

theorem guarded_iff_of_quit (h : m.command = bytes "QUIT") :
    Guarded policy maxRealnameBytes m ↔ (policy = .replaceStable → m.trailing.isSome ∨ m.params = []) := by
  simp +decide [guarded_iff, Message.IsText, h]

theorem guarded_iff_of_part (h : m.command = bytes "PART") :
    Guarded policy maxRealnameBytes m ↔ (policy = .replaceStable → m.trailing = none ∧ m.params.length ≤ 1) := by
  simp +decide [guarded_iff, Message.IsText, h]

end OneRule

section Rules

variable (hresult : filterLine policy maxRealnameBytes line =
    (decideClientToServer parsed policy .default maxRealnameBytes).result line)
  (hm : readLine line = some m) (hsees : Sees parsed m)

include hresult hm hsees

omit hm hsees in
theorem protected_of_drop {reason : IrcDropReason}
    (h : decideClientToServer parsed policy .default maxRealnameBytes = .drop reason) :
    Protected policy maxRealnameBytes line := by
  rw [h] at hresult
  exact protected_of_not_emitted fun bytes hbytes => by cases hresult.symm.trans hbytes

theorem protected_iff_of_plain (h : Plain m) :
    Protected policy maxRealnameBytes line ↔ Guarded policy maxRealnameBytes m := by
  refine iff_of_true ?_ h.guarded
  rcases h.decide_cases hsees with hallow | ⟨reason, hdrop⟩
  · rw [hallow] at hresult
    exact (protected_iff_of_emitted hresult hm hm).mpr (h.hides m)
  · exact protected_of_drop hresult hdrop

theorem protected_iff_of_text (h : m.IsText) :
    Protected policy maxRealnameBytes line ↔ Guarded policy maxRealnameBytes m := by
  have hcommand : parsed.command = .known .privmsg ∨ parsed.command = .known .notice := by
    rw [hsees.command]
    rcases h with h | h
    · exact .inl (by rw [h]; decide)
    · exact .inr (by rw [h]; decide)
  have hdecide : decideClientToServer parsed policy .default maxRealnameBytes = decideCtcpCommand parsed := by
    unfold decideClientToServer
    rcases hcommand with hcommand | hcommand <;> rw [hcommand]
  have htrailing := hsees.trailing (by rcases hcommand with hcommand | hcommand <;> rw [hcommand] <;> decide)
  rw [guarded_iff_of_text h]
  rcases decideCtcpCommand_cases htrailing with ⟨hallow, haction⟩ | ⟨⟨reason, hdrop⟩, trailing, hmem, hdelimiter, hnot⟩
  · rw [hdecide, hallow] at hresult
    rw [protected_iff_of_emitted hresult hm hm, hides_iff_of_text h]
    constructor
    · exact .inr
    · rintro (⟨trailing, hmem, hvalid, hdelimiter, hnot⟩ | hclean)
      · have hlossy := haction trailing hmem
        rw [lossy_of_valid hvalid] at hlossy
        exact absurd (hlossy hdelimiter) hnot
      · exact hclean
  · refine iff_of_true (protected_of_drop hresult (hdecide.trans hdrop)) (.inl ?_)
    have hvalid : Utf8.valid trailing = true := by
      by_contra hinvalid
      rw [lossy_of_not_valid hinvalid] at hdelimiter
      cases hdelimiter
    rw [lossy_of_valid hvalid] at hdelimiter hnot
    exact ⟨trailing, hmem, hvalid, hdelimiter, hnot⟩

/-- A reason given as the trailing parameter leaves the bare command of the line. -/
theorem protected_iff_of_reason (name : List UInt8) (hnul : ∀ param ∈ m.params, 0 ∉ lossy param)
    (hknown : parsed.command ≠ .unknown) (hname : readCommand name = some ⟨name, [], none⟩)
    (hhead : name.head? ≠ some 58 ∧ name.head? ≠ some 64)
    (hdecide : decideClientToServer parsed policy .default maxRealnameBytes = rewriteReason parsed policy name) :
    Protected policy maxRealnameBytes line ↔
      Hides policy m (if m.trailing.isSome ∧ policy = .replaceStable then ⟨name, [], none⟩ else m) := by
  rw [hdecide, rewriteReason_eq policy (hsees.trailing hknown) hnul] at hresult
  split at hresult
  next hreason =>
    rw [FilterOutcome.result, ← append_assoc] at hresult
    rw [if_pos hreason]
    exact protected_iff_of_emitted hresult hm ((readLine_renderPrefix hsees.linePrefix hhead.1 hhead.2).trans hname)
  next hreason =>
    rw [if_neg hreason]
    exact protected_iff_of_emitted hresult hm hm

theorem protected_iff_of_quit (hnul : ∀ param ∈ m.params, 0 ∉ lossy param) (h : m.command = bytes "QUIT") :
    Protected policy maxRealnameBytes line ↔ Guarded policy maxRealnameBytes m := by
  have hcommand : parsed.command = .known .quit := by
    rw [hsees.command, h]
    decide
  rw [protected_iff_of_reason hresult hm hsees (bytes "QUIT") hnul (by simp [hcommand]) (by decide) (by decide)
    (by unfold decideClientToServer; rw [hcommand]), guarded_iff_of_quit h]
  split
  next hreason => exact iff_of_true ((hides_iff_of_quit rfl).mpr fun _ => rfl) fun _ => .inl hreason.1
  next hreason =>
    rw [hides_iff_of_quit h]
    refine imp_congr_right fun hpolicy => ?_
    have hnone : m.trailing = none := by simpa [hpolicy] using hreason
    simp [hnone]

theorem protected_iff_of_part (hnul : ∀ param ∈ m.params, 0 ∉ lossy param) (h : m.command = bytes "PART") :
    Protected policy maxRealnameBytes line ↔ Guarded policy maxRealnameBytes m := by
  have hcommand : parsed.command = .known .part := by
    rw [hsees.command, h]
    decide
  rw [protected_iff_of_reason hresult hm hsees (bytes "PART") hnul (by simp [hcommand]) (by decide) (by decide)
    (by unfold decideClientToServer; rw [hcommand]), guarded_iff_of_part h]
  split
  next hreason =>
    obtain ⟨reason, htrailing⟩ := isSome_iff_exists.mp hreason.1
    rw [hides_iff_of_part rfl]
    simp [Message.params, htrailing, hreason.2]
  next hreason =>
    rw [hides_iff_of_part h, eq_comm (a := m.params), take_eq_self_iff]
    refine imp_congr_right fun hpolicy => ?_
    have hnone : m.trailing = none := by simpa [hpolicy] using hreason
    simp [hnone]

def userBody (username realname : List UInt8) : List UInt8 :=
  bytes "USER" ++ 32 :: (username ++ 32 :: (bytes "i2p" ++ 32 :: (bytes "localhost" ++ 32 :: 58 :: realname)))

/-- A rewritten USER has the username as it was, and one parameter less if that is empty. -/
def userMessage (username realname : List UInt8) : Message :=
  ⟨bytes "USER", (if username = [] then [] else [username]) ++ [bytes "i2p", bytes "localhost"], some realname⟩

omit hresult hm hsees in
theorem readCommand_user {username : List UInt8} (husername : username = [] ∨ IsMiddle username)
    (realname : List UInt8) : readCommand (userBody username realname) = some (userMessage username realname) := by
  have hhost : IsMiddle ([] ++ bytes "i2p") := by
    unfold IsMiddle
    decide
  have hserver : IsMiddle ([] ++ bytes "localhost") := by
    unfold IsMiddle
    decide
  have hparams : readParams [] (username ++ 32 :: (bytes "i2p" ++ 32 :: (bytes "localhost" ++
      32 :: 58 :: realname))) = ((if username = [] then [] else [username]) ++
        [bytes "i2p", bytes "localhost"], some realname) := by
    rcases husername with rfl | husername
    · rw [nil_append, readParams, if_neg (by decide), if_pos rfl, readParams_append hhost,
        readParams_append hserver]
      rfl
    · rw [readParams_append (by simpa using husername), readParams_append hhost, readParams_append hserver,
        if_neg husername.1]
      rfl
  rw [userBody, readCommand_append (by decide) (by decide), hparams]
  rfl

omit hresult hm hsees in
theorem lossy_eq_self_iff {bytes : List UInt8} : lossy bytes = bytes ↔ Utf8.valid bytes = true := by
  refine ⟨fun h => ?_, lossy_of_valid⟩
  by_contra hinvalid
  rw [lossy_of_not_valid hinvalid] at h
  exact hinvalid (h ▸ rfl)

omit hresult hm hsees in
theorem hides_user_iff {username realname : List UInt8} (husername : m.params[0]? = some username)
    (hrealname : m.params[3]? = some realname) (hmiddle : IsMiddle username) :
    Hides policy m (userMessage (lossy username) (lossy realname)) ↔ Utf8.valid realname ∧ Utf8.valid username := by
  rw [hides_iff_of_user rfl]
  simp only [husername, hrealname, some.injEq, exists_eq_left', exists_and_left]
  by_cases hvalid : Utf8.valid username = true
  · simp [userMessage, Message.params, lossy_of_valid hvalid, hmiddle.1, lossy_eq_self_iff, hvalid]
  · simp [userMessage, Message.params, lossy_of_not_valid hvalid, hvalid]

theorem protected_iff_of_user (hreadable : ∀ middle ∈ m.middles, IsMiddle middle)
    (hnul : ∀ param ∈ m.params, 0 ∉ lossy param) (h : m.command = Ascii.bytes "USER") :
    Protected policy maxRealnameBytes line ↔ Guarded policy maxRealnameBytes m := by
  have hcommand : parsed.command = .known .user := by
    rw [hsees.command, h]
    decide
  have hdecide : decideClientToServer parsed policy .default maxRealnameBytes =
      rewriteUser parsed maxRealnameBytes .default := by
    unfold decideClientToServer
    rw [hcommand]
  have hargs := (hsees.args (by rw [hcommand]; decide)).1
  unfold rewriteUser at hdecide
  rw [hargs] at hdecide
  by_cases hshort : m.params.length < 4
  · have hdrop : decideClientToServer parsed policy .default maxRealnameBytes = .drop .badUserField := by
      rw [hdecide]
      split
      next heq =>
        have hlength := congrArg length heq
        simp at hlength
        omega
      · rfl
    have hnone : m.params[3]? = none := getElem?_eq_none (by omega)
    exact iff_of_true (protected_of_drop hresult hdrop) (by simp +decide [guarded_iff, Message.IsText, h, hnone])
  · obtain ⟨username, host, server, realname, rest, hparams⟩ :
        ∃ username host server realname rest, m.params = username :: host :: server :: realname :: rest := by
      rcases hparams : m.params with _ | ⟨u, _ | ⟨a, _ | ⟨b, _ | ⟨r, rest⟩⟩⟩⟩ <;> simp [hparams] at hshort ⊢
    have hmiddle : IsMiddle username := by
      refine hreadable username ?_
      unfold Message.params at hparams hshort
      cases hmiddles : m.middles with
      | nil =>
        rw [hmiddles, nil_append] at hshort
        exact absurd (lt_of_le_of_lt m.trailing.length_toList_le (by decide)) hshort
      | cons first middles =>
        rw [hmiddles, cons_append] at hparams
        rw [← (cons.inj hparams).1]
        exact mem_cons_self
    have hnul0 := hnul username (by simp [hparams])
    have hnul3 := hnul realname (by simp [hparams])
    have hright : Guarded policy maxRealnameBytes m ↔
        Utf8.valid realname ∧ (maxRealnameBytes < realname.length ∨ Utf8.valid username) := by
      simp +decide [guarded_iff, Message.IsText, h, hparams]
    rw [hright]
    simp only [hparams, map_cons] at hdecide
    by_cases hlong : maxRealnameBytes < (lossy realname).length
    · rw [if_pos hlong] at hdecide
      have hvalid : Utf8.valid realname = true := by
        by_contra hinvalid
        rw [lossy_of_not_valid hinvalid] at hlong
        cases hlong
      rw [lossy_of_valid hvalid] at hlong
      exact iff_of_true (protected_of_drop hresult hdecide) ⟨hvalid, .inl hlong⟩
    · have hfields : ¬ (0 ∈ lossy username ∨ 0 ∈ PrivacySubstitutions.default.userHostname ∨
          0 ∈ PrivacySubstitutions.default.userServername ∨ 0 ∈ lossy realname) := by
        rintro (h0 | h0 | h0 | h0)
        · exact hnul0 h0
        · exact absurd h0 (by decide)
        · exact absurd h0 (by decide)
        · exact hnul3 h0
      rw [if_neg hlong, if_neg hfields] at hdecide
      have hlossy : lossy username = [] ∨ IsMiddle (lossy username) := by
        by_cases hvalid : Utf8.valid username = true
        · exact .inr (by rwa [lossy_of_valid hvalid])
        · exact .inl (lossy_of_not_valid hvalid)
      have hbody : readLine (parsed.renderPrefix ++ userBody (lossy username) (lossy realname)) =
          some (userMessage (lossy username) (lossy realname)) := by
        rw [readLine_renderPrefix hsees.linePrefix]
        · exact readCommand_user hlossy (lossy realname)
        · exact show some 85 ≠ some 58 by decide
        · exact show some 85 ≠ some 64 by decide
      have hemitted : filterLine policy maxRealnameBytes line =
          .emitted (parsed.renderPrefix ++ userBody (lossy username) (lossy realname) ++ crlf) := by
        rw [hresult, hdecide]
        simp [FilterOutcome.result, PrivacySubstitutions.default, userBody]
      rw [protected_iff_of_emitted hemitted hm hbody,
        hides_user_iff (by simp [hparams]) (by simp [hparams]) hmiddle]
      refine and_congr_right fun hvalid => ?_
      rw [lossy_of_valid hvalid] at hlong
      simp [hlong]

end Rules

/-- The filter protects exactly the lines whose message it deals with as it should. -/
theorem protected_iff_guarded (policy : ReasonRewritePolicy) (maxRealnameBytes : Nat) (line : List UInt8)
    (hline : 13 ∉ line ∧ 10 ∉ line) :
    Protected policy maxRealnameBytes line ↔ (line.length + 2 ≤ ircCoreMaxBytes →
      ∀ core, splitTagEnvelope line = some core → 0 ∉ core →
        ∀ m, readCore core = some m → Guarded policy maxRealnameBytes m) := by
  by_cases hlength : line.length + 2 ≤ ircCoreMaxBytes
  swap
  · refine iff_of_true (protected_of_not_emitted fun bytes hbytes => ?_) (absurd · hlength)
    rw [filterLine, if_pos (not_le.mp hlength)] at hbytes
    cases hbytes
  rw [forall_prop_of_true hlength]
  cases hcore : splitTagEnvelope line with
  | none =>
    refine iff_of_true (protected_of_not_emitted fun bytes hbytes => ?_) (by simp)
    unfold filterLine at hbytes
    rw [if_neg (not_lt.mpr hlength), hcore] at hbytes
    cases hbytes
  | some core =>
    simp only [some.injEq, forall_eq']
    obtain ⟨hread, hmem⟩ := readLine_of_splitTagEnvelope hcore
    by_cases hnul : 0 ∈ core
    · obtain ⟨e, he⟩ := classifyCore_of_nul hnul
      refine iff_of_true (protected_of_not_emitted fun bytes hbytes => ?_) (by simp [hnul])
      unfold filterLine at hbytes
      rw [if_neg (not_lt.mpr hlength)] at hbytes
      simp only [hcore, he] at hbytes
      cases hbytes
    have hclean : Clean core := ⟨hnul, fun h => hline.1 (hmem _ h), fun h => hline.2 (hmem _ h)⟩
    obtain ⟨parsed, hparsed, hunread, hsees⟩ := classifyCore_of_clean hclean
    have hresult := filterLine_eq policy maxRealnameBytes hlength hcore hparsed
    cases hm : readCore core with
    | none =>
      refine iff_of_true (protected_of_not_emitted fun bytes hbytes => ?_) (by simp)
      rw [hresult, decideClientToServer, hunread hm] at hbytes
      cases hbytes
    | some m =>
      simp only [hnul, not_false_eq_true, some.injEq, forall_const, forall_eq']
      have hm' := hread.trans hm
      have hreadable := readable_of_readCore hm
      have hlossy : ∀ param ∈ m.params, 0 ∉ lossy param := by
        intro param hparam hzero
        unfold lossy at hzero
        split at hzero
        · exact hnul (hreadable.mem param hparam 0 hzero)
        · cases hzero
      by_cases htext : m.IsText
      · exact protected_iff_of_text hresult hm' (hsees m hm) htext
      by_cases huser : m.command = Ascii.bytes "USER"
      · exact protected_iff_of_user hresult hm' (hsees m hm) hreadable.middle hlossy huser
      by_cases hquit : m.command = Ascii.bytes "QUIT"
      · exact protected_iff_of_quit hresult hm' (hsees m hm) hlossy hquit
      by_cases hpart : m.command = Ascii.bytes "PART"
      · exact protected_iff_of_part hresult hm' (hsees m hm) hlossy hpart
      exact protected_iff_of_plain hresult hm' (hsees m hm) ⟨htext, huser, hquit, hpart⟩

end Decisions

def sampleUser : List UInt8 := bytes "@t=1 :me USER alice 10.0.0.1 irc.example :Alice A"

theorem protected_iff_guarded_sample :
    (13 ∉ sampleUser ∧ 10 ∉ sampleUser) ∧ Protected .replaceStable 256 sampleUser := by
  have hline : 13 ∉ sampleUser ∧ 10 ∉ sampleUser := by decide
  refine ⟨hline, (protected_iff_guarded .replaceStable 256 sampleUser hline).mpr ?_⟩
  rintro _ _ ⟨⟩ _ _ ⟨⟩
  refine ⟨fun htext => ?_, ?_, fun _ hquit => ?_, fun _ hpart => ?_⟩
  · exact absurd htext (by unfold Message.IsText; decide)
  · rintro _ _ _ ⟨⟩ ⟨⟩
    decide
  · exact absurd hquit (by decide)
  · exact absurd hpart (by decide)

theorem not_protected_lines : ¬ Protected .keep 256 (bytes "PRIVMSG bob " ++ [1] ++ bytes "VERSION" ++ [1]) ∧
    ¬ Protected .keep 256 (bytes "PRIVMSG bob :" ++ [1] ++ bytes "VERSION " ++ [255, 1]) ∧
    ¬ Protected .replaceStable 256 (bytes "PART #room :bye") ∧
    ¬ Protected .replaceStable 256 (bytes "QUIT bye") := by
  refine ⟨fun h => ?_, fun h => ?_, fun h => ?_, fun h => ?_⟩
  · rw [protected_iff_of_emitted rfl rfl rfl] at h
    exact absurd (h.text (.inl rfl)) (by decide)
  · rw [protected_iff_of_emitted rfl rfl rfl] at h
    exact absurd (h.text (.inl rfl)) (by decide)
  · rw [protected_iff_of_emitted rfl rfl rfl] at h
    exact absurd (h.part rfl rfl) (by decide)
  · rw [protected_iff_of_emitted rfl rfl rfl] at h
    exact absurd (h.quit rfl rfl) (by decide)

end I2pr.Irc

import I2pr.HttpParser

namespace I2pr.Http

open Fallible Lines HeaderEntry Ascii List

def requestLine (method target : List UInt8) : List UInt8 := method ++ 32 :: target ++ Ascii.bytes " HTTP/1.1"

def renderLine (entry : HeaderEntry) : List UInt8 := entry.name ++ 58 :: 32 :: entry.value

/-- A head as `handle_proxy_request` and `filter_server_request_with_policy` write it. -/
def serializeHead (method target : List UInt8) (headers : List HeaderEntry) : List UInt8 :=
  requestLine method target ++ Lines.crlf ++ headers.flatMap (fun entry => renderLine entry ++ Lines.crlf) ++ Lines.crlf

structure GoodName (name : List UInt8) : Prop where
  first : ∃ byte, name.head? = some byte ∧ (Ascii.isAlphanumeric byte || byte == 33) = true
  token : ∀ byte ∈ name, isTokenByte byte = true
  lower : name.map Ascii.lower = name

instance (name : List UInt8) : Decidable (GoodName name) :=
  decidable_of_iff ((∃ byte ∈ name.head?, (Ascii.isAlphanumeric byte || byte == 33) = true) ∧
      (∀ byte ∈ name, isTokenByte byte = true) ∧ name.map Ascii.lower = name)
    ⟨fun ⟨hfirst, htoken, hlower⟩ => ⟨hfirst, htoken, hlower⟩, fun h => ⟨h.first, h.token, h.lower⟩⟩

theorem goodName_written : GoodName (bytes "host") ∧ GoodName (bytes "connection") ∧
    GoodName (bytes "content-length") ∧ GoodName (bytes "user-agent") := by
  decide +kernel

/-- What can be written as a header line: a name in lower case and a text of one line. -/
structure Writable (entry : HeaderEntry) : Prop where
  name : GoodName entry.name
  valid : Utf8.valid entry.value = true
  oneLine : 13 ∉ entry.value ∧ 10 ∉ entry.value

def HeaderEntry.trimmed (entry : HeaderEntry) : HeaderEntry :=
  { entry with value := Utf8.trim entry.value }

/-- What is read back as it was written. -/
structure Tidy (entry : HeaderEntry) : Prop where
  writable : Writable entry
  trimmed : Utf8.trim entry.value = entry.value

theorem Tidy.of_graphic {name value : List UInt8} (hname : GoodName name)
    (hvalue : ∀ byte ∈ value, 32 < byte ∧ byte < 128) : Tidy ⟨name, value⟩ where
  writable := ⟨hname, Utf8.valid_of_ascii fun byte hbyte => (hvalue byte hbyte).2,
    fun hmem => absurd (hvalue 13 hmem).1 (by decide), fun hmem => absurd (hvalue 10 hmem).1 (by decide)⟩
  trimmed := Utf8.trim_of_graphic hvalue

theorem tidy_close : Tidy ⟨bytes "connection", bytes "close"⟩ :=
  Tidy.of_graphic goodName_written.2.1 (by decide +kernel)

variable {entries : List HeaderEntry} {byte : UInt8} {entry : HeaderEntry} {limits : HttpLimits}
  {lines : List (List UInt8)} {input : List UInt8}

theorem map_trimmed (h : ∀ entry ∈ entries, Tidy entry) : entries.map trimmed = entries := by
  refine (map_congr_left fun entry hentry => ?_).trans (map_id entries)
  rw [trimmed, (h entry hentry).trimmed]
  rfl

/-- What the parser asks of a header line. -/
structure Fits (limits : HttpLimits) (entry : HeaderEntry) : Prop where
  line : (renderLine entry).length ≤ limits.totalHeaderBytesMax
  name : entry.name.length ≤ limits.fieldNameMaxBytes
  value : (Utf8.trim entry.value).length ≤ limits.fieldValueMaxBytes
  nonempty : Utf8.trim entry.value ≠ []
  clean : (Utf8.trim entry.value).any isControl = false

theorem isTokenByte_lt (h : isTokenByte byte = true) : byte < 128 := by
  rw [isTokenByte, Bool.or_eq_true] at h
  rcases h with h | h
  · exact isAlphanumeric_lt h
  · have hall : ∀ byte ∈ bytes "!#$%&'*+-.^_`|~", byte < 128 := by decide +kernel
    exact hall byte (contains_iff_mem.mp h)

theorem isTokenByte_ne (h : isTokenByte byte = true) : byte ≠ 58 ∧ byte ≠ 13 ∧ byte ≠ 10 := by
  refine ⟨?_, ?_, ?_⟩
  all_goals
    rintro rfl
    exact absurd h (by decide)

theorem GoodName.not_mem {name : List UInt8} (h : GoodName name) : 58 ∉ name ∧ 13 ∉ name ∧ 10 ∉ name := by
  refine ⟨fun hmem => ?_, fun hmem => ?_, fun hmem => ?_⟩
  · exact (isTokenByte_ne (h.token _ hmem)).1 rfl
  · exact (isTokenByte_ne (h.token _ hmem)).2.1 rfl
  · exact (isTokenByte_ne (h.token _ hmem)).2.2 rfl

theorem Writable.splitOnce (h : Writable entry) :
    splitOnce 58 (renderLine entry) = some (entry.name, 32 :: entry.value) :=
  splitOnce_eq_some.mpr ⟨rfl, h.name.not_mem.1⟩

theorem parseHeaderLine_renderLine (h : Writable entry)
    (hline : (renderLine entry).length ≤ limits.totalHeaderBytesMax) {parsed : HeaderEntry} :
    parseHeaderLine (renderLine entry) limits.fieldNameMaxBytes limits.fieldValueMaxBytes = .ok parsed ↔
      Fits limits entry ∧ parsed = entry.trimmed := by
  obtain ⟨first, hfirst, hok⟩ := h.name.first
  have htoken : entry.name.all isTokenByte = true := all_eq_true.mpr h.name.token
  have htrim := Utf8.trim_space h.valid
  unfold parseHeaderLine
  rw [h.splitOnce]
  dsimp only
  cases hname : entry.name with
  | nil =>
    rw [hname] at hfirst
    cases hfirst
  | cons byte rest =>
    rw [hname] at hfirst
    cases hfirst
    dsimp only
    rw [← hname, hok, htoken, htrim, h.name.lower]
    constructor
    · intro hparse
      obtain ⟨hlength, hparse⟩ := ite_error_eq_ok.mp hparse
      rw [if_neg (by simp), if_neg (by simp)] at hparse
      obtain ⟨hempty, hparse⟩ := ite_error_eq_ok.mp hparse
      obtain ⟨hvalue, hparse⟩ := ite_error_eq_ok.mp hparse
      obtain ⟨hclean, hparse⟩ := ite_error_eq_ok.mp hparse
      cases hparse
      exact ⟨⟨hline, not_lt.mp hlength, not_lt.mp hvalue, by simpa using hempty, by simpa using hclean⟩, rfl⟩
    · rintro ⟨hfits, rfl⟩
      rw [if_neg (not_lt.mpr hfits.name), if_neg (by simp), if_neg (by simp),
        if_neg (by simpa using hfits.nonempty), if_neg (not_lt.mpr hfits.value), if_neg (by simp [hfits.clean])]
      rfl

theorem Writable.line (h : Writable entry) : 13 ∉ renderLine entry ∧ 10 ∉ renderLine entry := by
  obtain ⟨-, hcr, hlf⟩ := h.name.not_mem
  simp only [renderLine, mem_append, mem_cons, not_or]
  exact ⟨⟨hcr, by decide, by decide, h.oneLine.1⟩, hlf, by decide, by decide, h.oneLine.2⟩

theorem Writable.head (h : Writable entry) :
    (renderLine entry).isEmpty = false ∧ (renderLine entry).head? ≠ some 32 ∧ (renderLine entry).head? ≠ some 9 := by
  obtain ⟨first, hfirst, hok⟩ := h.name.first
  have hhead : (renderLine entry).head? = some first := by
    rw [renderLine, head?_append, hfirst, Option.some_or]
  refine ⟨?_, ?_, ?_⟩
  · cases hline : renderLine entry with
    | nil =>
      rw [hline] at hhead
      cases hhead
    | cons => rfl
  all_goals
    rw [hhead]
    rintro ⟨⟩
    exact absurd hok (by decide)

theorem parseHeaders_render (h : ∀ entry ∈ entries, Writable entry) {before headers : List HeaderEntry} :
    parseHeaders limits (entries.map renderLine ++ [[], []]) before = .ok headers ↔
      (entries ≠ [] → before.length + entries.length ≤ limits.headerCountMax) ∧
      (∀ entry ∈ entries, Fits limits entry) ∧ headers = before ++ entries.map trimmed := by
  induction entries generalizing before with
  | nil => simp [parseHeaders, eq_comm]
  | cons entry entries ih =>
    have hentry := h entry mem_cons_self
    obtain ⟨hempty, hspace, htab⟩ := hentry.head
    have hwritable : ∀ entry ∈ entries, Writable entry := fun entry hmem => h entry (mem_cons_of_mem _ hmem)
    rw [map_cons, cons_append, parseHeaders, if_neg (by simp [hempty])]
    constructor
    · intro hparse
      obtain ⟨hcount, hparse⟩ := ite_error_eq_ok.mp hparse
      obtain ⟨hline, hparse⟩ := ite_error_eq_ok.mp hparse
      rw [if_neg (by simp [hspace, htab])] at hparse
      obtain ⟨parsed, hparsed, hrest⟩ := bind_eq_ok.mp hparse
      obtain ⟨hfits, rfl⟩ := (parseHeaderLine_renderLine hentry (not_lt.mp hline)).mp hparsed
      obtain ⟨hlength, hall, rfl⟩ := (ih hwritable).mp hrest
      refine ⟨fun _ => ?_, forall_mem_cons.mpr ⟨hfits, hall⟩, by simp⟩
      cases entries with
      | nil => simpa using hcount
      | cons next entries =>
        have hlength := hlength (by simp)
        simp only [length_append, length_cons, length_nil] at hlength ⊢
        omega
    · rintro ⟨hlength, hall, rfl⟩
      have hfits := hall entry mem_cons_self
      have hcount := hlength (by simp)
      rw [length_cons] at hcount
      rw [if_neg (by omega), if_neg (not_lt.mpr hfits.line), if_neg (by simp [hspace, htab])]
      refine bind_eq_ok.mpr ⟨entry.trimmed, (parseHeaderLine_renderLine hentry hfits.line).mpr ⟨hfits, rfl⟩,
        (ih hwritable).mpr ⟨fun _ => ?_, fun entry hmem => hall entry (mem_cons_of_mem _ hmem), by simp⟩⟩
      rw [length_append, length_singleton]
      omega

theorem findHeaderEndFrom_line {line : List UInt8} (h : 13 ∉ line) (index : Nat) (rest : List UInt8) :
    findHeaderEndFrom index (line ++ rest) = findHeaderEndFrom (index + line.length) rest := by
  induction line generalizing index with
  | nil => rfl
  | cons byte line ih =>
    have hbyte : byte ≠ 13 := fun heq => h (heq ▸ mem_cons_self)
    rw [cons_append, findHeaderEndFrom, ih fun hmem => h (mem_cons_of_mem _ hmem), length_cons]
    · congr 1
      omega
    · intro rest heq
      exact absurd heq hbyte

theorem findHeaderEndFrom_crlf (h : byte ≠ 13) (index : Nat) (rest : List UInt8) :
    findHeaderEndFrom index (crlf ++ byte :: rest) = findHeaderEndFrom (index + 2) (byte :: rest) := by
  rw [crlf, cons_append, cons_append, nil_append, findHeaderEndFrom, findHeaderEndFrom]
  · intro rest heq
    cases heq
  · intro rest _ heq
    exact h (cons.inj (cons.inj heq).2).1

theorem findHeaderEndFrom_lines (h : ∀ line ∈ lines, line ≠ [] ∧ 13 ∉ line) (hne : lines ≠ []) (index : Nat) :
    findHeaderEndFrom index (lines.flatMap (· ++ crlf) ++ crlf) =
      some (index + (lines.flatMap (· ++ crlf) ++ crlf).length) := by
  induction lines generalizing index with
  | nil => exact absurd rfl hne
  | cons line lines ih =>
    have hline := h line mem_cons_self
    rw [flatMap_cons, append_assoc, append_assoc, findHeaderEndFrom_line hline.2]
    cases lines with
    | nil => simp [findHeaderEndFrom, crlf, Nat.add_assoc]
    | cons next lines =>
      have hnext := h next (by simp)
      have hmore := ih (fun line hmem => h line (mem_cons_of_mem _ hmem)) (by simp)
        (index + line.length + 2)
      cases next with
      | nil => exact absurd rfl hnext.1
      | cons byte next =>
        have hbyte : byte ≠ 13 := fun heq => hnext.2 (heq ▸ mem_cons_self)
        rw [flatMap_cons, cons_append, cons_append, cons_append] at hmore ⊢
        rw [findHeaderEndFrom_crlf hbyte, hmore]
        simp only [length_append, length_cons, crlf, length_nil, Option.some.injEq]
        omega

theorem serializeHead_eq (method target : List UInt8) (headers : List HeaderEntry) :
    serializeHead method target headers =
      (requestLine method target :: headers.map renderLine).flatMap (· ++ crlf) ++ crlf := by
  rw [serializeHead, flatMap_cons, flatMap_map]

variable {line : RequestLine}

theorem parseRequestLine_inv {maxBytes : Nat} (h : parseRequestLine input maxBytes = .ok line) :
    input = requestLine line.method line.target ∧ ∀ byte ∈ input, (byte ≤ 0x1f || byte == 0x7f) = false := by
  unfold parseRequestLine at h
  obtain ⟨-, h⟩ := ite_error_eq_ok.mp h
  obtain ⟨-, h⟩ := ite_error_eq_ok.mp h
  obtain ⟨hcontrol, h⟩ := ite_error_eq_ok.mp h
  split at h
  · cases h
  · cases h
  · cases h
  · cases h
  next method target version hsplit =>
    obtain ⟨-, h⟩ := ite_error_eq_ok.mp h
    obtain ⟨-, h⟩ := ite_error_eq_ok.mp h
    obtain ⟨hversion, h⟩ := ite_error_eq_ok.mp h
    cases h
    have hjoin : [32].intercalate (input.splitOn 32) = input := intercalate_splitOn 32
    rw [hsplit, not_not.mp hversion] at hjoin
    refine ⟨?_, by simpa using hcontrol⟩
    rw [← hjoin, requestLine]
    simp [intercalate, intersperse]
    rfl

theorem parseHeaderLine_inv {nameMaxBytes valueMaxBytes : Nat}
    (h : parseHeaderLine input nameMaxBytes valueMaxBytes = .ok entry) :
    ∃ rawName rawValue, input = rawName ++ 58 :: rawValue ∧ entry = ⟨rawName.map lower, Utf8.trim rawValue⟩ ∧
      (∃ first, rawName.head? = some first ∧ (isAlphanumeric first || first == 33) = true) ∧
      (∀ byte ∈ rawName, isTokenByte byte = true) ∧ entry.name.length ≤ nameMaxBytes ∧
      entry.value.length ≤ valueMaxBytes ∧ entry.value ≠ [] ∧ entry.value.any isControl = false := by
  unfold parseHeaderLine at h
  split at h
  · cases h
  next rawName rawValue hsplit =>
    obtain ⟨rfl, -⟩ := splitOnce_eq_some.mp hsplit
    split at h
    · cases h
    next first rest =>
      simp only [ite_error_eq_ok] at h
      obtain ⟨hlength, hfirst, htoken, hempty, hvalue, hclean, h⟩ := h
      cases h
      refine ⟨_, _, rfl, rfl, ⟨first, rfl, by simpa only [Bool.not_eq_true', Bool.not_eq_false] using hfirst⟩,
        by simpa using htoken, by simpa using not_lt.mp hlength, not_lt.mp hvalue, by simpa using hempty,
        by simpa using hclean⟩

theorem GoodName.of_raw {rawName : List UInt8}
    (hfirst : ∃ first, rawName.head? = some first ∧ (Ascii.isAlphanumeric first || first == 33) = true)
    (htoken : ∀ byte ∈ rawName, isTokenByte byte = true) : GoodName (rawName.map Ascii.lower) := by
  obtain ⟨first, hhead, hok⟩ := hfirst
  refine ⟨⟨Ascii.lower first, by simp [hhead], ?_⟩, ?_, ?_⟩
  · rw [Bool.or_eq_true] at hok ⊢
    rcases hok with hok | hok
    · exact .inl (Ascii.isAlphanumeric_lower hok)
    · rw [eq_of_beq hok]
      exact .inr rfl
  · intro byte hbyte
    obtain ⟨raw, hraw, rfl⟩ := mem_map.mp hbyte
    have hraw := htoken raw hraw
    cases hupper : Ascii.isUpper raw with
    | false => rwa [Ascii.lower_of_not_isUpper hupper]
    | true => simp [isTokenByte, Ascii.isAlphanumeric, Ascii.lower_of_isUpper hupper]
  · rw [map_map]
    exact map_congr_left fun byte _ => Ascii.lower_lower byte

structure Received (limits : HttpLimits) (entry : HeaderEntry) : Prop where
  writable : Writable entry
  trimmed : Utf8.trim entry.value = entry.value
  name : entry.name.length ≤ limits.fieldNameMaxBytes
  value : entry.value.length ≤ limits.fieldValueMaxBytes
  nonempty : entry.value ≠ []
  clean : entry.value.any isControl = false

theorem Received.tidy (h : Received limits entry) : Tidy entry :=
  ⟨h.writable, h.trimmed⟩

theorem not_mem_of_clean {value : List UInt8} (h : value.any isControl = false) : 13 ∉ value ∧ 10 ∉ value := by
  rw [any_eq_false] at h
  exact ⟨fun hmem => h 13 hmem rfl, fun hmem => h 10 hmem rfl⟩

theorem received_of_parseHeaderLine (hvalid : Utf8.valid input = true)
    (h : parseHeaderLine input limits.fieldNameMaxBytes limits.fieldValueMaxBytes = .ok entry) :
    Received limits entry := by
  obtain ⟨rawName, rawValue, rfl, rfl, hfirst, htoken, hname, hvalue, hnonempty, hclean⟩ := parseHeaderLine_inv h
  have hraw := (Utf8.valid_split (by decide) hvalid).2
  exact ⟨⟨GoodName.of_raw hfirst htoken, Utf8.valid_trim hraw, not_mem_of_clean hclean⟩, Utf8.trim_trim hraw, hname,
    hvalue, hnonempty, hclean⟩

theorem received_of_parseHeaders {before headers : List HeaderEntry}
    (hvalid : ∀ line ∈ lines, Utf8.valid line = true) (hbefore : ∀ entry ∈ before, Received limits entry)
    (h : parseHeaders limits lines before = .ok headers) : ∀ entry ∈ headers, Received limits entry := by
  induction lines generalizing before with
  | nil =>
    cases h
    exact hbefore
  | cons raw lines ih =>
    rw [parseHeaders] at h
    split at h
    · cases h
      exact hbefore
    · obtain ⟨-, h⟩ := ite_error_eq_ok.mp h
      obtain ⟨-, h⟩ := ite_error_eq_ok.mp h
      obtain ⟨-, h⟩ := ite_error_eq_ok.mp h
      obtain ⟨entry, hentry, hrest⟩ := bind_eq_ok.mp h
      have hreceived := received_of_parseHeaderLine (hvalid raw mem_cons_self) hentry
      exact ih (fun line hline => hvalid line (mem_cons_of_mem _ hline))
        (forall_mem_append.mpr ⟨hbefore, forall_mem_singleton.mpr hreceived⟩) hrest

structure Accepted (limits : HttpLimits) (head : HttpRequestHead) : Prop where
  line : parseRequestLine (requestLine head.line.method head.line.target) limits.requestLineMaxBytes = .ok head.line
  valid : Utf8.valid (requestLine head.line.method head.line.target) = true
  headers : ∀ entry ∈ head.headers, Received limits entry
  smuggling : enforceNoSmuggling head.headers head.line.method = .ok ()
  host : enforceHostUniqueness head.headers = .ok ()

theorem accepted_of_parseRequestHead {buffer : List UInt8} {head : HttpRequestHead}
    (h : parseRequestHead buffer limits = .ok head) : Accepted limits head := by
  unfold parseRequestHead at h
  obtain ⟨-, h⟩ := ite_error_eq_ok.mp h
  split at h
  · cases h
  next bodyOffset hend =>
    obtain ⟨hvalid, h⟩ := ite_error_eq_ok.mp h
    split at h
    · cases h
    next raw lines hsplit =>
      simp only [bind_eq_ok] at h
      obtain ⟨line, hline, headers, hheaders, _, hsmuggling, _, hhost, h⟩ := h
      cases h
      have hlines : ∀ line ∈ raw :: lines, Utf8.valid line = true := by
        rw [← hsplit]
        exact fun line hmem => valid_of_mem_splitCrlf (by simpa using hvalid) hmem
      have hraw := (parseRequestLine_inv hline).1
      subst hraw
      exact ⟨hline, hlines _ mem_cons_self, received_of_parseHeaders
        (fun line hmem => hlines line (mem_cons_of_mem _ hmem)) (by simp) hheaders, hsmuggling, hhost⟩

theorem valid_renderLine (h : Writable entry) : Utf8.valid (renderLine entry) = true := by
  have hname : Utf8.valid entry.name = true :=
    Utf8.valid_of_ascii fun byte hbyte => isTokenByte_lt (h.name.token byte hbyte)
  refine Utf8.valid_append hname ?_
  rw [Utf8.valid_cons_of_ascii (by decide), Utf8.valid_cons_of_ascii (by decide)]
  exact h.valid

theorem valid_lines (h : ∀ line ∈ lines, Utf8.valid line = true) :
    Utf8.valid (lines.flatMap (· ++ crlf)) = true := by
  induction lines with
  | nil => rfl
  | cons line lines ih =>
    rw [flatMap_cons]
    exact Utf8.valid_append (Utf8.valid_append (h line mem_cons_self) (by decide))
      (ih fun line hmem => h line (mem_cons_of_mem _ hmem))

theorem requestLine_ne_nil (method target : List UInt8) : requestLine method target ≠ [] := by
  simp [requestLine]

theorem not_mem_of_parseRequestLine {maxBytes : Nat}
    (h : parseRequestLine input maxBytes = .ok line) : 13 ∉ input ∧ 10 ∉ input := by
  have hcontrol := (parseRequestLine_inv h).2
  exact ⟨fun hmem => absurd (hcontrol 13 hmem) (by decide), fun hmem => absurd (hcontrol 10 hmem) (by decide)⟩

/-- A head that is written is read back under the limits its parts keep. -/
theorem parseRequestHead_serializeHead {method target : List UInt8}
    (hline : parseRequestLine (requestLine method target) limits.requestLineMaxBytes = .ok line)
    (hvalid : Utf8.valid (requestLine method target) = true)
    (hentries : ∀ entry ∈ entries, Writable entry) {parsed : HttpRequestHead} :
    parseRequestHead (serializeHead method target entries) limits = .ok parsed ↔
      (serializeHead method target entries).length ≤ limits.retainedBufferMaxBytes ∧
      (entries ≠ [] → entries.length ≤ limits.headerCountMax) ∧ (∀ entry ∈ entries, Fits limits entry) ∧
      enforceNoSmuggling (entries.map trimmed) line.method = .ok () ∧
      enforceHostUniqueness (entries.map trimmed) = .ok () ∧
      parsed = ⟨line, entries.map trimmed, []⟩ := by
  have hlines : ∀ text ∈ requestLine method target :: entries.map renderLine,
      (text ≠ [] ∧ 13 ∉ text) ∧ Utf8.valid text = true := by
    refine forall_mem_cons.mpr ⟨⟨⟨requestLine_ne_nil _ _, (not_mem_of_parseRequestLine hline).1⟩, hvalid⟩, ?_⟩
    refine forall_mem_map.mpr fun entry hentry => ?_
    have hentry := hentries entry hentry
    exact ⟨⟨isEmpty_eq_false_iff.mp hentry.head.1, hentry.line.1⟩, valid_renderLine hentry⟩
  have hend : findHeaderEnd (serializeHead method target entries) = some (serializeHead method target entries).length := by
    rw [serializeHead_eq, findHeaderEnd, findHeaderEndFrom_lines (fun text htext => (hlines text htext).1) (by simp),
      Nat.zero_add]
  have hvalidHead : Utf8.valid (serializeHead method target entries) = true := by
    rw [serializeHead_eq]
    exact Utf8.valid_append (valid_lines fun text htext => (hlines text htext).2) (by decide)
  have hsplit : splitCrlf (serializeHead method target entries) =
      requestLine method target :: (entries.map renderLine ++ [[], []]) := by
    rw [serializeHead_eq, splitCrlf_lines fun text htext => (hlines text htext).1.2]
    rfl
  unfold parseRequestHead
  simp only [hend, take_length, drop_length, hvalidHead, hsplit, Bool.not_true, Bool.false_eq_true, if_false]
  constructor
  · intro h
    obtain ⟨hsize, h⟩ := ite_error_eq_ok.mp h
    obtain ⟨line', hline', h⟩ := bind_eq_ok.mp h
    cases hline.symm.trans hline'
    obtain ⟨headers, hheaders, h⟩ := bind_eq_ok.mp h
    obtain ⟨hcount, hfits, rfl⟩ := (parseHeaders_render hentries).mp hheaders
    obtain ⟨_, hsmuggling, h⟩ := bind_eq_ok.mp h
    obtain ⟨_, hhost, h⟩ := bind_eq_ok.mp h
    cases h
    exact ⟨not_lt.mp hsize, by simpa using hcount, hfits, hsmuggling, hhost, rfl⟩
  · rintro ⟨hsize, hcount, hfits, hsmuggling, hhost, rfl⟩
    rw [if_neg (not_lt.mpr hsize)]
    exact bind_eq_ok.mpr ⟨line, hline, bind_eq_ok.mpr ⟨entries.map trimmed,
      (parseHeaders_render hentries).mpr ⟨by simpa using hcount, hfits, rfl⟩,
      bind_eq_ok.mpr ⟨(), hsmuggling, bind_eq_ok.mpr ⟨(), hhost, rfl⟩⟩⟩⟩

end I2pr.Http

import Mathlib

namespace Utf8

open List

/-- The ranges of the bytes that follow the first byte of a character. -/
def follow (byte : UInt8) : Option (List (UInt8 × UInt8)) :=
  let tail := (0x80, 0xbf)
  if byte < 0x80 then some []
  else if 0xc2 ≤ byte ∧ byte ≤ 0xdf then some [tail]
  else if byte = 0xe0 then some [(0xa0, 0xbf), tail]
  else if byte = 0xed then some [(0x80, 0x9f), tail]
  else if 0xe1 ≤ byte ∧ byte ≤ 0xef then some [tail, tail]
  else if byte = 0xf0 then some [(0x90, 0xbf), tail, tail]
  else if 0xf1 ≤ byte ∧ byte ≤ 0xf3 then some [tail, tail, tail]
  else if byte = 0xf4 then some [(0x80, 0x8f), tail, tail]
  else none

/-- Whether the bytes complete a character of which some are owed, and go on with whole characters. -/
def validFrom : List (UInt8 × UInt8) → List UInt8 → Bool
  | owed, [] => owed.isEmpty
  | [], byte :: rest =>
    match follow byte with
    | none => false
    | some owed => validFrom owed rest
  | (low, high) :: owed, byte :: rest => low ≤ byte && byte ≤ high && validFrom owed rest

def valid (bytes : List UInt8) : Bool := validFrom [] bytes

theorem valid_of_ascii {bytes : List UInt8} (h : ∀ byte ∈ bytes, byte < 128) : valid bytes = true := by
  induction bytes with
  | nil => rfl
  | cons byte rest ih =>
    have hbyte : follow byte = some [] := if_pos (h byte mem_cons_self)
    rw [valid, validFrom, hbyte]
    exact ih fun byte hrest => h byte (mem_cons_of_mem _ hrest)

def continuation (byte : UInt8) : Bool := 0x80 ≤ byte && byte ≤ 0xbf

variable {byte : UInt8} {owed : List (UInt8 × UInt8)} {a b text char rest : List UInt8}
  {texts : List (List UInt8)} {A : Type}

theorem continuation_eq_false_of_lt (h : byte < 128) : continuation byte = false := by
  have hnot : ¬ 128 ≤ byte := UInt8.not_le.mpr h
  simp [continuation, hnot]

/-- Only continuation bytes are owed. -/
def Owed (owed : List (UInt8 × UInt8)) : Prop :=
  ∀ range ∈ owed, 0x80 ≤ range.1 ∧ range.2 ≤ 0xbf

theorem owed_of_follow (h : follow byte = some owed) : Owed owed := by
  unfold follow at h
  dsimp only at h
  repeat' split at h
  all_goals
    cases h
    try simp [Owed]

theorem follow_eq_none (h : continuation byte = true) : follow byte = none := by
  simp only [continuation, Bool.and_eq_true, decide_eq_true_eq] at h
  have hhigh : ∀ low : UInt8, 0xbf < low → ¬ low ≤ byte := fun low hlow hle =>
    UInt8.not_le.mpr hlow (UInt8.le_trans hle h.2)
  unfold follow
  dsimp only
  rw [if_neg (UInt8.not_lt.mpr h.1), if_neg fun hrange => hhigh _ (by decide) hrange.1,
    if_neg fun heq => hhigh 0xe0 (by decide) (UInt8.le_of_eq heq.symm),
    if_neg fun heq => hhigh 0xed (by decide) (UInt8.le_of_eq heq.symm),
    if_neg fun hrange => hhigh _ (by decide) hrange.1,
    if_neg fun heq => hhigh 0xf0 (by decide) (UInt8.le_of_eq heq.symm),
    if_neg fun hrange => hhigh _ (by decide) hrange.1,
    if_neg fun heq => hhigh 0xf4 (by decide) (UInt8.le_of_eq heq.symm)]

theorem owed_nil : Owed [] := by
  intro range hrange
  cases hrange

theorem continuation_of_owed {low high : UInt8} (hlow : 0x80 ≤ low) (hhigh : high ≤ 0xbf) (h : low ≤ byte)
    (h' : byte ≤ high) : continuation byte = true := by
  simp only [continuation, Bool.and_eq_true, decide_eq_true_eq]
  exact ⟨UInt8.le_trans hlow h, UInt8.le_trans h' hhigh⟩

theorem validFrom_cons (howed : Owed owed) (h : validFrom owed (byte :: rest) = true) :
    ∃ owed', Owed owed' ∧ validFrom owed' rest = true ∧ ∀ bytes, validFrom owed (byte :: bytes) = validFrom owed' bytes := by
  cases owed with
  | nil =>
    rw [validFrom] at h
    cases hfollow : follow byte with
    | none =>
      rw [hfollow] at h
      cases h
    | some owed' =>
      rw [hfollow] at h
      refine ⟨owed', owed_of_follow hfollow, h, fun bytes => ?_⟩
      rw [validFrom, hfollow]
  | cons range owed =>
    simp only [validFrom, Bool.and_eq_true, decide_eq_true_eq] at h
    refine ⟨owed, fun range hrange => howed range (mem_cons_of_mem _ hrange), h.2, fun bytes => ?_⟩
    simp [validFrom, h.1]

theorem validFrom_append (howed : Owed owed) (h : validFrom owed a = true) : validFrom owed (a ++ b) = valid b := by
  induction a generalizing owed with
  | nil =>
    cases owed with
    | nil => rfl
    | cons range owed => cases h
  | cons byte a ih =>
    obtain ⟨owed', howed', ha, hcons⟩ := validFrom_cons howed h
    rw [cons_append, hcons, ih howed' ha]

/-- A text is cut into texts before any byte that is not a continuation byte. -/
theorem validFrom_of_append
    (howed : Owed owed) (hbyte : continuation byte = false) (h : validFrom owed (a ++ byte :: b) = true) :
    validFrom owed a = true ∧ valid (byte :: b) = true := by
  induction a generalizing owed with
  | nil =>
    cases owed with
    | nil => exact ⟨rfl, h⟩
    | cons range owed =>
      simp only [nil_append, validFrom, Bool.and_eq_true, decide_eq_true_eq] at h
      have hrange := howed range mem_cons_self
      rw [continuation_of_owed hrange.1 hrange.2 h.1.1 h.1.2] at hbyte
      cases hbyte
  | cons first a ih =>
    obtain ⟨owed', howed', hrest, hcons⟩ := validFrom_cons howed h
    obtain ⟨ha, hb⟩ := ih howed' hrest
    exact ⟨(hcons a).trans ha, hb⟩

theorem valid_append (ha : valid a = true) (hb : valid b = true) : valid (a ++ b) = true := by
  rw [valid, validFrom_append owed_nil ha]
  exact hb

theorem valid_cons_of_ascii (hbyte : byte < 128) : valid (byte :: rest) = valid rest := by
  have hfollow : follow byte = some [] := if_pos hbyte
  rw [valid, validFrom, hfollow]
  rfl

theorem valid_split (hbyte : byte < 128) (h : valid (a ++ byte :: b) = true) : valid a = true ∧ valid b = true := by
  obtain ⟨ha, hb⟩ := validFrom_of_append owed_nil (continuation_eq_false_of_lt hbyte) h
  rw [valid_cons_of_ascii hbyte] at hb
  exact ⟨ha, hb⟩

/-- The characters of a text, each with its bytes. -/
def chars : List UInt8 → List (List UInt8)
  | [] => []
  | byte :: rest =>
    match chars rest with
    | [] => [[byte]]
    | char :: more =>
      if char.head?.any continuation then (byte :: char) :: more else [byte] :: char :: more

theorem flatten_chars (text : List UInt8) : (chars text).flatten = text := by
  induction text with
  | nil => rfl
  | cons byte rest ih =>
    rw [chars]
    split
    next hchars =>
      rw [hchars] at ih
      simp [← ih]
    next char more hchars =>
      rw [hchars] at ih
      split <;> simp [← ih]

structure IsChar (char : List UInt8) : Prop where
  head : ∃ byte, char.head? = some byte ∧ continuation byte = false
  tail : ∀ byte ∈ char.tail, continuation byte = true

theorem isChar_of_ascii (h : byte < 128) : IsChar [byte] :=
  ⟨⟨byte, rfl, continuation_eq_false_of_lt h⟩, by simp⟩

theorem isChar_of_follow {tail : List UInt8}
    (hfollow : follow byte = some owed) (htail : ∀ byte ∈ tail, continuation byte = true) : IsChar (byte :: tail) := by
  refine ⟨⟨byte, rfl, ?_⟩, htail⟩
  cases hbyte : continuation byte with
  | false => rfl
  | true =>
    rw [follow_eq_none hbyte] at hfollow
    cases hfollow

theorem head_chars {more : List (List UInt8)} (h : chars text = char :: more) : char.head? = text.head? := by
  cases text with
  | nil => cases h
  | cons byte rest =>
    rw [chars] at h
    split at h
    · cases h
      rfl
    · split at h
      all_goals
        cases h
        rfl

theorem chars_append {tail : List UInt8} (htail : ∀ byte ∈ tail, continuation byte = true)
    (hrest : ∀ byte, rest.head? = some byte → continuation byte = false) :
    chars (byte :: tail ++ rest) = (byte :: tail) :: chars rest := by
  induction tail generalizing byte with
  | nil =>
    rw [cons_append, nil_append, chars]
    split
    next hchars => rw [hchars]
    next char more hchars =>
      have hhead := head_chars hchars
      have hnot : char.head?.any continuation = false := by
        rw [hhead]
        cases hfirst : rest.head? with
        | none => rfl
        | some first => exact hrest first hfirst
      rw [hnot, hchars]
      rfl
  | cons next tail ih =>
    have hmore : chars (next :: tail ++ rest) = (next :: tail) :: chars rest :=
      ih fun byte hbyte => htail byte (mem_cons_of_mem _ hbyte)
    rw [cons_append] at hmore
    rw [cons_append, cons_append, chars, hmore]
    simp [htail next mem_cons_self]

theorem head_flatten (h : ∀ char ∈ texts, IsChar char)
    (hbyte : texts.flatten.head? = some byte) : continuation byte = false := by
  cases texts with
  | nil => cases hbyte
  | cons char more =>
    obtain ⟨first, hfirst, hcontinuation⟩ := (h char mem_cons_self).head
    rw [flatten_cons, head?_append, hfirst, Option.some_or] at hbyte
    cases hbyte
    exact hcontinuation

theorem chars_flatten (h : ∀ char ∈ texts, IsChar char) : chars texts.flatten = texts := by
  induction texts with
  | nil => rfl
  | cons char more ih =>
    have hmore : ∀ char ∈ more, IsChar char := fun char hchar => h char (mem_cons_of_mem _ hchar)
    have hchar := h char mem_cons_self
    cases char with
    | nil =>
      obtain ⟨byte, hbyte, -⟩ := hchar.head
      cases hbyte
    | cons byte tail =>
      have htail : ∀ byte ∈ tail, continuation byte = true := hchar.tail
      rw [flatten_cons, chars_append htail fun byte => head_flatten hmore, ih hmore]

theorem exists_chars_of_validFrom (howed : Owed owed) (h : validFrom owed text = true) :
    ∃ (tail : List UInt8) (texts : List (List UInt8)), text = tail ++ texts.flatten ∧ (owed = [] → tail = []) ∧
      (∀ byte ∈ tail, continuation byte = true) ∧ ∀ char ∈ texts, IsChar char := by
  induction text generalizing owed with
  | nil => exact ⟨[], [], rfl, fun _ => rfl, by simp, by simp⟩
  | cons byte rest ih =>
    cases owed with
    | nil =>
      rw [validFrom] at h
      cases hfollow : follow byte with
      | none =>
        rw [hfollow] at h
        cases h
      | some owed =>
        rw [hfollow] at h
        obtain ⟨tail, texts, rfl, -, htail, htexts⟩ := ih (owed_of_follow hfollow) h
        exact ⟨[], (byte :: tail) :: texts, rfl, fun _ => rfl, by simp,
          forall_mem_cons.mpr ⟨isChar_of_follow hfollow htail, htexts⟩⟩
    | cons range owed =>
      simp only [validFrom, Bool.and_eq_true, decide_eq_true_eq] at h
      obtain ⟨tail, texts, rfl, -, htail, htexts⟩ :=
        ih (fun range hrange => howed range (mem_cons_of_mem _ hrange)) h.2
      have hrange := howed range mem_cons_self
      have hbyte := continuation_of_owed hrange.1 hrange.2 h.1.1 h.1.2
      exact ⟨byte :: tail, texts, rfl, nofun, forall_mem_cons.mpr ⟨hbyte, htail⟩, htexts⟩

theorem isChar_of_mem_chars (h : valid text = true) (hchar : char ∈ chars text) : IsChar char := by
  obtain ⟨tail, texts, rfl, hnone, -, htexts⟩ := exists_chars_of_validFrom owed_nil h
  rw [hnone rfl, nil_append, chars_flatten htexts] at hchar
  exact htexts char hchar

/-- The characters with the property White_Space. -/
def whitespace : List (List UInt8) :=
  [[9], [10], [11], [12], [13], [32], [0xc2, 0x85], [0xc2, 0xa0], [0xe1, 0x9a, 0x80], [0xe2, 0x80, 0x80],
    [0xe2, 0x80, 0x81], [0xe2, 0x80, 0x82], [0xe2, 0x80, 0x83], [0xe2, 0x80, 0x84], [0xe2, 0x80, 0x85],
    [0xe2, 0x80, 0x86], [0xe2, 0x80, 0x87], [0xe2, 0x80, 0x88], [0xe2, 0x80, 0x89], [0xe2, 0x80, 0x8a],
    [0xe2, 0x80, 0xa8], [0xe2, 0x80, 0xa9], [0xe2, 0x80, 0xaf], [0xe2, 0x81, 0x9f], [0xe3, 0x80, 0x80]]

def isWhitespace (char : List UInt8) : Bool := whitespace.contains char

def strip {A : Type} (p : A → Bool) (list : List A) : List A :=
  (list.dropWhile p).rdropWhile p

def trim (text : List UInt8) : List UInt8 :=
  (strip isWhitespace (chars text)).flatten

theorem infix_strip (p : A → Bool) (list : List A) : strip p list <:+: list :=
  ( rdropWhile_prefix p _).isInfix.trans (dropWhile_suffix p).isInfix

theorem strip_strip (p : A → Bool) (list : List A) : strip p (strip p list) = strip p list := by
  have hdrop : (strip p list).dropWhile p = strip p list := by
    obtain ⟨rest, hrest⟩ : strip p list <+: list.dropWhile p := rdropWhile_prefix p _
    cases hstrip : strip p list with
    | nil => rfl
    | cons a more =>
      have hfirst := head?_dropWhile_not p list
      rw [← hrest, hstrip] at hfirst
      exact dropWhile_cons_of_neg (by simp [show p a = false from hfirst])
  rw [strip, hdrop]
  exact rdropWhile_idempotent p _

theorem strip_cons {p : A → Bool} {a : A} (h : p a = true) (list : List A) : strip p (a :: list) = strip p list := by
  rw [strip, dropWhile_cons_of_pos h, strip]

theorem isChar_of_mem_strip (h : valid text = true) (hchar : char ∈ strip isWhitespace (chars text)) : IsChar char :=
  isChar_of_mem_chars h ((infix_strip _ _).subset hchar)

theorem chars_trim (h : valid text = true) : chars (trim text) = strip isWhitespace (chars text) :=
  chars_flatten fun _ hchar => isChar_of_mem_strip h hchar

theorem trim_trim (h : valid text = true) : trim (trim text) = trim text := by
  rw [trim, chars_trim h, strip_strip]
  rfl

theorem trim_space (h : valid text = true) : trim (32 :: text) = trim text := by
  have hchars : chars (32 :: text) = [32] :: chars text := by
    have htexts : ∀ char ∈ [32] :: chars text, IsChar char :=
      forall_mem_cons.mpr ⟨isChar_of_ascii (by decide), fun _ => isChar_of_mem_chars h⟩
    have hflatten := chars_flatten htexts
    rwa [flatten_cons, flatten_chars] at hflatten
  rw [trim, hchars, strip_cons (by decide)]
  rfl

theorem valid_of_append_flatten (htexts : ∀ char ∈ texts, IsChar char)
    (h : valid (a ++ texts.flatten) = true) : valid a = true ∧ valid texts.flatten = true := by
  cases hflatten : texts.flatten with
  | nil =>
    rw [hflatten, append_nil] at h
    exact ⟨h, rfl⟩
  | cons byte rest =>
    rw [hflatten] at h
    exact validFrom_of_append owed_nil (head_flatten htexts (by rw [hflatten]; rfl)) h

theorem valid_trim (h : valid text = true) : valid (trim text) = true := by
  obtain ⟨before, after, hchars⟩ := infix_strip isWhitespace (chars text)
  have hall : ∀ char ∈ before ++ strip isWhitespace (chars text) ++ after, IsChar char := by
    rw [hchars]
    exact fun char hchar => isChar_of_mem_chars h hchar
  rw [← flatten_chars text, ← hchars, flatten_append, flatten_append] at h
  have hfront := (valid_of_append_flatten (fun char hchar => hall char (by simp [hchar])) h).1
  exact (valid_of_append_flatten (fun char hchar => hall char (by simp [hchar])) hfront).2

theorem trim_of_graphic (h : ∀ byte ∈ text, 32 < byte ∧ byte < 128) : trim text = text := by
  have hmap : ∀ char ∈ text.map ([·]), IsChar char ∧ isWhitespace char = false := by
    intro char hchar
    obtain ⟨byte, hbyte, rfl⟩ := mem_map.mp hchar
    refine ⟨isChar_of_ascii (h byte hbyte).2, ?_⟩
    have hspace := (h byte hbyte).1
    rw [isWhitespace, contains_eq_mem, decide_eq_false_iff_not]
    intro hmem
    have hlow : byte ≤ 32 := by
      simp only [whitespace, mem_cons, cons.injEq, and_true, reduceCtorEq, and_false, not_mem_nil,
        or_false] at hmem
      rcases hmem with rfl | rfl | rfl | rfl | rfl | rfl <;> decide
    exact UInt8.not_lt.mpr hlow hspace
  have hflatten : (text.map ([·])).flatten = text := by
    rw [← flatMap_def]
    exact flatMap_singleton' text
  have hchars : chars text = text.map ([·]) := by
    conv_lhs => rw [← hflatten]
    exact chars_flatten fun char hchar => (hmap char hchar).1
  have hstrip : strip isWhitespace (chars text) = chars text := by
    rw [hchars, strip, dropWhile_eq_self_iff.mpr, rdropWhile_eq_self_iff.mpr]
    · intro hne
      exact ne_true_of_eq_false (hmap _ (getLast_mem hne)).2
    · intro hlength
      exact ne_true_of_eq_false (hmap _ (get_mem _ ⟨0, hlength⟩)).2
  rw [trim, hstrip, flatten_chars]

end Utf8

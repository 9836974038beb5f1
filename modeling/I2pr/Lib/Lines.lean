import I2pr.Lib.Utf8

namespace Lines

open List

def crlf : List UInt8 := [13, 10]

def splitCrlf : List UInt8 → List (List UInt8)
  | [] => [[]]
  | 13 :: 10 :: rest => [] :: splitCrlf rest
  | byte :: rest =>
    match splitCrlf rest with
    | [] => [[byte]]
    | line :: more => (byte :: line) :: more

def splitOnce (separator : UInt8) (text : List UInt8) : Option (List UInt8 × List UInt8) :=
  match text.dropWhile (· ≠ separator) with
  | [] => none
  | _ :: rest => some (text.takeWhile (· ≠ separator), rest)

def rsplitOnce (separator : UInt8) (text : List UInt8) : Option (List UInt8 × List UInt8) :=
  (splitOnce separator text.reverse).map fun split => (split.2.reverse, split.1.reverse)

theorem splitCrlf_line {line : List UInt8} (h : 13 ∉ line) (rest : List UInt8) :
    splitCrlf (line ++ crlf ++ rest) = line :: splitCrlf rest := by
  induction line with
  | nil => rfl
  | cons byte line ih =>
    have hbyte : byte ≠ 13 := fun heq => h (heq ▸ mem_cons_self)
    have hmore := ih fun hmem => h (mem_cons_of_mem _ hmem)
    rw [cons_append, cons_append, splitCrlf, hmore]
    intro rest heq
    exact absurd heq hbyte

theorem splitCrlf_lines {lines : List (List UInt8)} (h : ∀ line ∈ lines, 13 ∉ line) (rest : List UInt8) :
    splitCrlf (lines.flatMap (· ++ crlf) ++ rest) = lines ++ splitCrlf rest := by
  induction lines with
  | nil => rfl
  | cons line lines ih =>
    rw [flatMap_cons, append_assoc, splitCrlf_line (h line mem_cons_self),
      ih fun line hline => h line (mem_cons_of_mem _ hline), cons_append]

variable {text : List UInt8} {separator : UInt8}

theorem validFrom_splitCrlf {owed : List (UInt8 × UInt8)} (howed : Utf8.Owed owed)
    (h : Utf8.validFrom owed text = true) :
    ∃ line more, splitCrlf text = line :: more ∧ Utf8.validFrom owed line = true ∧
      ∀ line ∈ more, Utf8.valid line = true := by
  fun_induction splitCrlf text generalizing owed with
  | case1 => exact ⟨[], [], rfl, h, by simp⟩
  | case2 rest ih =>
    cases owed with
    | nil =>
      obtain ⟨line, more, hsplit, hline, hmore⟩ := ih Utf8.owed_nil h
      refine ⟨[], splitCrlf rest, rfl, rfl, ?_⟩
      rw [hsplit]
      exact forall_mem_cons.mpr ⟨hline, hmore⟩
    | cons range owed =>
      have hnot := Utf8.validFrom_of_append (a := []) howed rfl h
      cases hnot.1
  | case3 byte rest hne hsplit ih =>
    obtain ⟨owed', howed', hrest, hcons⟩ := Utf8.validFrom_cons howed h
    obtain ⟨line, more, hline, -⟩ := ih howed' hrest
    rw [hsplit] at hline
    cases hline
  | case4 byte rest hne line more hsplit ih =>
    obtain ⟨owed', howed', hrest, hcons⟩ := Utf8.validFrom_cons howed h
    obtain ⟨line', more', hsplit', hline, hmore⟩ := ih howed' hrest
    rw [hsplit] at hsplit'
    cases hsplit'
    exact ⟨byte :: line, more, rfl, (hcons line).trans hline, hmore⟩

theorem valid_of_mem_splitCrlf {line : List UInt8} (h : Utf8.valid text = true) (hline : line ∈ splitCrlf text) :
    Utf8.valid line = true := by
  obtain ⟨first, more, hsplit, hfirst, hmore⟩ := validFrom_splitCrlf Utf8.owed_nil h
  rw [hsplit] at hline
  rcases mem_cons.mp hline with rfl | hline
  · exact hfirst
  · exact hmore line hline

theorem splitOnce_cons (separator byte : UInt8) (bytes : List UInt8) : splitOnce separator (byte :: bytes) =
      if byte = separator then some ([], bytes) else (splitOnce separator bytes).map fun split => (byte :: split.1, split.2) := by
  unfold splitOnce
  by_cases h : byte = separator
  · simp [h]
  simp only [dropWhile_cons, takeWhile_cons, ne_eq, h, not_false_eq_true, decide_true, if_true, if_false]
  cases bytes.dropWhile (· ≠ separator) <;> rfl

theorem splitOnce_eq_some {bytes before rest : List UInt8} :
    splitOnce separator bytes = some (before, rest) ↔ bytes = before ++ separator :: rest ∧ separator ∉ before := by
  induction bytes generalizing before with
  | nil => simp [splitOnce]
  | cons byte bytes ih =>
    rw [splitOnce_cons]
    cases before with
    | nil =>
      by_cases h : byte = separator
      · simp [h]
      · simp [h]
    | cons first before =>
      by_cases h : byte = separator
      · subst h
        simp only [if_true, Option.some.injEq, Prod.mk.injEq, cons_append, cons.injEq, mem_cons, not_or]
        constructor
        · rintro ⟨⟨⟩, -⟩
        · rintro ⟨⟨hfirst, -⟩, hne, -⟩
          exact absurd hfirst hne
      · simp only [h, if_false, Option.map_eq_some_iff, Prod.mk.injEq, Prod.exists, cons.injEq, cons_append,
          mem_cons, not_or]
        constructor
        · rintro ⟨before', rest', hsplit, ⟨rfl, rfl⟩, rfl⟩
          obtain ⟨hbytes, hnot⟩ := ih.mp hsplit
          exact ⟨⟨rfl, hbytes⟩, Ne.symm h, hnot⟩
        · rintro ⟨⟨rfl, hbytes⟩, -, hnot⟩
          exact ⟨before, rest, ih.mpr ⟨hbytes, hnot⟩, ⟨rfl, rfl⟩, rfl⟩

theorem splitOnce_eq_none {bytes : List UInt8} : splitOnce separator bytes = none ↔ separator ∉ bytes := by
  induction bytes with
  | nil => simp [splitOnce]
  | cons byte bytes ih =>
    rw [splitOnce_cons]
    by_cases h : byte = separator
    · simp [h]
    · simp [h, ih, Ne.symm h]

theorem mem_intercalate {byte : UInt8} {parts : List (List UInt8)}
    (h : byte ∈ [separator].intercalate parts) : byte = separator ∨ ∃ part ∈ parts, byte ∈ part := by
  induction parts with
  | nil => cases h
  | cons part parts ih =>
    cases parts with
    | nil =>
      rw [intercalate_singleton] at h
      exact .inr ⟨part, mem_cons_self, h⟩
    | cons next parts =>
      rw [intercalate_cons_cons, mem_append, mem_append] at h
      rcases h with (h | h) | h
      · exact .inr ⟨part, mem_cons_self, h⟩
      · exact .inl (mem_singleton.mp h)
      · rcases ih h with hsep | ⟨part, hpart, hbyte⟩
        · exact .inl hsep
        · exact .inr ⟨part, mem_cons_of_mem _ hpart, hbyte⟩

theorem mem_splitOn (separator : UInt8) {byte : UInt8} (h : byte ∈ text) :
    byte = separator ∨ ∃ part ∈ text.splitOn separator, byte ∈ part := by
  have hjoin : [separator].intercalate (text.splitOn separator) = text := intercalate_splitOn separator
  rw [← hjoin] at h
  exact mem_intercalate h

end Lines

import Mathlib.Data.List.Basic
import Mathlib.Data.List.DropRight
import Mathlib.Data.List.Infix

/-!
# Rust `str` operations on character lists

A Rust `str` is modelled by the list of its characters. The operations below are the ones
of the standard library that text protocols are parsed with: trimming of Unicode
`White_Space`, prefix and suffix tests, `lines`, `split` at a character, and the decimal
`FromStr` of the fixed-width integers. The lemmas say how the operations act on
concatenations, which is how a parser's result on an assembled buffer is computed.
-/

namespace RustStd

/-- A Rust `str`: its characters in order. -/
abbrev Str := List Char

/-! ### Trimming -/

/-- `char::is_whitespace`: the Unicode `White_Space` property. -/
def isWhitespace (c : Char) : Bool :=
  let n := c.toNat
  (9 ≤ n && n ≤ 13) || n == 0x20 || n == 0x85 || n == 0xA0 || n == 0x1680 ||
    (0x2000 ≤ n && n ≤ 0x200A) || n == 0x2028 || n == 0x2029 || n == 0x202F ||
    n == 0x205F || n == 0x3000

/-- `str::trim_start`. -/
def trimStart (s : Str) : Str := s.dropWhile isWhitespace

/-- `str::trim_end`. -/
def trimEnd (s : Str) : Str := s.rdropWhile isWhitespace

/-- `str::trim`. -/
def trim (s : Str) : Str := trimEnd (trimStart s)

@[simp] theorem trim_nil : trim [] = [] := rfl

/-- Leading whitespace does not change the trimmed text. -/
theorem trim_append_of_all {ws : Str} (h : ∀ c ∈ ws, isWhitespace c) (s : Str) :
    trim (ws ++ s) = trim s := by
  rw [trim, trim, trimStart, trimStart, List.dropWhile_append_of_pos h]

theorem trimEnd_append_of_all {ws : Str} (h : ∀ c ∈ ws, isWhitespace c) (s : Str) :
    trimEnd (s ++ ws) = trimEnd s := by
  rw [trimEnd, trimEnd, List.rdropWhile, List.rdropWhile, List.reverse_append,
    List.dropWhile_append_of_pos fun c hc => h c (List.mem_reverse.mp hc)]

/-- A text is its trim with whitespace on both sides. -/
theorem exists_trim (s : Str) : ∃ before after, s = before ++ trim s ++ after ∧
    (∀ c ∈ before, isWhitespace c) ∧ ∀ c ∈ after, isWhitespace c := by
  refine ⟨s.takeWhile isWhitespace, (trimStart s).rtakeWhile isWhitespace, ?_, ?_, ?_⟩
  · rw [trim, trimEnd, List.append_assoc, List.rdropWhile_append_rtakeWhile, trimStart,
      List.takeWhile_append_dropWhile]
  · exact fun c hc => List.mem_takeWhile_imp hc
  · exact fun c hc => List.mem_rtakeWhile_imp hc

/-- Text that neither starts nor ends with whitespace is its own trim. -/
theorem trim_eq_self {s : Str} (hhead : ∀ c ∈ s.head?, isWhitespace c = false)
    (hlast : ∀ c ∈ s.getLast?, isWhitespace c = false) : trim s = s := by
  have hstart : trimStart s = s := by
    cases s with
    | nil => rfl
    | cons c t =>
      have hc : isWhitespace c = false := hhead c rfl
      simp [trimStart, hc]
  rw [trim, hstart, trimEnd]
  rcases List.eq_nil_or_concat s with rfl | ⟨t, c, rfl⟩
  · rfl
  · have hc : isWhitespace c = false := hlast c (by simp)
    rw [List.concat_eq_append, List.rdropWhile_concat_neg _ _ _ (by simp [hc])]

/-- The trimmed text does not start with whitespace. -/
theorem head?_trim {s : Str} {c : Char} (h : c ∈ (trim s).head?) : isWhitespace c = false := by
  obtain ⟨r, hr⟩ : trim s <+: trimStart s := List.rdropWhile_prefix _ _
  have hmem : (trimStart s).head? = some c := by
    rw [← hr, List.head?_append, Option.mem_def.mp h, Option.some_or]
  have hnot := List.head?_dropWhile_not isWhitespace s
  rw [trimStart] at hmem
  simpa only [hmem] using hnot

/-- The trimmed text does not end with whitespace. -/
theorem getLast?_trim {s : Str} {c : Char} (h : c ∈ (trim s).getLast?) :
    isWhitespace c = false := by
  have hne : (trimStart s).rdropWhile isWhitespace ≠ [] := by
    intro hnil
    simp [trim, trimEnd, hnil] at h
  have hlast := List.rdropWhile_last_not isWhitespace (trimStart s) hne
  have hc : c = ((trimStart s).rdropWhile isWhitespace).getLast hne := by
    rw [trim, trimEnd, List.getLast?_eq_some_getLast hne] at h
    simpa using h.symm
  rw [hc]
  simpa using hlast

/-- Trimming adds no characters. -/
theorem mem_of_mem_trim {s : Str} {c : Char} (h : c ∈ trim s) : c ∈ s := by
  have hstart : c ∈ trimStart s := (List.rdropWhile_prefix _ _).subset h
  exact (List.dropWhile_suffix _).subset hstart

@[simp] theorem trim_trim (s : Str) : trim (trim s) = trim s :=
  trim_eq_self (fun _ h => head?_trim h) (fun _ h => getLast?_trim h)

/-- Trimming removes everything exactly when everything is whitespace. -/
theorem trim_eq_nil_iff {s : Str} : trim s = [] ↔ ∀ c ∈ s, isWhitespace c := by
  constructor
  · intro h
    have hstart : ∀ c ∈ trimStart s, isWhitespace c := List.rdropWhile_eq_nil_iff.mp h
    have hnil : trimStart s = [] := by
      by_contra hne
      have hhead := List.head_dropWhile_not isWhitespace hne
      exact absurd (hstart _ (List.head_mem hne)) (by simp [trimStart, hhead])
    exact List.dropWhile_eq_nil_iff.mp hnil
  · intro h
    have := trim_append_of_all h []
    simpa using this

/-- Trailing whitespace does not change the trimmed text. -/
theorem trim_append_of_all_right {ws : Str} (h : ∀ c ∈ ws, isWhitespace c) (s : Str) :
    trim (s ++ ws) = trim s := by
  by_cases hs : ∀ c ∈ s, isWhitespace c
  · rw [trim_eq_nil_iff.mpr hs, trim_eq_nil_iff]
    exact List.forall_mem_append.mpr ⟨hs, h⟩
  · have hne : (s.dropWhile isWhitespace).isEmpty = false :=
      List.isEmpty_eq_false_iff.mpr fun hnil => hs (List.dropWhile_eq_nil_iff.mp hnil)
    rw [trim, trim, trimStart, List.dropWhile_append, hne]
    exact trimEnd_append_of_all h _

/-- The texts that are trimmed to a text: those that have it between whitespace. -/
theorem trim_eq_iff {s t : Str} :
    trim s = t ↔ trim t = t ∧ ∃ before after, s = before ++ t ++ after ∧
      (∀ c ∈ before, isWhitespace c) ∧ ∀ c ∈ after, isWhitespace c := by
  constructor
  · rintro rfl
    exact ⟨trim_trim s, exists_trim s⟩
  · rintro ⟨ht, before, after, rfl, hbefore, hafter⟩
    rw [trim_append_of_all_right hafter, trim_append_of_all hbefore, ht]

theorem trim_trimEnd (s : Str) : trim (trimEnd s) = trim s := by
  conv_rhs => rw [← List.rdropWhile_append_rtakeWhile (p := isWhitespace) (l := s)]
  exact (trim_append_of_all_right (fun c hc => List.mem_rtakeWhile_imp hc) _).symm

/-- Text after a part that starts and ends with other characters is only trimmed at its end. -/
theorem trim_append_of_ends {s : Str} (hhead : ∃ c ∈ s.head?, isWhitespace c = false)
    (hlast : ∃ c ∈ s.getLast?, isWhitespace c = false) (t : Str) :
    trim (s ++ t) = s ++ trimEnd t := by
  obtain ⟨first, hfirst, hhead⟩ := hhead
  obtain ⟨last, hend, hlast⟩ := hlast
  have ht : t = trimEnd t ++ t.rtakeWhile isWhitespace := List.rdropWhile_append_rtakeWhile.symm
  conv_lhs => rw [ht, ← List.append_assoc]
  rw [trim_append_of_all_right fun c hc => List.mem_rtakeWhile_imp hc]
  refine trim_eq_self (fun c hc => ?_) fun c hc => ?_
  · rw [List.head?_append, Option.mem_def.mp hfirst, Option.some_or, Option.mem_some_iff] at hc
    exact hc ▸ hhead
  · by_cases hnil : trimEnd t = []
    · rw [hnil, List.append_nil, Option.mem_def.mp hend, Option.mem_some_iff] at hc
      exact hc ▸ hlast
    · rw [List.getLast?_append_of_ne_nil _ hnil, List.getLast?_eq_some_getLast hnil] at hc
      rw [← Option.mem_some_iff.mp hc]
      exact Bool.eq_false_iff.mpr (List.rdropWhile_last_not isWhitespace t hnil)

/-- Only whitespace is trimmed. -/
theorem mem_trimEnd {c : Char} (hc : isWhitespace c = false) {s : Str} : c ∈ trimEnd s ↔ c ∈ s := by
  conv_rhs => rw [← List.rdropWhile_append_rtakeWhile (p := isWhitespace) (l := s), List.mem_append]
  refine (or_iff_left fun hmem => ?_).symm
  rw [List.mem_rtakeWhile_imp hmem] at hc
  cases hc

/-- Text without whitespace is its own trim. -/
theorem trim_of_noWhitespace {s : Str} (h : ∀ c ∈ s, isWhitespace c = false) : trim s = s :=
  trim_eq_self (fun c hc => h c (List.mem_of_mem_head? hc))
    (fun c hc => h c (List.mem_of_mem_getLast? hc))

/-- Text that does not start with whitespace keeps its first character. -/
theorem head?_trim_cons {c : Char} (hc : isWhitespace c = false) (s : Str) :
    (trim (c :: s)).head? = some c := by
  have hstart : trimStart (c :: s) = c :: s := by simp [trimStart, hc]
  obtain ⟨t, ht⟩ : trim (c :: s) <+: trimStart (c :: s) := List.rdropWhile_prefix _ _
  have hne : trim (c :: s) ≠ [] := by
    rw [Ne, trim_eq_nil_iff]
    intro h
    have := h c (List.mem_cons_self ..)
    simp [hc] at this
  rw [hstart] at ht
  obtain ⟨d, u, hd⟩ := List.exists_cons_of_ne_nil hne
  rw [hd, List.cons_append] at ht
  rw [hd, (List.cons.inj ht).1]
  rfl

/-! ### Prefixes, suffixes, lines and fields -/

/-- `iter().rposition(p)`: the last index at which the test holds. -/
def rposition {α : Type*} (p : α → Bool) (l : List α) : Option ℕ :=
  (l.reverse.findIdx? p).map fun k => l.length - 1 - k

/-- The last index at which the test holds is before text on which it fails. -/
theorem rposition_append {α : Type*} {p : α → Bool} {l r : List α} {a : α} (ha : p a)
    (hr : ∀ b ∈ r, p b = false) : rposition p (l ++ a :: r) = some l.length := by
  -- searched from the end, the text after `a` is skipped
  have hskip : (r.reverse ++ a :: l.reverse).findIdx? p = some r.length := by
    rw [List.findIdx?_append, List.findIdx?_eq_none_iff.mpr fun b hb => hr b (by simpa using hb)]
    simp [List.findIdx?_cons, ha]
  have hreverse : (l ++ a :: r).reverse = r.reverse ++ a :: l.reverse := by simp
  rw [rposition, hreverse, hskip, Option.map_some, List.length_append, List.length_cons]
  exact congrArg some (by omega)

/-- A list splits at the last occurrence of a member. -/
theorem exists_split_last {α : Type*} {a : α} {l : List α} (h : a ∈ l) :
    ∃ before after, l = before ++ a :: after ∧ a ∉ after := by
  obtain ⟨after, before, hl, hafter⟩ := List.eq_append_cons_of_mem (List.mem_reverse.mpr h)
  refine ⟨before.reverse, after.reverse, ?_, by simpa using hafter⟩
  rw [← l.reverse_reverse, hl]
  simp

/-- `str::starts_with` for a string pattern. -/
def startsWith (s pattern : Str) : Bool := pattern.isPrefixOf s

/-- `str::ends_with` for a string pattern. -/
def endsWith (s pattern : Str) : Bool := pattern.isSuffixOf s

/-- `str::contains` for a string pattern. -/
def contains (s pattern : Str) : Bool := decide (pattern <:+: s)

/-- `str::strip_prefix` for a string pattern. -/
def stripPrefix (s pattern : Str) : Option Str :=
  if startsWith s pattern then some (s.drop pattern.length) else none

/-- `str::strip_suffix` for a string pattern. -/
def stripSuffix (s pattern : Str) : Option Str :=
  if endsWith s pattern then some (s.take (s.length - pattern.length)) else none

/-- `str::split_once` at a string pattern. -/
def splitOnce (pattern : Str) : Str → Option (Str × Str)
  | [] => if pattern = [] then some ([], []) else none
  | c :: s =>
    if startsWith (c :: s) pattern then some ([], (c :: s).drop pattern.length)
    else (splitOnce pattern s).map fun halves => (c :: halves.1, halves.2)

@[simp] theorem startsWith_append (p s : Str) : startsWith (p ++ s) p = true := by
  simp [startsWith]

@[simp] theorem stripPrefix_append (p s : Str) : stripPrefix (p ++ s) p = some s := by
  simp [stripPrefix]

theorem stripPrefix_eq_some_iff {s pattern t : Str} :
    stripPrefix s pattern = some t ↔ s = pattern ++ t := by
  constructor
  · intro h
    obtain ⟨hstarts, h⟩ := Option.ite_none_right_eq_some.mp h
    obtain ⟨rest, rfl⟩ := List.isPrefixOf_iff_prefix.mp hstarts
    rw [← Option.some_inj.mp h, List.drop_left]
  · rintro rfl
    exact stripPrefix_append pattern t

theorem stripSuffix_eq_some_iff {s pattern t : Str} :
    stripSuffix s pattern = some t ↔ s = t ++ pattern := by
  constructor
  · intro h
    obtain ⟨hends, h⟩ := Option.ite_none_right_eq_some.mp h
    obtain ⟨rest, rfl⟩ := List.isSuffixOf_iff_suffix.mp hends
    rw [← Option.some_inj.mp h, List.length_append, Nat.add_sub_cancel, List.take_left]
  · rintro rfl
    have hends : endsWith (t ++ pattern) pattern :=
      List.isSuffixOf_iff_suffix.mpr (List.suffix_append t pattern)
    rw [stripSuffix, if_pos hends, List.length_append, Nat.add_sub_cancel, List.take_left]

/-- The end of a line as `str::lines` drops it: `\n` was consumed, a `\r` before it goes too. -/
def chompCr (line : Str) : Str :=
  if line.getLast? = some '\r' then line.dropLast else line

/-- The loop of `str::lines`, with the characters of the current line read so far. -/
def linesFrom (line : Str) : Str → List Str
  | [] => if line = [] then [] else [line]
  | c :: s => if c = '\n' then chompCr line :: linesFrom [] s else linesFrom (line ++ [c]) s

/-- `str::lines`. -/
def lines (s : Str) : List Str := linesFrom [] s

/-- The loop of `str::split` at a character, with the current field read so far. -/
def splitFrom (sep : Char) (field : Str) : Str → List Str
  | [] => [field]
  | c :: s => if c = sep then field :: splitFrom sep [] s else splitFrom sep (field ++ [c]) s

/-- `str::split` at a character. -/
def split (sep : Char) (s : Str) : List Str := splitFrom sep [] s

/-- Text without a line end belongs to the current line. -/
theorem linesFrom_append_of_notMem {s : Str} (h : '\n' ∉ s) (line rest : Str) :
    linesFrom line (s ++ rest) = linesFrom (line ++ s) rest := by
  induction s generalizing line with
  | nil => simp
  | cons c s ih =>
    obtain ⟨hc, hs⟩ := not_or.mp (mt List.mem_cons.mpr h)
    rw [List.cons_append, linesFrom, if_neg (Ne.symm hc), ih hs, List.append_assoc,
      List.singleton_append]

theorem linesFrom_append {line s : Str} (h : '\n' ∉ s) (rest : Str) :
    linesFrom line (s ++ '\n' :: rest) = chompCr (line ++ s) :: lines rest := by
  rw [linesFrom_append_of_notMem h, linesFrom, if_pos rfl, lines]

/-- A terminated line that does not itself end in `\r` is the first line. -/
theorem lines_append {s : Str} (h : '\n' ∉ s) (hcr : s.getLast? ≠ some '\r') (rest : Str) :
    lines (s ++ '\n' :: rest) = s :: lines rest := by
  rw [lines, linesFrom_append h, List.nil_append, chompCr, if_neg hcr]

/-- Text without the separator belongs to the current field. -/
theorem splitFrom_append_of_notMem {sep : Char} {s : Str} (h : sep ∉ s) (field rest : Str) :
    splitFrom sep field (s ++ rest) = splitFrom sep (field ++ s) rest := by
  induction s generalizing field with
  | nil => simp
  | cons c s ih =>
    obtain ⟨hc, hs⟩ := not_or.mp (mt List.mem_cons.mpr h)
    rw [List.cons_append, splitFrom, if_neg (Ne.symm hc), ih hs, List.append_assoc,
      List.singleton_append]

theorem splitFrom_append {sep : Char} {field s : Str} (h : sep ∉ s) (rest : Str) :
    splitFrom sep field (s ++ sep :: rest) = (field ++ s) :: split sep rest := by
  rw [splitFrom_append_of_notMem h, splitFrom, if_pos rfl, split]

theorem splitFrom_of_notMem {sep : Char} {field s : Str} (h : sep ∉ s) :
    splitFrom sep field s = [field ++ s] := by
  rw [← List.append_nil s, splitFrom_append_of_notMem h, List.append_nil, splitFrom]

/-- The text before the first separator is the first field. -/
theorem split_append {sep : Char} {s : Str} (h : sep ∉ s) (rest : Str) :
    split sep (s ++ sep :: rest) = s :: split sep rest := by
  rw [split, splitFrom_append h, List.nil_append]

/-- A text without the separator is its own only field. -/
theorem split_of_notMem {sep : Char} {s : Str} (h : sep ∉ s) : split sep s = [s] := by
  rw [split, splitFrom_of_notMem h, List.nil_append]

/-- Every field but the first comes after a separator. -/
theorem intercalate_cons_eq (sep : Char) (field : Str) (fields : List Str) :
    [sep].intercalate (field :: fields) = field ++ fields.flatMap (sep :: ·) := by
  induction fields generalizing field with
  | nil => simp
  | cons next fields ih =>
    rw [List.intercalate_cons_cons, ih, List.flatMap_cons, List.append_assoc,
      List.singleton_append, List.cons_append]

/-- Joined fields that do not contain the separator are split again. -/
theorem split_intercalate {sep : Char} {fields : List Str} (hne : fields ≠ [])
    (h : ∀ field ∈ fields, sep ∉ field) : split sep ([sep].intercalate fields) = fields := by
  induction fields with
  | nil => exact absurd rfl hne
  | cons field fields ih =>
    obtain ⟨hfield, hfields⟩ := List.forall_mem_cons.mp h
    cases fields with
    | nil => rw [List.intercalate_singleton, split_of_notMem hfield]
    | cons next fields =>
      rw [List.intercalate_cons_cons, List.append_assoc, List.singleton_append,
        split_append hfield, ih (List.cons_ne_nil _ _) hfields]

/-- A join consists of its fields and separators. -/
theorem mem_intercalate {sep c : Char} {fields : List Str} (h : c ∈ [sep].intercalate fields) :
    c = sep ∨ ∃ field ∈ fields, c ∈ field := by
  induction fields with
  | nil => simp at h
  | cons field fields ih =>
    cases fields with
    | nil =>
      rw [List.intercalate_singleton] at h
      exact .inr ⟨field, List.mem_cons_self, h⟩
    | cons next fields =>
      rw [List.intercalate_cons_cons, List.mem_append, List.mem_append, List.mem_singleton] at h
      rcases h with (h | h) | h
      · exact .inr ⟨field, List.mem_cons_self, h⟩
      · exact .inl h
      · refine (ih h).imp_right ?_
        rintro ⟨other, hother, hc⟩
        exact ⟨other, List.mem_cons_of_mem _ hother, hc⟩

/-- Whitespace at the start of a text is at the start of its first field. -/
theorem map_trim_splitFrom_append {sep : Char} {ws : Str} (h : ∀ c ∈ ws, isWhitespace c)
    (field s : Str) :
    (splitFrom sep (ws ++ field) s).map trim = (splitFrom sep field s).map trim := by
  induction s generalizing field with
  | nil => simp [splitFrom, trim_append_of_all h]
  | cons c s ih =>
    simp only [splitFrom]
    split
    · simp [trim_append_of_all h]
    · rw [List.append_assoc, ih]

/-- Whitespace at the end of a text is at the end of its last field. -/
theorem map_trim_splitFrom_append_right {sep : Char} (hsep : isWhitespace sep = false) {ws : Str}
    (h : ∀ c ∈ ws, isWhitespace c) (field s : Str) :
    (splitFrom sep field (s ++ ws)).map trim = (splitFrom sep field s).map trim := by
  induction s generalizing field with
  | nil =>
    have hws : sep ∉ ws := fun hmem => by simp [h sep hmem] at hsep
    simp [splitFrom_of_notMem hws, splitFrom, trim_append_of_all_right h]
  | cons c s ih =>
    rw [List.cons_append, splitFrom, splitFrom]
    split
    · simp [ih]
    · exact ih _

/-- The trimmed fields are those of the trimmed text. -/
theorem map_trim_split_trim {sep : Char} (hsep : isWhitespace sep = false) (s : Str) :
    (split sep (trim s)).map trim = (split sep s).map trim := by
  obtain ⟨before, after, hs, hbefore, hafter⟩ := exists_trim s
  have hnotMem : sep ∉ before := fun hmem => by simp [hbefore sep hmem] at hsep
  calc (split sep (trim s)).map trim
    _ = (splitFrom sep (before ++ []) (trim s)).map trim :=
        (map_trim_splitFrom_append hbefore [] _).symm
    _ = (split sep (before ++ trim s)).map trim := by
        rw [split, splitFrom_append_of_notMem hnotMem, List.append_nil, List.nil_append]
    _ = (split sep (before ++ trim s ++ after)).map trim :=
        (map_trim_splitFrom_append_right hsep hafter [] _).symm
    _ = (split sep s).map trim := by rw [← hs]

/-! ### Lines -/

/-- The dropped `\r` is whitespace. -/
theorem trim_chompCr (line : Str) : trim (chompCr line) = trim line := by
  rw [chompCr]
  split
  · next hcr =>
    obtain ⟨init, rfl⟩ := List.getLast?_eq_some_iff.mp hcr
    rw [List.dropLast_concat, trim_append_of_all_right (List.forall_mem_singleton.mpr (by decide))]
  · rfl

theorem lines_append_newline {line : Str} (h : '\n' ∉ line) (rest : Str) :
    lines (line ++ '\n' :: rest) = chompCr line :: lines rest := by
  rw [lines, linesFrom_append h, List.nil_append]

/-- The last line need not be terminated. -/
theorem lines_of_notMem {line : Str} (h : '\n' ∉ line) (hne : line ≠ []) : lines line = [line] := by
  rw [lines, ← List.append_nil line, linesFrom_append_of_notMem h, List.nil_append, List.append_nil,
    linesFrom, if_neg hne]

/-- Terminated lines come before the others. -/
theorem lines_flatMap_append {earlier : List Str} (h : ∀ line ∈ earlier, '\n' ∉ line) (s : Str) :
    lines (earlier.flatMap (· ++ ['\n']) ++ s) = earlier.map chompCr ++ lines s := by
  induction earlier with
  | nil => rfl
  | cons line earlier ih =>
    obtain ⟨hline, hearlier⟩ := List.forall_mem_cons.mp h
    rw [List.flatMap_cons, List.append_assoc, List.append_assoc, List.singleton_append,
      lines_append_newline hline, ih hearlier, List.map_cons, List.cons_append]

end RustStd

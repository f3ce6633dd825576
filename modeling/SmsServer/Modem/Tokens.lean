import SmsServer.Modem.Lexer

/-!
# The token grammar of the serial stream

The grammar the line buffer reads, stated over whole tokens: newlines separate them, a `>` at the
start of one is a prompt and takes the spaces after it, and any other token runs to the next
newline. `processData?_eq_tokens` shows that one call of `process_data` splits the retained bytes
followed by the new ones by this grammar.
-/

namespace SmsServer

open RustStd

/-- A byte of a line. -/
def isText (b : UInt8) : Bool := !isNewline b

theorem isText_iff {b : UInt8} : isText b ↔ ¬ isNewline b := by
  rw [isText, Bool.not_eq_true', Bool.not_eq_true]

/-- The event of a terminated line: its trimmed text, nothing if it is blank. -/
def lineToken (line : List UInt8) : List LineEvent :=
  if trim (fromUtf8Lossy line) = [] then [] else [.line (trim (fromUtf8Lossy line))]

theorem length_dropWhile_lt {p : UInt8 → Bool} {b : UInt8} (bs : List UInt8) :
    (bs.dropWhile p).length < (b :: bs).length :=
  Nat.lt_succ_of_le (List.dropWhile_suffix p).length_le

/-- The events of a byte string and its unterminated remainder. -/
def tokens : List UInt8 → List LineEvent × List UInt8
  | [] => ([], [])
  | b :: bs =>
    if isNewline b then tokens (bs.dropWhile isNewline)
    else if b = GT then
      let rest := tokens (bs.dropWhile (· == SP))
      (.prompt ">".toList :: rest.1, rest.2)
    else if (b :: bs).all isText then ([], b :: bs)
    else
      let rest := tokens (bs.dropWhile isText)
      (lineToken (b :: bs.takeWhile isText) ++ rest.1, rest.2)
termination_by bytes => bytes.length
decreasing_by all_goals exact length_dropWhile_lt bs

/-! ### The grammar as equations -/

@[simp] theorem tokens_nil : tokens [] = ([], []) := by rw [tokens]

theorem tokens_newline {b : UInt8} (hb : isNewline b) (bs : List UInt8) :
    tokens (b :: bs) = tokens (bs.dropWhile isNewline) := by
  rw [tokens, if_pos hb]

theorem tokens_prompt (bs : List UInt8) :
    tokens (GT :: bs) = (.prompt ">".toList :: (tokens (bs.dropWhile (· == SP))).1,
      (tokens (bs.dropWhile (· == SP))).2) := by
  rw [tokens, if_neg (by decide), if_pos rfl]

theorem tokens_remainder {b : UInt8} {bs : List UInt8} (hb : b ≠ GT)
    (h : ∀ c ∈ b :: bs, isText c) : tokens (b :: bs) = ([], b :: bs) := by
  rw [tokens, if_neg (isText_iff.mp (h b List.mem_cons_self)), if_neg hb,
    if_pos (List.all_eq_true.mpr h)]

theorem tokens_line {b : UInt8} {bs : List UInt8} (hnl : ¬ isNewline b) (hb : b ≠ GT)
    (h : ¬ ∀ c ∈ b :: bs, isText c) :
    tokens (b :: bs) = (lineToken (b :: bs.takeWhile isText) ++
      (tokens (bs.dropWhile isText)).1, (tokens (bs.dropWhile isText)).2) := by
  rw [tokens, if_neg hnl, if_neg hb, if_neg fun hall => h (List.all_eq_true.mp hall)]

/-! ### The lexer reads tokens -/

/-- The code drops blank lines twice: whitespace bytes before decoding, and empty text after. -/
theorem tryCreateEvent_line (line : List UInt8) :
    (LineBuffer.tryCreateEvent line .line).toList = lineToken line := by
  rw [LineBuffer.tryCreateEvent_eq, lineToken]
  by_cases hblank : line.all isAsciiWhitespace
  · have htrim : trim (fromUtf8Lossy line) = [] :=
      trim_eq_nil_iff.mpr (isWhitespace_fromUtf8Lossy (List.all_eq_true.mp hblank))
    rw [if_pos hblank, if_pos htrim]
    rfl
  · rw [if_neg hblank]
    split <;> rfl

/-- A terminated line, and what the lexer makes of the rest from its newline on. -/
theorem lex_textLine {b : UInt8} {bs : List UInt8} (hnl : ¬ isNewline b) (hb : b ≠ GT)
    (h : ¬ ∀ c ∈ b :: bs, isText c) :
    lex .lineStart (b :: bs) =
      ((lex .lineStart (bs.dropWhile isText)).1,
        lineToken (b :: bs.takeWhile isText) ++ (lex .lineStart (bs.dropWhile isText)).2) := by
  -- the line ends at the first newline
  obtain ⟨c, rest, hrest⟩ : ∃ c rest, bs.dropWhile isText = c :: rest := by
    refine List.exists_cons_of_ne_nil fun hnil => h ?_
    exact List.forall_mem_cons.mpr ⟨isText_iff.mpr hnl, List.dropWhile_eq_nil_iff.mp hnil⟩
  have hc : isNewline c := by
    have hnot := List.head?_dropWhile_not isText bs
    rw [hrest, List.head?_cons] at hnot
    simpa [isText] using hnot
  have hline : lex .lineStart (b :: bs.takeWhile isText) =
      (.inLine (b :: bs.takeWhile isText), []) := by
    rw [lex_cons, lexByte, lexLineStart, if_neg hnl, if_neg hb,
      lex_inLine fun d hd => isText_iff.mp (List.mem_takeWhile_imp hd)]
    rfl
  have hsplit : b :: bs = (b :: bs.takeWhile isText) ++ bs.dropWhile isText := by
    rw [List.cons_append, List.takeWhile_append_dropWhile]
  have hstart : lexByte .lineStart c = (.lineStart, []) := by
    rw [lexByte, lexLineStart, if_pos hc]
  have hend : lexByte (.inLine (b :: bs.takeWhile isText)) c =
      (.lineStart, lineToken (b :: bs.takeWhile isText)) := by
    rw [lexByte, if_pos hc, tryCreateEvent_line]
  rw [hsplit, lex_append, hline, hrest]
  simp only [lex_cons, hstart, hend, List.nil_append]

/-- **Tokens.** The lexer emits the events of the tokens, and leaves the remainder pending. -/
theorem lex_eq_tokens (bs : List UInt8) :
    (lex .lineStart bs).2 = (tokens bs).1 ∧ (lex .lineStart bs).1.pending = (tokens bs).2 := by
  induction bs using tokens.induct with
  | case1 =>
    rw [tokens_nil]
    exact ⟨rfl, rfl⟩
  | case2 b bs hb ih =>
    rw [lex_dropWhile_newline] at ih
    rw [tokens_newline hb, lex_cons, lexByte, lexLineStart, if_pos hb]
    exact ih
  | case3 bs _ ih =>
    have hbyte : lexByte .lineStart GT = (.afterPrompt, [.prompt ">".toList]) := rfl
    obtain ⟨hevents, hpending⟩ := lex_dropWhile_space bs
    rw [tokens_prompt, lex_cons, hbyte, ← ih.1, ← ih.2, ← hevents, ← hpending]
    exact ⟨rfl, rfl⟩
  | case4 b bs hnl hb hall =>
    have htext := List.all_eq_true.mp hall
    rw [tokens_remainder hb htext]
    obtain ⟨hstate, hevents⟩ := lex_lineStart_text (fun c hc => isText_iff.mp (htext c hc))
      (fun hhead => hb (Option.some_inj.mp hhead))
    rw [hstate, hevents]
    exact ⟨rfl, rfl⟩
  | case5 b bs hnl hb hall ih =>
    have hline : ¬ ∀ c ∈ b :: bs, isText c := fun h => hall (List.all_eq_true.mpr h)
    rw [tokens_line hnl hb hline, lex_textLine hnl hb hline, ← ih.1, ← ih.2]
    exact ⟨rfl, rfl⟩

/-- The remainder has no newline in it. -/
theorem isText_of_mem_tokens {bs : List UInt8} : ∀ b ∈ (tokens bs).2, ¬ isNewline b := by
  rw [← (lex_eq_tokens bs).2]
  have hvalid := lex_valid (s := .lineStart) trivial bs
  cases hstate : (lex .lineStart bs).1 with
  | inLine line =>
    rw [hstate] at hvalid
    exact hvalid.2.1
  | _ => exact fun b hb => nomatch hb

/-- The last bytes of a remainder, `size` of them at most. -/
def lastBytes (size : ℕ) (rest : List UInt8) : List UInt8 := rest.rtake (min rest.length size)

/-- Of a remainder without a newline, the size check keeps the last bytes. -/
theorem truncate_eq_lastBytes {rest : List UInt8} (h : ∀ b ∈ rest, ¬ isNewline b) (size : ℕ) :
    LineBuffer.truncate size rest = lastBytes size rest := by
  have hnone : ∀ n, rposition (· == LF) (rest.take n) = none := by
    intro n
    refine Option.map_eq_none_iff.mpr (List.findIdx?_eq_none_iff.mpr fun b hb => ?_)
    have hnl := h b (List.mem_of_mem_take (List.mem_reverse.mp hb))
    rw [isNewline_iff, not_or] at hnl
    exact beq_false_of_ne hnl.2
  simp only [LineBuffer.truncate, lastBytes, List.rtake]
  split
  · next hlong => rw [hnone, Option.elim_none, min_eq_right hlong.le]
  · next hshort => rw [min_eq_left (not_lt.mp hshort), Nat.sub_self, List.drop_zero]

/-- **Tokens.** One call of `process_data` does not panic, returns the events of the tokens of the
retained bytes followed by the new ones, and retains the last bytes of their unterminated
remainder, as many as fit, among which there is no newline. -/
theorem processData?_eq_tokens (self : LineBuffer) (data : List UInt8) :
    self.processData? data = some ((tokens (self.buffer ++ data)).1,
      { self with buffer := lastBytes self.maxBufferSize (tokens (self.buffer ++ data)).2 }) ∧
      ∀ b ∈ (tokens (self.buffer ++ data)).2, b ≠ CR ∧ b ≠ LF := by
  obtain ⟨hevents, hpending⟩ := lex_eq_tokens (self.buffer ++ data)
  refine ⟨?_, fun b hb => ?_⟩
  · rw [processData?_eq, hevents, hpending, LineBuffer.retain,
      truncate_eq_lastBytes isText_of_mem_tokens]
  · have hnl := isText_of_mem_tokens b hb
    rwa [isNewline_iff, not_or] at hnl

end SmsServer

import SmsServer.Library.Machine
import SmsServer.Modem.Buffer

/-!
# The line lexer

What the line buffer is for, stated as a byte-at-a-time transducer: at the start of a line a
`>` is a prompt, which also takes the spaces after it; CR and LF end a line; every other byte
belongs to the current line. `scan_eq` shows that the two-index loop of `process_data` computes
exactly this on the retained bytes followed by the new ones, without panicking, so
`processData` is total.
-/

namespace SmsServer

open RustStd Machine

/-- Where the lexer stands between two bytes. -/
inductive LexState
  | lineStart
  | afterPrompt
  | inLine (line : List UInt8)
  deriving DecidableEq, Repr

namespace LexState

/-- The bytes of the unterminated line. -/
def pending : LexState → List UInt8
  | inLine line => line
  | _ => []

@[simp] theorem pending_lineStart : lineStart.pending = [] := rfl

@[simp] theorem pending_afterPrompt : afterPrompt.pending = [] := rfl

@[simp] theorem pending_inLine (line : List UInt8) : (inLine line).pending = line := rfl

end LexState

/-- A byte at the start of a line. -/
def lexLineStart (b : UInt8) : LexState × List LineEvent :=
  if isNewline b then (.lineStart, [])
  else if b = GT then (.afterPrompt, [.prompt ">".toList])
  else (.inLine [b], [])

/-- One byte of the lexer. -/
def lexByte : LexState → UInt8 → LexState × List LineEvent
  | .lineStart, b => lexLineStart b
  | .afterPrompt, b => if b = SP then (.afterPrompt, []) else lexLineStart b
  | .inLine line, b =>
    if isNewline b then (.lineStart, (LineBuffer.tryCreateEvent line .line).toList)
    else (.inLine (line ++ [b]), [])

/-- The lexer on a byte string. -/
def lex : LexState → List UInt8 → LexState × List LineEvent := Transducer.run lexByte

@[simp] theorem lex_nil (s : LexState) : lex s [] = (s, []) := rfl

theorem lex_cons (s : LexState) (b : UInt8) (bs : List UInt8) :
    lex s (b :: bs) =
      ((lex (lexByte s b).1 bs).1, (lexByte s b).2 ++ (lex (lexByte s b).1 bs).2) := rfl

theorem lex_append (s : LexState) (bs cs : List UInt8) :
    lex s (bs ++ cs) = ((lex (lex s bs).1 cs).1, (lex s bs).2 ++ (lex (lex s bs).1 cs).2) :=
  Transducer.run_append s bs cs

/-! ### Lexing a known stretch of bytes -/

@[simp] theorem isNewline_iff {b : UInt8} : isNewline b = true ↔ b = CR ∨ b = LF := by
  simp [isNewline]

/-- A run of newlines at the start of a line is skipped. -/
theorem lex_newlines {bs : List UInt8} (h : ∀ b ∈ bs, isNewline b) (rest : List UInt8) :
    lex .lineStart (bs ++ rest) = lex .lineStart rest := by
  induction bs with
  | nil => rfl
  | cons b bs ih =>
    have hb : isNewline b := h b (by simp)
    have hbs : ∀ c ∈ bs, isNewline c := fun c hc => h c (by simp [hc])
    rw [List.cons_append, lex_cons, lexByte, lexLineStart, if_pos hb, ih hbs]
    simp

/-- Spaces after a prompt belong to the prompt. -/
theorem lex_spaces {bs : List UInt8} (h : ∀ b ∈ bs, b = SP) (rest : List UInt8) :
    lex .afterPrompt (bs ++ rest) = lex .afterPrompt rest := by
  induction bs with
  | nil => rfl
  | cons b bs ih =>
    obtain rfl : b = SP := h b (by simp)
    have hbs : ∀ c ∈ bs, c = SP := fun c hc => h c (by simp [hc])
    rw [List.cons_append, lex_cons, lexByte, if_pos rfl, ih hbs]
    simp

/-- Without spaces in front, the end of a prompt is the start of a line. -/
theorem lex_afterPrompt {bs : List UInt8} (h : bs.head? ≠ some SP) :
    (lex .afterPrompt bs).2 = (lex .lineStart bs).2 ∧
      (lex .afterPrompt bs).1.pending = (lex .lineStart bs).1.pending := by
  cases bs with
  | nil => exact ⟨rfl, rfl⟩
  | cons b bs =>
    have hb : b ≠ SP := fun hb => h (by simp [hb])
    have hbyte : lexByte .afterPrompt b = lexByte .lineStart b := if_neg hb
    rw [lex_cons, lex_cons, hbyte]
    exact ⟨rfl, rfl⟩

/-- At the start of a line, the newlines that follow are skipped. -/
theorem lex_dropWhile_newline (bs : List UInt8) :
    lex .lineStart (bs.dropWhile isNewline) = lex .lineStart bs := by
  conv_rhs => rw [← List.takeWhile_append_dropWhile (p := isNewline) (l := bs)]
  rw [lex_newlines fun c hc => List.mem_takeWhile_imp hc]

/-- After a prompt, the spaces that follow are skipped and a line starts. -/
theorem lex_dropWhile_space (bs : List UInt8) :
    (lex .afterPrompt bs).2 = (lex .lineStart (bs.dropWhile (· == SP))).2 ∧
      (lex .afterPrompt bs).1.pending = (lex .lineStart (bs.dropWhile (· == SP))).1.pending := by
  have hhead : (bs.dropWhile (· == SP)).head? ≠ some SP := by
    intro hhead
    have hnot := List.head?_dropWhile_not (· == SP) bs
    rw [hhead] at hnot
    exact absurd hnot (by decide)
  have hskip : lex .afterPrompt bs = lex .afterPrompt (bs.dropWhile (· == SP)) := by
    conv_lhs => rw [← List.takeWhile_append_dropWhile (p := (· == SP)) (l := bs)]
    rw [lex_spaces fun c hc => by simpa using List.mem_takeWhile_imp hc]
  rw [hskip]
  exact lex_afterPrompt hhead

/-- Bytes without a newline extend the current line. -/
theorem lex_inLine {bs : List UInt8} (h : ∀ b ∈ bs, ¬ isNewline b) (line : List UInt8) :
    lex (.inLine line) bs = (.inLine (line ++ bs), []) := by
  induction bs generalizing line with
  | nil => simp
  | cons b bs ih =>
    have hb : ¬ isNewline b := h b (by simp)
    have hbs : ∀ c ∈ bs, ¬ isNewline c := fun c hc => h c (by simp [hc])
    rw [lex_cons, lexByte, if_neg hb, ih hbs]
    simp

/-- Text that is neither empty, nor a prompt, nor has a newline in it, is one partial line. -/
theorem lex_lineStart_text {bs : List UInt8} (h : ∀ b ∈ bs, ¬ isNewline b)
    (hhead : bs.head? ≠ some GT) :
    (lex .lineStart bs).1 = (if bs = [] then .lineStart else .inLine bs) ∧
      (lex .lineStart bs).2 = [] := by
  cases bs with
  | nil => exact ⟨rfl, rfl⟩
  | cons b bs =>
    have hb : ¬ isNewline b := h b (by simp)
    have hgt : b ≠ GT := fun hb => hhead (by simp [hb])
    have hbs : ∀ c ∈ bs, ¬ isNewline c := fun c hc => h c (by simp [hc])
    rw [lex_cons, lexByte, lexLineStart, if_neg hb, if_neg hgt, lex_inLine hbs]
    exact ⟨rfl, rfl⟩

/-- What a state can be pending: text of a line that did not start as a prompt. -/
def LexState.Valid : LexState → Prop
  | .inLine line => line ≠ [] ∧ (∀ b ∈ line, ¬ isNewline b) ∧ line.head? ≠ some GT
  | _ => True

theorem lexByte_valid (s : LexState) (b : UInt8) (hs : s.Valid) : (lexByte s b).1.Valid := by
  have hstart : (lexLineStart b).1.Valid := by
    unfold lexLineStart
    split
    · trivial
    · split
      · trivial
      · exact ⟨by simp, by simpa using ‹¬ isNewline b = true›, by simpa using ‹¬ b = GT›⟩
  cases s with
  | lineStart => exact hstart
  | afterPrompt =>
    rw [lexByte]
    split
    · trivial
    · exact hstart
  | inLine line =>
    obtain ⟨hne, hnew, hhead⟩ := hs
    rw [lexByte]
    split
    · trivial
    · next hb =>
      refine ⟨by simp, fun c hc => ?_, by rwa [List.head?_append_of_ne_nil _ hne]⟩
      rcases List.mem_append.mp hc with hc | hc
      · exact hnew c hc
      · obtain rfl : c = b := by simpa using hc
        exact hb

theorem lex_valid {s : LexState} (hs : s.Valid) (bs : List UInt8) : (lex s bs).1.Valid :=
  Transducer.run_invariant lexByte_valid hs bs

/-- What the lexer emits: prompts, and the events of lines without a newline in them. -/
theorem mem_lex {s : LexState} (hs : s.Valid) {bs : List UInt8} {e : LineEvent}
    (he : e ∈ (lex s bs).2) :
    e = .prompt ">".toList ∨
      ∃ line, (∀ b ∈ line, ¬ isNewline b) ∧ LineBuffer.tryCreateEvent line .line = some e := by
  induction bs generalizing s with
  | nil => cases he
  | cons b bs ih =>
    have hstart : ∀ e ∈ (lexLineStart b).2, e = .prompt ">".toList := by
      intro e he
      unfold lexLineStart at he
      split at he
      · cases he
      · split at he
        · exact List.mem_singleton.mp he
        · cases he
    rw [lex_cons, List.mem_append] at he
    rcases he with he | he
    · cases s with
      | lineStart => exact .inl (hstart e he)
      | afterPrompt =>
        rw [lexByte] at he
        split at he
        · cases he
        · exact .inl (hstart e he)
      | inLine line =>
        rw [lexByte] at he
        split at he
        · exact .inr ⟨line, hs.2.1, Option.mem_toList.mp he⟩
        · cases he
    · exact ih (lexByte_valid s b hs) he

/-! ### Slices and skips -/

theorem slice?_eq {bytes : List UInt8} {first last : ℕ} (h : first ≤ last)
    (h' : last ≤ bytes.length) :
    slice? bytes first last = some ((bytes.drop first).take (last - first)) :=
  if_pos ⟨h, h'⟩

theorem skipWhile_le (p : UInt8 → Bool) {bytes : List UInt8} {i : ℕ} (h : i ≤ bytes.length) :
    skipWhile p bytes i ≤ bytes.length := by
  have hle : ((bytes.drop i).takeWhile p).length ≤ (bytes.drop i).length :=
    (List.takeWhile_prefix p).length_le
  rw [List.length_drop] at hle
  unfold skipWhile
  omega

theorem drop_skipWhile (p : UInt8 → Bool) (bytes : List UInt8) (i : ℕ) :
    bytes.drop (skipWhile p bytes i) = (bytes.drop i).dropWhile p := by
  obtain ⟨rest, hrest⟩ : ∃ rest, rest = (bytes.drop i).dropWhile p := ⟨_, rfl⟩
  have hsplit : bytes.drop i = (bytes.drop i).takeWhile p ++ rest := by
    rw [hrest, List.takeWhile_append_dropWhile]
  rw [skipWhile, ← List.drop_drop, ← hrest]
  generalize (bytes.drop i).takeWhile p = skipped at hsplit ⊢
  rw [hsplit, List.drop_left]

/-- The slice skipped over. -/
theorem take_skipWhile (p : UInt8 → Bool) (bytes : List UInt8) (i : ℕ) :
    (bytes.drop i).take (skipWhile p bytes i - i) = (bytes.drop i).takeWhile p := by
  rw [skipWhile, Nat.add_sub_cancel_left]
  exact (List.prefix_iff_eq_take.mp (List.takeWhile_prefix p)).symm

/-- A slice grows by the byte after it. -/
theorem take_drop_succ {bytes : List UInt8} {start i : ℕ} {b : UInt8} (hstart : start ≤ i)
    (hget : bytes[i]? = some b) :
    (bytes.drop start).take (i + 1 - start) = (bytes.drop start).take (i - start) ++ [b] := by
  rw [show i + 1 - start = (i - start) + 1 by omega, List.take_add_one, List.getElem?_drop,
    show start + (i - start) = i by omega, hget, Option.toList_some]

/-- The last byte of a slice. -/
theorem mem_take_drop {bytes : List UInt8} {start i : ℕ} {b : UInt8} (hlt : start < i)
    (hget : bytes[i - 1]? = some b) : b ∈ (bytes.drop start).take (i - start) := by
  refine List.mem_of_getElem? (i := i - 1 - start) ?_
  rw [List.getElem?_take_of_lt (by omega), List.getElem?_drop,
    show start + (i - 1 - start) = i - 1 by omega, hget]

/-! ### The scan computes the lexer -/

/-- ASCII whitespace decodes to whitespace. -/
theorem isWhitespace_fromUtf8Lossy {bs : List UInt8} (h : ∀ b ∈ bs, isAsciiWhitespace b) :
    ∀ c ∈ fromUtf8Lossy bs, isWhitespace c := by
  induction bs with
  | nil => simp
  | cons b bs ih =>
    obtain ⟨hb, hbs⟩ := List.forall_mem_cons.mp h
    have hascii : b < 0x80 ∧ isWhitespace (Char.ofNat b.toNat) := by
      simp only [isAsciiWhitespace, Bool.or_eq_true, beq_iff_eq, or_assoc] at hb
      rcases hb with rfl | rfl | rfl | rfl | rfl <;> exact ⟨by decide, by decide⟩
    rw [fromUtf8Lossy_ascii hascii.1]
    exact List.forall_mem_cons.mpr ⟨hascii.2, ih hbs⟩

theorem tryCreateEvent_prompt {spaces : List UInt8} (h : ∀ b ∈ spaces, b = SP) :
    LineBuffer.tryCreateEvent (GT :: spaces) .prompt = some (.prompt ">".toList) := by
  have htext : fromUtf8Lossy (GT :: spaces) = '>' :: fromUtf8Lossy spaces :=
    fromUtf8Lossy_ascii (by decide) spaces
  have htrim : trim (fromUtf8Lossy (GT :: spaces)) = ['>'] := by
    have hstart : trimStart ('>' :: fromUtf8Lossy spaces) = '>' :: fromUtf8Lossy spaces := rfl
    rw [htext, trim, hstart, trimEnd, ← List.singleton_append, List.rdropWhile,
      List.reverse_append, List.dropWhile_append_of_pos]
    · rfl
    · -- the spaces of a prompt are trimmed away
      intro c hc
      refine isWhitespace_fromUtf8Lossy (fun b hb => ?_) c (List.mem_reverse.mp hc)
      rw [h b hb]
      rfl
  have hall : (GT :: spaces).all isAsciiWhitespace = false := by
    rw [List.all_cons]
    rfl
  rw [LineBuffer.tryCreateEvent_eq, hall, htrim]
  rfl

/-- The lexer state the scan is in when the bytes of the current line are `line`. -/
def scanState (line : List UInt8) : LexState := if line = [] then .lineStart else .inLine line

@[simp] theorem scanState_nil : scanState [] = .lineStart := rfl

@[simp] theorem scanState_pending (line : List UInt8) : (scanState line).pending = line := by
  unfold scanState
  split
  · next h => exact h.symm
  · rfl

theorem lexByte_scanState_newline {b : UInt8} (hb : isNewline b) (line : List UInt8) :
    lexByte (scanState line) b = (.lineStart, (LineBuffer.tryCreateEvent line .line).toList) := by
  unfold scanState
  split
  · next h =>
    rw [lexByte, lexLineStart, if_pos hb, h]
    rfl
  · rw [lexByte, if_pos hb]

theorem lexByte_scanState_text {b : UInt8} {line : List UInt8} (hb : ¬ isNewline b)
    (hgt : b = GT → line ≠ []) :
    lexByte (scanState line) b = (scanState (line ++ [b]), []) := by
  have hne : scanState (line ++ [b]) = .inLine (line ++ [b]) := if_neg (by simp)
  rw [hne]
  unfold scanState
  split
  · next h => rw [lexByte, lexLineStart, if_neg hb, if_neg fun hb' => hgt hb' h, h, List.nil_append]
  · rw [lexByte, if_neg hb]

section Turn

variable {buffer line : List UInt8} {start i : ℕ} {b : UInt8}

/-- A turn of the loop at a newline. -/
theorem scan_newline (hstart : start ≤ i) (hget : buffer[i]? = some b) (hb : isNewline b)
    (hline : (buffer.drop start).take (i - start) = line) (fuel : ℕ) (events : List LineEvent) :
    LineBuffer.scan buffer (fuel + 1) start i events =
      LineBuffer.scan buffer fuel (skipWhile isNewline buffer i) (skipWhile isNewline buffer i)
        (events ++ (LineBuffer.tryCreateEvent line .line).toList) := by
  have hlt : i < buffer.length := (List.getElem?_eq_some_iff.mp hget).1
  rw [LineBuffer.scan, if_pos hlt, hget]
  simp only [Option.bind_eq_bind, Option.bind_some]
  rw [if_pos (isNewline_iff.mp hb)]
  by_cases hst : start < i
  · rw [if_pos hst, slice?_eq hstart hlt.le, hline]
    rfl
  · have hnil : line = [] := by rw [← hline, show i - start = 0 by omega, List.take_zero]
    rw [if_neg hst, hnil]
    simp [LineBuffer.tryCreateEvent]

/-- A turn of the loop at a prompt. -/
theorem scan_prompt (hget : buffer[i]? = some GT) (fuel : ℕ) (events : List LineEvent) :
    LineBuffer.scan buffer (fuel + 1) i i events =
      LineBuffer.scan buffer fuel (skipWhile (· == SP) buffer (i + 1))
        (skipWhile (· == SP) buffer (i + 1)) (events ++ [.prompt ">".toList]) := by
  have hlt : i < buffer.length := (List.getElem?_eq_some_iff.mp hget).1
  have hle := skipWhile_le (· == SP) (show i + 1 ≤ buffer.length by omega)
  have hge : i + 1 ≤ skipWhile (· == SP) buffer (i + 1) := Nat.le_add_right _ _
  have hdrop : buffer.drop i = GT :: buffer.drop (i + 1) := by
    rw [List.drop_eq_getElem_cons hlt, (List.getElem?_eq_some_iff.mp hget).2]
  -- the slice is the `>` with the spaces after it
  have hslice : slice? buffer i (skipWhile (· == SP) buffer (i + 1)) =
      some (GT :: (buffer.drop (i + 1)).takeWhile (· == SP)) := by
    rw [slice?_eq (by omega) hle, hdrop, ← take_skipWhile,
      show skipWhile (· == SP) buffer (i + 1) - i =
        (skipWhile (· == SP) buffer (i + 1) - (i + 1)) + 1 by omega, List.take_succ_cons]
  have hspaces : ∀ c ∈ (buffer.drop (i + 1)).takeWhile (· == SP), c = SP := fun c hc => by
    simpa using List.mem_takeWhile_imp hc
  rw [LineBuffer.scan, if_pos hlt, hget]
  simp only [Option.bind_eq_bind, Option.bind_some]
  rw [if_neg (by decide)]
  simp only [if_true]
  rw [hslice]
  simp only [Option.bind_some]
  rw [tryCreateEvent_prompt hspaces, Option.toList_some]

/-- A turn of the loop inside a line. -/
theorem scan_text (hget : buffer[i]? = some b) (hb : ¬ isNewline b)
    (hgt : b = GT → start < i ∧ ∀ c, buffer[i - 1]? = some c → ¬ isNewline c) (fuel : ℕ)
    (events : List LineEvent) :
    LineBuffer.scan buffer (fuel + 1) start i events =
      LineBuffer.scan buffer fuel start (i + 1) events := by
  have hlt : i < buffer.length := (List.getElem?_eq_some_iff.mp hget).1
  rw [LineBuffer.scan, if_pos hlt, hget]
  simp only [Option.bind_eq_bind, Option.bind_some]
  rw [if_neg fun h => hb (isNewline_iff.mpr h)]
  by_cases hbgt : b = GT
  · obtain ⟨hst, hprev⟩ := hgt hbgt
    have hlt' : i - 1 < buffer.length := by omega
    have hprev' := hprev _ (List.getElem?_eq_getElem hlt')
    rw [if_pos hbgt, if_neg (by omega), if_pos (by omega), List.getElem?_eq_getElem hlt']
    -- a `>` inside a line is text, since no newline stands before it
    have hfalse : (buffer[i - 1] == LF || buffer[i - 1] == CR) = false := by
      rw [isNewline_iff] at hprev'
      simp only [Bool.or_eq_false_iff, beq_eq_false_iff_ne, ne_eq]
      tauto
    simp [hfalse]
  · rw [if_neg hbgt]

end Turn

/-- **Scan invariant.** With the current line `line` between `start` and `i`, the loop emits
what the lexer emits on the bytes from `i` on, and returns the start of what it leaves
pending. -/
theorem scan_eq {buffer : List UInt8} {fuel start i : ℕ} (line : List UInt8)
    (hstart : start ≤ i) (hi : i ≤ buffer.length)
    (hline : (buffer.drop start).take (i - start) = line) (hnew : ∀ b ∈ line, ¬ isNewline b)
    (hfuel : buffer.length - i < fuel) (events : List LineEvent) :
    ∃ start' ≤ buffer.length,
      LineBuffer.scan buffer fuel start i events =
        some (events ++ (lex (scanState line) (buffer.drop i)).2, start') ∧
      buffer.drop start' = (lex (scanState line) (buffer.drop i)).1.pending := by
  induction fuel generalizing start i line events with
  | zero => omega
  | succ fuel ih =>
    have hlen : line.length = i - start := by
      rw [← hline, List.length_take, List.length_drop]
      omega
    rcases Nat.eq_or_lt_of_le hi with rfl | hlt
    · -- the end of the buffer: the current line is what stays pending
      refine ⟨start, by omega, ?_, ?_⟩
      · rw [LineBuffer.scan, if_neg (lt_irrefl _), List.drop_length]
        simp
      · rw [List.drop_length, lex_nil, scanState_pending, ← hline,
          List.take_of_length_le (by rw [List.length_drop])]
    obtain ⟨b, hget⟩ : ∃ b, buffer[i]? = some b := ⟨_, List.getElem?_eq_getElem hlt⟩
    have hdrop : buffer.drop i = b :: buffer.drop (i + 1) := by
      rw [List.drop_eq_getElem_cons hlt, (List.getElem?_eq_some_iff.mp hget).2]
    by_cases hnl : isNewline b
    · -- a newline ends the line, and the newlines after it are skipped
      have hgt : i < skipWhile isNewline buffer i := by
        rw [skipWhile, hdrop, List.takeWhile_cons_of_pos hnl, List.length_cons]
        omega
      obtain ⟨start', hle', hscan, hpend⟩ := ih [] (le_refl _) (skipWhile_le isNewline hi)
        (by simp) (by simp) (by omega)
        (events ++ (LineBuffer.tryCreateEvent line .line).toList)
      have hrest : lex .lineStart (buffer.drop i) = lex .lineStart (buffer.drop (i + 1)) := by
        rw [hdrop, lex_cons, lexByte, lexLineStart, if_pos hnl, List.nil_append]
      rw [scanState_nil, drop_skipWhile, lex_dropWhile_newline, hrest] at hscan hpend
      refine ⟨start', hle', ?_, ?_⟩
      · rw [scan_newline hstart hget hnl hline, hscan, hdrop, lex_cons,
          lexByte_scanState_newline hnl, List.append_assoc]
      · rw [hpend, hdrop, lex_cons, lexByte_scanState_newline hnl]
    by_cases hprompt : b = GT ∧ start = i
    · -- a prompt, with the spaces after it
      obtain ⟨rfl, rfl⟩ := hprompt
      have hnil : line = [] := List.length_eq_zero_iff.mp (by omega)
      have hge : start + 1 ≤ skipWhile (· == SP) buffer (start + 1) := Nat.le_add_right _ _
      obtain ⟨start', hle', hscan, hpend⟩ := ih [] (le_refl _)
        (skipWhile_le (· == SP) (show start + 1 ≤ buffer.length by omega)) (by simp) (by simp)
        (by omega) (events ++ [.prompt ">".toList])
      have hbyte : lexByte (scanState line) GT = (.afterPrompt, [.prompt ">".toList]) := by
        rw [hnil]
        rfl
      obtain ⟨hevents, hpending⟩ := lex_dropWhile_space (buffer.drop (start + 1))
      rw [scanState_nil, drop_skipWhile, ← hevents] at hscan
      rw [scanState_nil, drop_skipWhile, ← hpending] at hpend
      refine ⟨start', hle', ?_, ?_⟩
      · rw [scan_prompt hget, hscan, hdrop, lex_cons, hbyte, List.append_assoc]
      · rw [hpend, hdrop, lex_cons, hbyte]
    · -- a byte of text: the current line grows by it
      have hline' : (buffer.drop start).take (i + 1 - start) = line ++ [b] := by
        rw [take_drop_succ hstart hget, hline]
      have hnew' : ∀ c ∈ line ++ [b], ¬ isNewline c := by
        intro c hc
        rcases List.mem_append.mp hc with hc | hc
        · exact hnew c hc
        · obtain rfl : c = b := by simpa using hc
          exact hnl
      obtain ⟨start', hle', hscan, hpend⟩ :=
        ih (line ++ [b]) (show start ≤ i + 1 by omega) hlt hline' hnew' (by omega) events
      have hbyte : lexByte (scanState line) b = (scanState (line ++ [b]), []) := by
        refine lexByte_scanState_text hnl fun hgt hnil => hprompt ⟨hgt, ?_⟩
        rw [hnil, List.length_nil] at hlen
        omega
      have hprev : b = GT → start < i ∧ ∀ c, buffer[i - 1]? = some c → ¬ isNewline c := by
        intro hgt
        have hst : start < i := lt_of_le_of_ne hstart fun h => hprompt ⟨hgt, h⟩
        exact ⟨hst, fun c hc => hnew c (hline ▸ mem_take_drop hst hc)⟩
      refine ⟨start', hle', ?_, ?_⟩
      · rw [scan_text hget hnl hprev, hscan, hdrop, lex_cons, hbyte, List.nil_append]
      · rw [hpend, hdrop, lex_cons, hbyte]

/-- **Refinement.** `process_data` never panics, emits what the lexer emits on the retained
bytes followed by the new ones, and retains what the lexer leaves pending, cut to size. -/
theorem processData?_eq (self : LineBuffer) (data : List UInt8) :
    self.processData? data =
      some ((lex .lineStart (self.buffer ++ data)).2,
        self.retain (lex .lineStart (self.buffer ++ data)).1.pending) := by
  obtain ⟨start, hle, hscan, hpend⟩ := scan_eq [] (le_refl 0)
    (Nat.zero_le (self.buffer ++ data).length) (by simp) (by simp)
    (show (self.buffer ++ data).length - 0 < (self.buffer ++ data).length + 1 by omega) []
  rw [scanState_nil, List.drop_zero] at hscan hpend
  rw [LineBuffer.processData?, hscan]
  simp only [Option.bind_eq_bind, Option.bind_some, List.nil_append]
  rw [slice?_eq hle (le_refl _), List.take_of_length_le (by rw [List.length_drop]), hpend]
  rfl

/-- `LineBuffer::process_data`, which never panics. -/
def LineBuffer.processData (self : LineBuffer) (data : List UInt8) :
    List LineEvent × LineBuffer :=
  (self.processData? data).get (by rw [processData?_eq]; rfl)

theorem processData_eq (self : LineBuffer) (data : List UInt8) :
    self.processData data =
      ((lex .lineStart (self.buffer ++ data)).2,
        self.retain (lex .lineStart (self.buffer ++ data)).1.pending) :=
  Option.get_of_eq_some _ (processData?_eq self data)

/-- A line in which no line feed is left. -/
def LineEvent.IsSingleLine : LineEvent → Prop
  | line content => '\n' ∉ content
  | prompt _ => True

instance : DecidablePred LineEvent.IsSingleLine
  | .line content => inferInstanceAs (Decidable ('\n' ∉ content))
  | .prompt _ => .isTrue trivial

/-- The lines of the buffer hold no line feed. -/
theorem processData_isSingleLine (self : LineBuffer) (data : List UInt8) :
    ∀ e ∈ (self.processData data).1, e.IsSingleLine := by
  intro e he
  rw [processData_eq] at he
  rcases mem_lex (s := .lineStart) trivial he with rfl | ⟨line, hline, hevent⟩
  · trivial
  · rw [LineBuffer.tryCreateEvent_eq] at hevent
    obtain ⟨-, hevent⟩ := Option.ite_none_left_eq_some.mp hevent
    obtain ⟨-, hevent⟩ := Option.ite_none_left_eq_some.mp hevent
    obtain rfl := Option.some_inj.mp hevent
    intro hmem
    have hbyte := mem_of_mem_fromUtf8Lossy (by decide) (mem_of_mem_trim hmem)
    exact hline _ hbyte (by decide)

end SmsServer

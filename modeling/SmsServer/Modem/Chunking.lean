import SmsServer.Modem.Lexer

/-!
# Reading a stream in chunks

The bytes of the port arrive in reads of any size. Between two reads the line buffer keeps the
unterminated line, but it forgets that it has just seen a prompt: spaces that arrive in the next
read start a line of their own instead of belonging to the prompt. A `>` after such spaces is no
longer at the start of a line, and its prompt is **severed**.

`events_eq_iff` shows that this is the only effect of chunking: two ways of cutting a stream give
the same events exactly when they sever the same prompts.
-/

namespace SmsServer

open RustStd Machine

/-! ### Chunked lexing -/

/-- What the line buffer remembers of a lexer state between two calls. -/
def LexState.collapse : LexState → LexState
  | afterPrompt => lineStart
  | s => s

theorem LexState.collapse_valid {s : LexState} (hs : s.Valid) : s.collapse.Valid := by
  cases s <;> trivial

/-- One byte, with whether a read ended just before it. -/
def lexCut (s : LexState) (p : UInt8 × Bool) : LexState × List LineEvent :=
  lexByte (if p.2 then s.collapse else s) p.1

/-- The bytes of a list of chunks, each with whether a chunk starts there. -/
def annotate : List (List UInt8) → List (UInt8 × Bool)
  | [] => []
  | [] :: chunks => annotate chunks
  | (b :: bs) :: chunks => (b, true) :: (bs.map fun c => (c, false)) ++ annotate chunks

theorem map_fst_annotate (chunks : List (List UInt8)) :
    (annotate chunks).map Prod.fst = chunks.flatten := by
  induction chunks with
  | nil => rfl
  | cons chunk chunks ih => cases chunk <;> simp [annotate, ih, Function.comp_def]

theorem run_lexCut_uncut (s : LexState) (bs : List UInt8) :
    Transducer.run lexCut s (bs.map fun c => (c, false)) = lex s bs := by
  induction bs generalizing s with
  | nil => rfl
  | cons b bs ih =>
    rw [List.map_cons, Transducer.run_cons, ih, lex_cons]
    rfl

/-- A chunk, then the rest. -/
theorem run_lexCut_annotate (s : LexState) (chunk : List UInt8) (chunks : List (List UInt8)) :
    (Transducer.run lexCut s.collapse (annotate (chunk :: chunks))).2 =
      (lex s.collapse chunk).2 ++
        (Transducer.run lexCut (lex s.collapse chunk).1 (annotate chunks)).2 := by
  have hcollapse : s.collapse.collapse = s.collapse := by cases s <;> rfl
  cases chunk with
  | nil => rfl
  | cons b bs =>
    rw [annotate, Transducer.run_append, Transducer.run_cons, run_lexCut_uncut, lex_cons]
    simp only [lexCut, if_true, hcollapse]

/-- The first byte of a chunk is annotated, so the state may be collapsed before it. -/
theorem run_lexCut_collapse (s : LexState) (chunks : List (List UInt8)) :
    (Transducer.run lexCut s (annotate chunks)).2 =
      (Transducer.run lexCut s.collapse (annotate chunks)).2 := by
  have hcollapse : s.collapse.collapse = s.collapse := by cases s <;> rfl
  induction chunks with
  | nil => rfl
  | cons chunk chunks ih =>
    cases chunk with
    | nil => exact ih
    | cons b bs =>
      have hbyte : lexCut s (b, true) = lexCut s.collapse (b, true) := by
        simp only [lexCut, if_true, hcollapse]
      rw [annotate, List.cons_append, Transducer.run_cons, Transducer.run_cons, hbyte]

/-! ### The line buffer reads chunks -/

namespace LineBuffer

/-- Consecutive `process_data` calls. -/
def feed (self : LineBuffer) (chunks : List (List UInt8)) : LineBuffer × List LineEvent :=
  Transducer.run (fun buffer chunk => (buffer.processData chunk).swap) self chunks

/-- The unfinished line stays within the buffer size after each call. -/
def Fits : LineBuffer → List (List UInt8) → Prop
  | _, [] => True
  | self, chunk :: chunks =>
    (lex .lineStart (self.buffer ++ chunk)).1.pending.length ≤ self.maxBufferSize ∧
      Fits (self.processData chunk).2 chunks

theorem truncate_of_le {size : ℕ} {rest : List UInt8} (h : rest.length ≤ size) :
    truncate size rest = rest := by
  rw [truncate, if_neg (not_lt.mpr h)]

theorem retain_of_le {self : LineBuffer} {rest : List UInt8}
    (h : rest.length ≤ self.maxBufferSize) : self.retain rest = { self with buffer := rest } := by
  rw [retain, truncate_of_le h]

/-- Scanning the retained line again leads back to where the lexer was. -/
theorem lex_pending {s : LexState} (hs : s.Valid) :
    lex .lineStart s.pending = (s.collapse, []) := by
  cases s with
  | lineStart => rfl
  | afterPrompt => rfl
  | inLine line =>
    obtain ⟨hne, hnew, hhead⟩ := hs
    obtain ⟨hstate, hevents⟩ := lex_lineStart_text hnew hhead
    rw [if_neg hne] at hstate
    exact Prod.ext hstate hevents

/-- **Refinement.** As long as nothing is truncated, the calls emit what the lexer emits on the
annotated stream. -/
theorem feed_eq {self : LineBuffer} {s : LexState} (hs : s.Valid)
    (hbuffer : self.buffer = s.pending) {chunks : List (List UInt8)} (hfits : self.Fits chunks) :
    (self.feed chunks).2 = (Transducer.run lexCut s (annotate chunks)).2 := by
  rw [run_lexCut_collapse]
  induction chunks generalizing self s with
  | nil => rfl
  | cons chunk chunks ih =>
    obtain ⟨hle, hfits⟩ := hfits
    -- the call scans the retained line again, which leads back to the lexer's state
    have hlex : lex .lineStart (self.buffer ++ chunk) = lex s.collapse chunk := by
      rw [hbuffer, lex_append, lex_pending hs]
      simp
    have hvalid : (lex s.collapse chunk).1.Valid :=
      lex_valid (LexState.collapse_valid hs) chunk
    rw [hlex] at hle
    have hbuffer' : (self.processData chunk).2.buffer = (lex s.collapse chunk).1.pending := by
      rw [processData_eq, hlex, retain_of_le hle]
    rw [feed, Transducer.run_cons, run_lexCut_annotate]
    have hevents : (self.processData chunk).1 = (lex s.collapse chunk).2 := by
      rw [processData_eq, hlex]
    simp only [Prod.fst_swap, Prod.snd_swap, hevents]
    rw [run_lexCut_collapse, ← ih hvalid hbuffer' hfits]
    rfl

end LineBuffer

/-! ### Severed prompts -/

/-- Where a stream stands, as far as prompts are concerned. -/
inductive CutMode
  | lineStart
  | afterPrompt
  /-- After a prompt and spaces that a read ended before or in. -/
  | severed
  | inLine
  deriving DecidableEq, Repr

/-- A byte that is no space, at the start of a line or after a prompt. -/
def CutMode.first (b : UInt8) : CutMode :=
  if isNewline b then lineStart else if b = GT then afterPrompt else inLine

/-- One byte: the next mode, and whether the byte is the `>` of a severed prompt. -/
def CutMode.step (mode : CutMode) (p : UInt8 × Bool) : CutMode × List Bool :=
  match mode with
  | lineStart => (first p.1, [false])
  | afterPrompt =>
    if p.1 = SP then (if p.2 then severed else afterPrompt, [false]) else (first p.1, [false])
  | severed =>
    if p.1 = SP then (severed, [false])
    else if p.1 = GT then (inLine, [true])
    else (first p.1, [false])
  | inLine => (if isNewline p.1 then lineStart else inLine, [false])

/-- For each byte of the stream, whether it is the `>` of a severed prompt. -/
def severedPrompts (chunks : List (List UInt8)) : List Bool :=
  (Transducer.run CutMode.step .lineStart (annotate chunks)).2

/-- A prompt has been seen, and spaces at most since. -/
inductive Prompted : CutMode × LexState → Prop
  | prompt : Prompted (.afterPrompt, .afterPrompt)
  | severed (k : ℕ) : Prompted (.severed, .inLine (List.replicate (k + 1) SP))

/-- Two readings of one stream that have severed the same prompts. -/
inductive Twin : CutMode × LexState → CutMode × LexState → Prop
  | lineStart : Twin (.lineStart, .lineStart) (.lineStart, .lineStart)
  | prompted {r r' : CutMode × LexState} : Prompted r → Prompted r' → Twin r r'
  /-- The lines differ in leading spaces at most. -/
  | inLine (j k : ℕ) (line : List UInt8) :
    Twin (.inLine, .inLine (List.replicate j SP ++ line))
      (.inLine, .inLine (List.replicate k SP ++ line))

/-- Leading spaces are trimmed. -/
theorem tryCreateEvent_spaces (k : ℕ) (line : List UInt8) (constructor : Str → LineEvent) :
    LineBuffer.tryCreateEvent (List.replicate k SP ++ line) constructor =
      LineBuffer.tryCreateEvent line constructor := by
  induction k with
  | zero => rfl
  | succ k ih =>
    rw [← ih, LineBuffer.tryCreateEvent_eq, LineBuffer.tryCreateEvent_eq, List.replicate_succ,
      List.cons_append, fromUtf8Lossy_ascii (by decide), List.all_cons]
    rfl

theorem tryCreateEvent_blank (k : ℕ) (constructor : Str → LineEvent) :
    LineBuffer.tryCreateEvent (List.replicate k SP) constructor = none := by
  have h := tryCreateEvent_spaces k [] constructor
  rwa [List.append_nil] at h

/-- A line that starts with `>` after spaces is no blank line. -/
theorem tryCreateEvent_severed (k : ℕ) (rest : List UInt8) :
    ∃ text, LineBuffer.tryCreateEvent (List.replicate k SP ++ GT :: rest) .line =
      some (.line text) := by
  have htrim : trim ('>' :: fromUtf8Lossy rest) ≠ [] := fun h =>
    absurd (trim_eq_nil_iff.mp h '>' (by simp)) (by decide)
  have hall : (GT :: rest).all isAsciiWhitespace = false := rfl
  have hlossy : fromUtf8Lossy (GT :: rest) = '>' :: fromUtf8Lossy rest :=
    fromUtf8Lossy_ascii (by decide) rest
  exact ⟨trim ('>' :: fromUtf8Lossy rest), by
    rw [tryCreateEvent_spaces, LineBuffer.tryCreateEvent_eq, hall, hlossy, if_neg htrim]
    rfl⟩

/-! ### Two readings side by side -/

/-- A reading: the mode and the lexer state, stepping together. -/
def readByte (r : CutMode × LexState) (p : UInt8 × Bool) : CutMode × LexState :=
  ((r.1.step p).1, (lexCut r.2 p).1)

/-- A byte at the start of a line. -/
theorem lexLineStart_first (b : UInt8) :
    Twin (CutMode.first b, (lexLineStart b).1) (CutMode.first b, (lexLineStart b).1) := by
  unfold CutMode.first lexLineStart
  by_cases hnl : isNewline b
  · rw [if_pos hnl, if_pos hnl]
    exact .lineStart
  · rw [if_neg hnl, if_neg hnl]
    by_cases hgt : b = GT
    · rw [if_pos hgt, if_pos hgt]
      exact .prompted .prompt .prompt
    · rw [if_neg hgt, if_neg hgt]
      exact .inLine 0 0 [b]

@[simp] theorem lexCut_inLine (line : List UInt8) (p : UInt8 × Bool) :
    lexCut (.inLine line) p = lexByte (.inLine line) p.1 := by
  obtain ⟨b, cut⟩ := p
  cases cut <;> rfl

theorem lexCut_afterPrompt {b : UInt8} (hb : b ≠ SP) (cut : Bool) :
    lexCut .afterPrompt (b, cut) = lexLineStart b := by
  cases cut with
  | false => exact if_neg hb
  | true => rfl

namespace Prompted

variable {r : CutMode × LexState}

/-- A space after a prompt. -/
theorem space (h : Prompted r) (cut : Bool) :
    Prompted (readByte r (SP, cut)) ∧ (r.1.step (SP, cut)).2 = [false] ∧
      (lexCut r.2 (SP, cut)).2 = [] := by
  cases h with
  | prompt =>
    cases cut with
    | false => exact ⟨.prompt, rfl, rfl⟩
    | true => exact ⟨.severed 0, rfl, rfl⟩
  | severed k =>
    have hnext : readByte (.severed, .inLine (List.replicate (k + 1) SP)) (SP, cut) =
        (.severed, .inLine (List.replicate (k + 1 + 1) SP)) := by
      have hspaces : List.replicate (k + 1 + 1) SP = List.replicate (k + 1) SP ++ [SP] :=
        List.replicate_succ'
      rw [readByte, lexCut_inLine, hspaces]
      rfl
    refine ⟨?_, rfl, by rw [lexCut_inLine]; rfl⟩
    rw [hnext]
    exact .severed (k + 1)

/-- The end of the line after a prompt. -/
theorem newline (h : Prompted r) {b : UInt8} (hb : isNewline b) (cut : Bool) :
    readByte r (b, cut) = (.lineStart, .lineStart) ∧ (r.1.step (b, cut)).2 = [false] ∧
      (lexCut r.2 (b, cut)).2 = [] := by
  have hsp : b ≠ SP := by rintro rfl; exact absurd hb (by decide)
  have hgt : b ≠ GT := by rintro rfl; exact absurd hb (by decide)
  cases h with
  | prompt =>
    have hstart : lexLineStart b = (.lineStart, []) := if_pos hb
    simp only [readByte, lexCut_afterPrompt hsp, hstart, CutMode.step, if_neg hsp, CutMode.first,
      if_pos hb, and_self]
  | severed k =>
    simp only [readByte, lexCut_inLine, lexByte, if_pos hb, tryCreateEvent_blank, CutMode.step,
      if_neg hsp, if_neg hgt, CutMode.first, Option.toList_none, and_self]

/-- Another `>`: a prompt, unless it is severed. -/
theorem gt (h : Prompted r) (cut : Bool) :
    (readByte r (GT, cut) = (.afterPrompt, .afterPrompt) ∧ (r.1.step (GT, cut)).2 = [false] ∧
        (lexCut r.2 (GT, cut)).2 = [.prompt ">".toList]) ∨
      ∃ k, readByte r (GT, cut) = (.inLine, .inLine (List.replicate k SP ++ [GT])) ∧
        (r.1.step (GT, cut)).2 = [true] ∧ (lexCut r.2 (GT, cut)).2 = [] := by
  cases h with
  | prompt => exact .inl (by cases cut <;> exact ⟨rfl, rfl, rfl⟩)
  | severed k =>
    refine .inr ⟨k + 1, ?_, rfl, by rw [lexCut_inLine]; rfl⟩
    rw [readByte, lexCut_inLine]
    rfl

/-- Text after a prompt. -/
theorem text (h : Prompted r) {b : UInt8} (hsp : b ≠ SP) (hnl : ¬ isNewline b) (hgt : b ≠ GT)
    (cut : Bool) :
    ∃ k, readByte r (b, cut) = (.inLine, .inLine (List.replicate k SP ++ [b])) ∧
      (r.1.step (b, cut)).2 = [false] ∧ (lexCut r.2 (b, cut)).2 = [] := by
  cases h with
  | prompt =>
    have hstart : lexLineStart b = (.inLine [b], []) := by
      rw [lexLineStart, if_neg hnl, if_neg hgt]
    refine ⟨0, ?_⟩
    simp only [readByte, lexCut_afterPrompt hsp, hstart, CutMode.step, if_neg hsp, CutMode.first,
      if_neg hnl, if_neg hgt, List.replicate_zero, List.nil_append, and_self]
  | severed k =>
    refine ⟨k + 1, ?_⟩
    simp only [readByte, lexCut_inLine, lexByte, if_neg hnl, CutMode.step, if_neg hsp,
      if_neg hgt, CutMode.first, and_self]

end Prompted

/-- One severed the prompt that the other emitted. -/
inductive Diverged : LexState × List LineEvent → LexState × List LineEvent → Prop
  | left (k : ℕ) (s : LexState) :
    Diverged (.inLine (List.replicate k SP ++ [GT]), []) (s, [.prompt ">".toList])
  | right (k : ℕ) (s : LexState) :
    Diverged (s, [.prompt ">".toList]) (.inLine (List.replicate k SP ++ [GT]), [])

/-- A byte read by twins: they stay twins with the same events, or one severs a prompt that the
other emits. -/
theorem Twin.read {r r' : CutMode × LexState} (h : Twin r r') (b : UInt8) (cut cut' : Bool) :
    ((r.1.step (b, cut)).2 = (r'.1.step (b, cut')).2 ∧
        (lexCut r.2 (b, cut)).2 = (lexCut r'.2 (b, cut')).2 ∧
        Twin (readByte r (b, cut)) (readByte r' (b, cut'))) ∨
      ((∃ bit, (r.1.step (b, cut)).2 = [bit] ∧ (r'.1.step (b, cut')).2 = [!bit]) ∧
        Diverged (lexCut r.2 (b, cut)) (lexCut r'.2 (b, cut'))) := by
  cases h with
  | lineStart =>
    have hlex : ∀ cut, lexCut .lineStart (b, cut) = lexLineStart b := by
      intro cut
      cases cut <;> rfl
    refine .inl ⟨rfl, by rw [hlex, hlex], ?_⟩
    rw [readByte, readByte, hlex, hlex]
    exact lexLineStart_first b
  | prompted h h' =>
    -- a space may sever the prompt in either reading, which does not show yet
    by_cases hsp : b = SP
    · subst hsp
      obtain ⟨hnext, hmask, hevents⟩ := h.space cut
      obtain ⟨hnext', hmask', hevents'⟩ := h'.space cut'
      exact .inl ⟨by rw [hmask, hmask'], by rw [hevents, hevents'], .prompted hnext hnext'⟩
    by_cases hnl : isNewline b
    · obtain ⟨hnext, hmask, hevents⟩ := h.newline hnl cut
      obtain ⟨hnext', hmask', hevents'⟩ := h'.newline hnl cut'
      refine .inl ⟨by rw [hmask, hmask'], by rw [hevents, hevents'], ?_⟩
      rw [hnext, hnext']
      exact .lineStart
    by_cases hgt : b = GT
    · subst hgt
      -- another `>` shows it: the readings part if one of them has severed the prompt
      rcases h.gt cut with ⟨hnext, hmask, hevents⟩ | ⟨k, hnext, hmask, hevents⟩ <;>
      rcases h'.gt cut' with ⟨hnext', hmask', hevents'⟩ | ⟨k', hnext', hmask', hevents'⟩
      · refine .inl ⟨by rw [hmask, hmask'], by rw [hevents, hevents'], ?_⟩
        rw [hnext, hnext']
        exact .prompted .prompt .prompt
      · refine .inr ⟨⟨false, hmask, hmask'⟩, ?_⟩
        have hlex : lexCut r.2 (GT, cut) = ((readByte r (GT, cut)).2, [.prompt ">".toList]) :=
          Prod.ext rfl hevents
        have hlex' : lexCut r'.2 (GT, cut') = ((readByte r' (GT, cut')).2, []) :=
          Prod.ext rfl hevents'
        rw [hlex, hlex', hnext']
        exact .right k' _
      · refine .inr ⟨⟨true, hmask, hmask'⟩, ?_⟩
        have hlex : lexCut r.2 (GT, cut) = ((readByte r (GT, cut)).2, []) := Prod.ext rfl hevents
        have hlex' : lexCut r'.2 (GT, cut') =
            ((readByte r' (GT, cut')).2, [.prompt ">".toList]) := Prod.ext rfl hevents'
        rw [hlex, hlex', hnext]
        exact .left k _
      · refine .inl ⟨by rw [hmask, hmask'], by rw [hevents, hevents'], ?_⟩
        rw [hnext, hnext']
        exact .inLine k k' [GT]
    · obtain ⟨k, hnext, hmask, hevents⟩ := h.text hsp hnl hgt cut
      obtain ⟨k', hnext', hmask', hevents'⟩ := h'.text hsp hnl hgt cut'
      refine .inl ⟨by rw [hmask, hmask'], by rw [hevents, hevents'], ?_⟩
      rw [hnext, hnext']
      exact .inLine k k' [b]
  | inLine j k line =>
    have hlex : ∀ j : ℕ, lexByte (.inLine (List.replicate j SP ++ line)) b =
        if isNewline b then (.lineStart, (LineBuffer.tryCreateEvent line .line).toList)
        else (.inLine (List.replicate j SP ++ (line ++ [b])), []) := by
      intro j
      rw [lexByte, tryCreateEvent_spaces, List.append_assoc]
    simp only [readByte, lexCut_inLine, hlex]
    refine .inl ⟨rfl, by split <;> rfl, ?_⟩
    by_cases hnl : isNewline b
    · simp only [CutMode.step, if_pos hnl]
      exact .lineStart
    · simp only [CutMode.step, if_neg hnl]
      exact .inLine j k (line ++ [b])

/-- Inside a line that starts with a severed `>`, no prompt comes before the line does. -/
theorem run_severed (k : ℕ) (rest : List UInt8) (ps : List (UInt8 × Bool)) (text : Str) :
    (Transducer.run lexCut (.inLine (List.replicate k SP ++ GT :: rest)) ps).2.head? ≠
      some (.prompt text) := by
  induction ps generalizing rest with
  | nil => simp
  | cons p ps ih =>
    rw [Transducer.run_cons, lexCut_inLine, lexByte]
    by_cases hnl : isNewline p.1
    · obtain ⟨line, hline⟩ := tryCreateEvent_severed k rest
      rw [if_pos hnl, hline]
      simp
    · rw [if_neg hnl, List.append_assoc, List.cons_append]
      exact ih (rest ++ [p.1])

/-- Diverged readings emit different events. -/
theorem Diverged.events_ne {r r' : LexState × List LineEvent} (h : Diverged r r')
    (ps ps' : List (UInt8 × Bool)) :
    r.2 ++ (Transducer.run lexCut r.1 ps).2 ≠ r'.2 ++ (Transducer.run lexCut r'.1 ps').2 := by
  have hne : ∀ (k : ℕ) (ps : List (UInt8 × Bool)) (events : List LineEvent),
      (Transducer.run lexCut (.inLine (List.replicate k SP ++ [GT])) ps).2 ≠
        .prompt ">".toList :: events := by
    intro k ps events heq
    have hhead := run_severed k [] ps ">".toList
    rw [heq] at hhead
    exact hhead rfl
  cases h with
  | left k s => exact hne k ps _
  | right k s => exact (hne k ps' _).symm

/-- **Two readings of one stream.** Twins emit the same events exactly when they sever the same
prompts. -/
theorem Twin.run {r r' : CutMode × LexState} (h : Twin r r') {ps ps' : List (UInt8 × Bool)}
    (hbytes : ps.map Prod.fst = ps'.map Prod.fst) :
    (Transducer.run lexCut r.2 ps).2 = (Transducer.run lexCut r'.2 ps').2 ↔
      (Transducer.run CutMode.step r.1 ps).2 = (Transducer.run CutMode.step r'.1 ps').2 := by
  induction ps generalizing r r' ps' with
  | nil =>
    obtain rfl : ps' = [] := by simpa using hbytes.symm
    simp
  | cons p ps ih =>
    obtain ⟨b, cut⟩ := p
    obtain ⟨⟨b', cut'⟩, ps', rfl⟩ : ∃ q qs, ps' = q :: qs := by
      cases ps' with
      | nil => simp at hbytes
      | cons q qs => exact ⟨q, qs, rfl⟩
    obtain ⟨rfl, htail⟩ : b = b' ∧ ps.map Prod.fst = ps'.map Prod.fst := by
      simpa using hbytes
    simp only [Transducer.run_cons]
    -- the first prompt that only one severs decides both sides
    rcases h.read b cut cut' with ⟨hbit, hevents, hnext⟩ | ⟨⟨bit, hm, hm'⟩, hdiverged⟩
    · rw [hbit, hevents, List.append_cancel_left_eq, List.append_cancel_left_eq]
      exact ih hnext htail
    · refine iff_of_false (hdiverged.events_ne ps ps') fun heq => ?_
      rw [hm, hm'] at heq
      simp at heq

/-! ### Chunking -/

namespace LineBuffer

/-- **Chunking.** Two ways of cutting a stream into reads, neither of which truncates a line,
give the same events if and only if they sever the same prompts. -/
theorem events_eq_iff {size : ℕ} {chunks chunks' : List (List UInt8)}
    (hstream : chunks.flatten = chunks'.flatten) (hfits : (withMaxSize size).Fits chunks)
    (hfits' : (withMaxSize size).Fits chunks') :
    ((withMaxSize size).feed chunks).2 = ((withMaxSize size).feed chunks').2 ↔
      severedPrompts chunks = severedPrompts chunks' := by
  have hfeed : ∀ {chunks}, (withMaxSize size).Fits chunks →
      ((withMaxSize size).feed chunks).2 = (Transducer.run lexCut .lineStart (annotate chunks)).2 :=
    fun h => feed_eq (show LexState.lineStart.Valid from trivial) rfl h
  rw [hfeed hfits, hfeed hfits']
  refine Twin.run .lineStart ?_
  rw [map_fst_annotate, map_fst_annotate, hstream]

/-- A prompt cut from the space after it, with text following: nothing is severed. -/
theorem events_eq_iff_text :
    ((withMaxSize 16).feed [encodeUtf8 "> hi\r\n".toList]).2 =
        ((withMaxSize 16).feed [encodeUtf8 ">".toList, encodeUtf8 " hi\r".toList, [LF]]).2 ↔
      severedPrompts [encodeUtf8 "> hi\r\n".toList] =
        severedPrompts [encodeUtf8 ">".toList, encodeUtf8 " hi\r".toList, [LF]] :=
  events_eq_iff rfl ⟨by decide, trivial⟩ ⟨by decide, by decide, by decide, trivial⟩

/-- A prompt cut from the space before the next prompt: the second prompt is lost. -/
theorem cut_severs_prompt :
    [encodeUtf8 "> >".toList].flatten =
        [encodeUtf8 ">".toList, encodeUtf8 " >".toList].flatten ∧
      (withMaxSize 16).Fits [encodeUtf8 "> >".toList] ∧
      (withMaxSize 16).Fits [encodeUtf8 ">".toList, encodeUtf8 " >".toList] ∧
      ((withMaxSize 16).feed [encodeUtf8 "> >".toList]).2 ≠
        ((withMaxSize 16).feed [encodeUtf8 ">".toList, encodeUtf8 " >".toList]).2 :=
  ⟨rfl, ⟨by decide, trivial⟩, ⟨by decide, by decide, trivial⟩, by decide +kernel⟩

end LineBuffer

/-! ### Streams without prompts -/

/-- Where no prompt is emitted, cuts make no difference. -/
theorem run_lexCut_of_noPrompt {s : LexState} (hs : s ≠ .afterPrompt) {ps : List (UInt8 × Bool)}
    (h : ∀ text, .prompt text ∉ (lex s (ps.map Prod.fst)).2) :
    Transducer.run lexCut s ps = lex s (ps.map Prod.fst) := by
  induction ps generalizing s with
  | nil => rfl
  | cons p ps ih =>
    have hcollapse : s.collapse = s := by
      cases s with
      | afterPrompt => exact absurd rfl hs
      | _ => rfl
    have hbyte : lexCut s p = lexByte s p.1 := by rw [lexCut, hcollapse, ite_self]
    rw [List.map_cons, lex_cons] at h ⊢
    have hnext : (lexByte s p.1).1 ≠ .afterPrompt := by
      intro hafter
      refine h ">".toList (List.mem_append_left _ ?_)
      have hstart : ∀ b, (lexLineStart b).1 = .afterPrompt →
          .prompt ">".toList ∈ (lexLineStart b).2 := by
        intro b hb
        unfold lexLineStart at hb ⊢
        split at hb
        · cases hb
        · split at hb
          · next hnl hgt => rw [if_neg hnl, if_pos hgt]; exact List.mem_singleton_self _
          · cases hb
      cases s with
      | lineStart => exact hstart _ hafter
      | afterPrompt => exact absurd rfl hs
      | inLine line =>
        rw [lexByte] at hafter
        split at hafter <;> cases hafter
    rw [Transducer.run_cons, hbyte, ih hnext fun text htext =>
      h text (List.mem_append_right _ htext)]

/-- However it is cut, a stream without prompts gives the events of the whole. -/
theorem LineBuffer.feed_of_noPrompt {size : ℕ} {chunks : List (List UInt8)}
    (hfits : (LineBuffer.withMaxSize size).Fits chunks)
    (h : ∀ text, .prompt text ∉ (lex .lineStart chunks.flatten).2) :
    ((LineBuffer.withMaxSize size).feed chunks).2 = (lex .lineStart chunks.flatten).2 := by
  rw [feed_eq (show LexState.lineStart.Valid from trivial) rfl hfits,
    run_lexCut_of_noPrompt (by simp) (by rwa [map_fst_annotate]), map_fst_annotate]

/-- The calls fit if every prefix of the stream leaves a line that fits. -/
theorem LineBuffer.fits_of_prefix {self : LineBuffer} {s : LexState} (hs : s.Valid)
    (hafter : s ≠ .afterPrompt) (hbuffer : self.buffer = s.pending) {chunks : List (List UInt8)}
    (h : ∀ bs, bs <+: chunks.flatten →
      (lex s bs).1 ≠ .afterPrompt ∧ (lex s bs).1.pending.length ≤ self.maxBufferSize) :
    self.Fits chunks := by
  induction chunks generalizing self s with
  | nil => trivial
  | cons chunk chunks ih =>
    have hcollapse : s.collapse = s := by
      cases s with
      | afterPrompt => exact absurd rfl hafter
      | _ => rfl
    have hlex : lex .lineStart (self.buffer ++ chunk) = lex s chunk := by
      rw [hbuffer, lex_append, lex_pending hs, hcollapse]
      simp
    rw [List.flatten_cons] at h
    obtain ⟨hafter', hle⟩ := h chunk (List.prefix_append _ _)
    have hbuffer' : (self.processData chunk).2 =
        { self with buffer := (lex s chunk).1.pending } := by
      rw [processData_eq, hlex, retain_of_le hle]
    refine ⟨by rwa [hlex], ?_⟩
    rw [hbuffer']
    refine ih (lex_valid hs chunk) hafter' rfl fun bs hbs => ?_
    have hnext := h (chunk ++ bs) ((List.prefix_append_right_inj chunk).mpr hbs)
    rwa [lex_append] at hnext

end SmsServer

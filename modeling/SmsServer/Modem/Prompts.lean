import SmsServer.Modem.Chunking

/-!
# Where prompts come from

A prompt is owed only to a `>` at the start of a line. Truncation discards the front of an
unfinished line, and the next call takes the first byte it finds for the start of a line.
`genuine_iff` shows that this is the only source of invented prompts: they are the calls that
begin with a `>` where the front of the line is gone.
-/

namespace SmsServer

open RustStd

/-! ### Positions of prompts -/

namespace LexState

/-- The next byte starts a token. -/
def startsToken : LexState → Bool
  | inLine _ => false
  | _ => true

end LexState

/-- The event is a prompt. -/
def LineEvent.isPrompt : LineEvent → Bool
  | prompt _ => true
  | line _ => false

/-- The positions of the bytes at which a call on these bytes emits a prompt. -/
def promptOffsets (bs : List UInt8) : List ℕ :=
  (List.range bs.length).filter fun i =>
    bs[i]? = some GT && (lex .lineStart (bs.take i)).1.startsToken

theorem mem_promptOffsets {bs : List UInt8} {i : ℕ} :
    i ∈ promptOffsets bs ↔
      bs[i]? = some GT ∧ (lex .lineStart (bs.take i)).1.startsToken := by
  simp only [promptOffsets, List.mem_filter, List.mem_range, Bool.and_eq_true, decide_eq_true_eq,
    and_iff_right_iff_imp]
  exact fun h => (List.getElem?_eq_some_iff.mp h.1).1

theorem promptOffsets_concat (bs : List UInt8) (b : UInt8) :
    promptOffsets (bs ++ [b]) = promptOffsets bs ++
      (if b = GT && (lex .lineStart bs).1.startsToken then [bs.length] else []) := by
  have hbefore : ∀ i ∈ List.range bs.length,
      ((bs ++ [b])[i]? = some GT && (lex .lineStart ((bs ++ [b]).take i)).1.startsToken) =
        (bs[i]? = some GT && (lex .lineStart (bs.take i)).1.startsToken) := by
    intro i hi
    have hlt : i < bs.length := List.mem_range.mp hi
    rw [List.getElem?_append_left hlt, List.take_append_of_le_length hlt.le]
  rw [promptOffsets, List.length_append, List.length_singleton, List.range_succ,
    List.filter_append, List.filter_congr hbefore, List.filter_singleton]
  simp [promptOffsets]

theorem lex_concat (s : LexState) (bs : List UInt8) (b : UInt8) :
    lex s (bs ++ [b]) =
      ((lexByte (lex s bs).1 b).1, (lex s bs).2 ++ (lexByte (lex s bs).1 b).2) := by
  rw [lex_append, lex_cons, lex_nil, List.append_nil]

/-- A byte emits a prompt exactly if it is a `>` that starts a token. -/
theorem isPrompt_lexByte (s : LexState) (b : UInt8) :
    (lexByte s b).2.countP (·.isPrompt) = if b = GT && s.startsToken then 1 else 0 := by
  have hstart : (lexLineStart b).2.countP (·.isPrompt) = if b = GT then 1 else 0 := by
    unfold lexLineStart
    split
    · next hnl =>
      rw [if_neg]
      · rfl
      · rintro rfl
        exact absurd hnl (by decide)
    · split <;> rfl
  cases s with
  | lineStart =>
    rw [lexByte]
    simpa [LexState.startsToken] using hstart
  | afterPrompt =>
    rw [lexByte]
    split
    · next hsp => simp [hsp, show SP ≠ GT by decide]
    · simpa [LexState.startsToken] using hstart
  | inLine line =>
    simp only [LexState.startsToken, Bool.and_false, Bool.false_eq_true, if_false, lexByte]
    split
    · rw [LineBuffer.tryCreateEvent_eq]
      split
      · rfl
      · split <;> rfl
    · rfl

/-- There are as many positions as prompts. -/
theorem length_promptOffsets (bs : List UInt8) :
    (promptOffsets bs).length = (lex .lineStart bs).2.countP (·.isPrompt) := by
  induction bs using List.reverseRecOn with
  | nil => rfl
  | append_singleton bs b ih =>
    rw [promptOffsets_concat, List.length_append, ih, lex_concat, List.countP_append,
      isPrompt_lexByte]
    split <;> rfl

/-! ### What stands before a position -/

theorem lexLineStart_cases (b : UInt8) :
    (isNewline b ∧ (lexLineStart b).1 = .lineStart) ∨
      (b = GT ∧ (lexLineStart b).1 = .afterPrompt) ∨ (lexLineStart b).1 = .inLine [b] := by
  unfold lexLineStart
  split
  · exact .inl ⟨‹_›, rfl⟩
  · split
    · exact .inr (.inl ⟨‹_›, rfl⟩)
    · exact .inr (.inr rfl)

/-- The states a byte can lead to. -/
theorem lexByte_cases (s : LexState) (b : UInt8) :
    (isNewline b ∧ (lexByte s b).1 = .lineStart) ∨
      ((b = GT ∧ s.startsToken ∨ b = SP ∧ s = .afterPrompt) ∧ (lexByte s b).1 = .afterPrompt) ∨
      (s.startsToken ∧ (lexByte s b).1 = .inLine [b]) ∨
      ∃ line, s = .inLine line ∧ (lexByte s b).1 = .inLine (line ++ [b]) := by
  cases s with
  | lineStart =>
    rcases lexLineStart_cases b with h | ⟨hgt, h⟩ | h
    · exact .inl h
    · exact .inr (.inl ⟨.inl ⟨hgt, rfl⟩, h⟩)
    · exact .inr (.inr (.inl ⟨rfl, h⟩))
  | afterPrompt =>
    rw [lexByte]
    split
    · next hsp => exact .inr (.inl ⟨.inr ⟨hsp, rfl⟩, rfl⟩)
    · rcases lexLineStart_cases b with h | ⟨hgt, h⟩ | h
      · exact .inl h
      · exact .inr (.inl ⟨.inl ⟨hgt, rfl⟩, h⟩)
      · exact .inr (.inr (.inl ⟨rfl, h⟩))
  | inLine line =>
    rw [lexByte]
    split
    · exact .inl ⟨‹_›, rfl⟩
    · exact .inr (.inr (.inr ⟨line, rfl, rfl⟩))

/-- After a prompt, there are only spaces since its `>`. -/
theorem exists_prompt_of_afterPrompt {bs : List UInt8} (h : (lex .lineStart bs).1 = .afterPrompt) :
    ∃ q ∈ promptOffsets bs, ∀ j < bs.length, q < j → bs[j]? = some SP := by
  induction bs using List.reverseRecOn with
  | nil => cases h
  | append_singleton bs b ih =>
    rw [lex_concat] at h
    rcases lexByte_cases (lex .lineStart bs).1 b with
      ⟨-, h'⟩ | ⟨⟨rfl, hstarts⟩ | ⟨rfl, hafter⟩, -⟩ | ⟨-, h'⟩ | ⟨line, -, h'⟩
    · rw [h'] at h
      cases h
    · refine ⟨bs.length, ?_, fun j hj hlt => ?_⟩
      · rw [promptOffsets_concat, hstarts]
        exact List.mem_append_right _ (List.mem_singleton_self _)
      · simp only [List.length_append, List.length_singleton] at hj
        omega
    · obtain ⟨q, hq, hspaces⟩ := ih hafter
      refine ⟨q, ?_, fun j hj hlt => ?_⟩
      · rw [promptOffsets_concat]
        exact List.mem_append_left _ hq
      · rw [List.length_append, List.length_singleton, Nat.lt_succ_iff] at hj
        rcases Nat.lt_or_eq_of_le hj with hj | rfl
        · rw [List.getElem?_append_left hj, hspaces j hj hlt]
        · rw [List.getElem?_concat_length]
    · rw [h'] at h
      cases h
    · rw [h'] at h
      cases h

/-- At the start of a token that is not the first byte, a newline went before, or a prompt and
spaces. -/
theorem startsToken_cases {bs : List UInt8} (hne : bs ≠ [])
    (h : (lex .lineStart bs).1.startsToken) :
    (∃ b ∈ bs.getLast?, isNewline b) ∨
      ∃ q ∈ promptOffsets bs, ∀ j < bs.length, q < j → bs[j]? = some SP := by
  cases hstate : (lex .lineStart bs).1 with
  | inLine line =>
    rw [hstate] at h
    cases h
  | afterPrompt => exact .inr (exists_prompt_of_afterPrompt hstate)
  | lineStart =>
    obtain ⟨init, b, rfl⟩ := (List.eq_nil_or_concat bs).resolve_left hne
    rw [List.concat_eq_append, lex_concat] at hstate
    rcases lexByte_cases (lex .lineStart init).1 b with ⟨hnl, -⟩ | ⟨-, h'⟩ | ⟨-, h'⟩ | ⟨_, -, h'⟩
    · exact .inl ⟨b, by simp, hnl⟩
    all_goals
      rw [h'] at hstate
      cases hstate

/-- The pending line is the end of the bytes, and it starts where a token starts. -/
theorem exists_lex_split (bs : List UInt8) :
    ∃ consumed, bs = consumed ++ (lex .lineStart bs).1.pending ∧
      (lex .lineStart consumed).1.startsToken := by
  induction bs using List.reverseRecOn with
  | nil => exact ⟨[], rfl, rfl⟩
  | append_singleton bs b ih =>
    have hconcat := congrArg Prod.fst (lex_concat .lineStart bs b)
    rcases lexByte_cases (lex .lineStart bs).1 b with
      ⟨-, h⟩ | ⟨-, h⟩ | ⟨hstarts, h⟩ | ⟨line, hline, h⟩
    · exact ⟨bs ++ [b], by simp [hconcat, h], by rw [hconcat, h]; rfl⟩
    · exact ⟨bs ++ [b], by simp [hconcat, h], by rw [hconcat, h]; rfl⟩
    · exact ⟨bs, by rw [hconcat, h, LexState.pending_inLine], hstarts⟩
    · obtain ⟨consumed, hsplit, hstarts⟩ := ih
      refine ⟨consumed, ?_, hstarts⟩
      rw [hline, LexState.pending_inLine] at hsplit
      rw [hconcat, h, LexState.pending_inLine, ← List.append_assoc, ← hsplit]

theorem length_pending_lex_le (s : LexState) (bs : List UInt8) :
    (lex s bs).1.pending.length ≤ s.pending.length + bs.length := by
  induction bs using List.reverseRecOn with
  | nil => exact le_rfl
  | append_singleton bs b ih =>
    rw [lex_concat, List.length_append, List.length_singleton]
    rcases lexByte_cases (lex s bs).1 b with ⟨-, h⟩ | ⟨-, h⟩ | ⟨-, h⟩ | ⟨line, hline, h⟩
    · simp [h]
    · simp [h]
    · rw [h, LexState.pending_inLine, List.length_singleton]
      omega
    · rw [hline, LexState.pending_inLine] at ih
      simp only [h, LexState.pending_inLine, List.length_append, List.length_singleton]
      omega

/-- A prompt is not part of the line that stays pending. -/
theorem promptOffset_lt {bs : List UInt8} {o : ℕ} (ho : o ∈ promptOffsets bs) :
    o + (lex .lineStart bs).1.pending.length < bs.length := by
  obtain ⟨hget, hstarts⟩ := mem_promptOffsets.mp ho
  obtain ⟨hlt, hgt⟩ := List.getElem?_eq_some_iff.mp hget
  have hbyte : ∀ s : LexState, s.startsToken → (lexByte s GT).1 = .afterPrompt := by
    intro s hs
    cases s with
    | inLine line => cases hs
    | _ => rfl
  have hbefore : (lex .lineStart (bs.take (o + 1))).1 = .afterPrompt := by
    rw [List.take_succ_eq_append_getElem hlt, hgt, lex_concat]
    exact hbyte _ hstarts
  have hsplit := lex_append .lineStart (bs.take (o + 1)) (bs.drop (o + 1))
  rw [List.take_append_drop, hbefore] at hsplit
  have hle := length_pending_lex_le .afterPrompt (bs.drop (o + 1))
  rw [LexState.pending_afterPrompt, List.length_nil, List.length_drop] at hle
  rw [hsplit]
  simp only
  omega

/-! ### Readings -/

/-- The position directly follows a prompt and spaces. -/
def FollowsPrompt (received : List UInt8) (prompts : List ℕ) (p : ℕ) : Prop :=
  ∃ q ∈ prompts, q < p ∧ ∀ j < p, q < j → received[j]? = some SP

/-- The position is the first, or directly follows a newline. -/
def AtLineStart (received : List UInt8) (p : ℕ) : Prop :=
  p = 0 ∨ ∃ b ∈ received[p - 1]?, isNewline b

instance (received : List UInt8) (prompts : List ℕ) (p : ℕ) :
    Decidable (FollowsPrompt received prompts p) :=
  inferInstanceAs (Decidable (∃ q ∈ prompts, q < p ∧ ∀ j < p, q < j → received[j]? = some SP))

instance (received : List UInt8) (p : ℕ) : Decidable (AtLineStart received p) :=
  inferInstanceAs (Decidable (p = 0 ∨ ∃ b ∈ received[p - 1]?, isNewline b))

/-- There is a `>` at the position, and it is owed a prompt. -/
def GenuinePrompt (received : List UInt8) (prompts : List ℕ) (p : ℕ) : Prop :=
  received[p]? = some GT ∧ (AtLineStart received p ∨ FollowsPrompt received prompts p)

/-- A line buffer with its past: the bytes received, the positions of the bytes at which prompts
were emitted, and where the unfinished line starts. -/
structure Reading where
  buffer : LineBuffer
  received : List UInt8
  prompts : List ℕ
  lineStart : ℕ
  deriving DecidableEq

namespace Reading

def start (size : ℕ) : Reading :=
  { buffer := .withMaxSize size, received := [], prompts := [], lineStart := 0 }

/-- The position of the first byte the next call scans. -/
def base (r : Reading) : ℕ := r.received.length - r.buffer.buffer.length

/-- One call of `process_data`. A call that ends no token leaves the same line unfinished. -/
def read (r : Reading) (data : List UInt8) : Reading :=
  let scanned := r.buffer.buffer ++ data
  let rest := (lex .lineStart scanned).1.pending
  { buffer := (r.buffer.processData data).2
    received := r.received ++ data
    prompts := r.prompts ++ (promptOffsets scanned).map (r.base + ·)
    lineStart := if rest.length = scanned.length then r.lineStart
      else r.base + (scanned.length - rest.length) }

/-- Consecutive calls on a fresh buffer. -/
def feed (size : ℕ) (chunks : List (List UInt8)) : Reading := chunks.foldl read (start size)

theorem feed_concat (size : ℕ) (chunks : List (List UInt8)) (data : List UInt8) :
    feed size (chunks ++ [data]) = (feed size chunks).read data := by
  rw [feed, feed, List.foldl_append, List.foldl_cons, List.foldl_nil]

/-- The call takes a `>` for the start of a line whose front was discarded, and which did not
begin with a prompt and only spaces. -/
def Invents (r : Reading) (data : List UInt8) : Prop :=
  r.lineStart < r.base ∧ (r.buffer.buffer ++ data).head? = some GT ∧
    ¬ FollowsPrompt r.received r.prompts r.base

end Reading

/-! ### More bytes -/

section Append

variable {received data : List UInt8} {prompts later : List ℕ} {p : ℕ}

theorem atLineStart_append (hp : p ≤ received.length) :
    AtLineStart (received ++ data) p ↔ AtLineStart received p := by
  rcases Nat.eq_zero_or_pos p with rfl | hpos
  · exact iff_of_true (.inl rfl) (.inl rfl)
  · rw [AtLineStart, AtLineStart, List.getElem?_append_left (by omega)]

/-- Whether a position follows a prompt is settled once it is reached. -/
theorem followsPrompt_append (hp : p ≤ received.length) (hlater : ∀ q ∈ later, p ≤ q) :
    FollowsPrompt (received ++ data) (prompts ++ later) p ↔ FollowsPrompt received prompts p := by
  have hspaces : ∀ q, (∀ j < p, q < j → (received ++ data)[j]? = some SP) ↔
      ∀ j < p, q < j → received[j]? = some SP := by
    intro q
    refine forall₂_congr fun j hj => ?_
    rw [List.getElem?_append_left (by omega)]
  constructor
  · rintro ⟨q, hq, hlt, h⟩
    rcases List.mem_append.mp hq with hq | hq
    · exact ⟨q, hq, hlt, (hspaces q).mp h⟩
    · exact absurd hlt (not_lt.mpr (hlater q hq))
  · rintro ⟨q, hq, hlt, h⟩
    exact ⟨q, List.mem_append_left _ hq, hlt, (hspaces q).mpr h⟩

theorem genuinePrompt_append (hp : p < received.length) (hlater : ∀ q ∈ later, p ≤ q) :
    GenuinePrompt (received ++ data) (prompts ++ later) p ↔ GenuinePrompt received prompts p := by
  rw [GenuinePrompt, GenuinePrompt, List.getElem?_append_left hp, atLineStart_append hp.le,
    followsPrompt_append hp.le hlater]

/-- Where a token starts within the scanned bytes, a newline went before, or a prompt and
spaces. -/
theorem tokenStart_of_lex (front : List UInt8) {pre : List UInt8} (post : List UInt8)
    (prompts : List ℕ) (hne : pre ≠ [])
    (hstarts : (lex .lineStart pre).1.startsToken) :
    AtLineStart (front ++ (pre ++ post)) (front.length + pre.length) ∨
      FollowsPrompt (front ++ (pre ++ post))
        (prompts ++ (promptOffsets (pre ++ post)).map (front.length + ·))
        (front.length + pre.length) := by
  rcases startsToken_cases hne hstarts with ⟨b, hb, hnl⟩ | ⟨q, hq, hspaces⟩
  · left
    obtain ⟨init, rfl⟩ := List.getLast?_eq_some_iff.mp hb
    refine .inr ⟨b, ?_, hnl⟩
    rw [List.length_append, List.length_singleton, ← Nat.add_assoc, Nat.add_sub_cancel,
      List.getElem?_append_right (Nat.le_add_right _ _), Nat.add_sub_cancel_left,
      List.append_assoc, List.getElem?_append_right le_rfl, Nat.sub_self]
    rfl
  · right
    obtain ⟨hget, hq⟩ := mem_promptOffsets.mp hq
    have hlt : q < pre.length := (List.getElem?_eq_some_iff.mp hget).1
    refine ⟨front.length + q, List.mem_append_right _ (List.mem_map_of_mem ?_), by omega, ?_⟩
    · rw [mem_promptOffsets, List.getElem?_append_left hlt, List.take_append_of_le_length hlt.le]
      exact ⟨hget, hq⟩
    · intro j hj hqj
      obtain ⟨k, rfl⟩ := Nat.exists_eq_add_of_le (show front.length ≤ j by omega)
      rw [List.getElem?_append_right (Nat.le_add_right _ _), Nat.add_sub_cancel_left,
        List.getElem?_append_left (by omega)]
      exact hspaces k (by omega) (by omega)

end Append

namespace Reading

/-- What is known between two calls: the buffer is the end of what was received, the prompts are
before it, and the unfinished line, which holds no newline, starts where a token starts. -/
structure Inv (r : Reading) : Prop where
  split : r.received = r.received.take r.base ++ r.buffer.buffer
  lt_base : ∀ p ∈ r.prompts, p < r.base
  increasing : r.prompts.Pairwise (· < ·)
  start_le : r.lineStart ≤ r.base
  starts : AtLineStart r.received r.lineStart ∨ FollowsPrompt r.received r.prompts r.lineStart
  text : ∀ j, r.lineStart ≤ j → ∀ b ∈ r.received[j]?, ¬ isNewline b

variable {r : Reading}

theorem base_le (r : Reading) : r.base ≤ r.received.length := Nat.sub_le _ _

theorem inv_start (size : ℕ) : (start size).Inv where
  split := rfl
  lt_base := by simp [start]
  increasing := .nil
  start_le := le_rfl
  starts := .inl (.inl rfl)
  text := by simp [start]

/-- What one call does: it consumes the tokens, discards the front of the rest if it is too long,
and keeps the end. -/
theorem Inv.read_cases (hinv : r.Inv) (data : List UInt8) :
    ∃ consumed dropped kept, r.buffer.buffer ++ data = consumed ++ (dropped ++ kept) ∧
      (lex .lineStart consumed).1.startsToken ∧ (∀ b ∈ dropped ++ kept, ¬ isNewline b) ∧
      (∀ o ∈ promptOffsets (r.buffer.buffer ++ data), o < consumed.length) ∧
      (r.read data).buffer.buffer = kept ∧
      (r.read data).base = r.base + (consumed.length + dropped.length) ∧
      (r.read data).lineStart =
        if consumed = [] then r.lineStart else r.base + consumed.length := by
  obtain ⟨consumed, hsplit, hstarts⟩ := exists_lex_split (r.buffer.buffer ++ data)
  have hvalid := lex_valid (s := .lineStart) trivial (r.buffer.buffer ++ data)
  have htext : ∀ b ∈ (lex .lineStart (r.buffer.buffer ++ data)).1.pending, ¬ isNewline b := by
    cases hstate : (lex .lineStart (r.buffer.buffer ++ data)).1 with
    | inLine line =>
      rw [hstate] at hvalid
      exact hvalid.2.1
    | _ => simp
  have hoffset : ∀ o ∈ promptOffsets (r.buffer.buffer ++ data),
      o + (lex .lineStart (r.buffer.buffer ++ data)).1.pending.length <
        (r.buffer.buffer ++ data).length := fun o ho => promptOffset_lt ho
  have hbuffer : (r.read data).buffer.buffer = LineBuffer.truncate r.buffer.maxBufferSize
      (lex .lineStart (r.buffer.buffer ++ data)).1.pending := by
    rw [read, processData_eq]
    rfl
  have hstart : (r.read data).lineStart =
      if (lex .lineStart (r.buffer.buffer ++ data)).1.pending.length =
        (r.buffer.buffer ++ data).length then r.lineStart
      else r.base + ((r.buffer.buffer ++ data).length -
        (lex .lineStart (r.buffer.buffer ++ data)).1.pending.length) := rfl
  generalize (lex .lineStart (r.buffer.buffer ++ data)).1.pending = rest at *
  obtain ⟨k, hk⟩ : ∃ k, LineBuffer.truncate r.buffer.maxBufferSize rest = rest.drop k := by
    unfold LineBuffer.truncate
    split
    · exact ⟨_, rfl⟩
    · exact ⟨0, rfl⟩
  have hlength : (r.buffer.buffer ++ data).length = consumed.length + rest.length := by
    rw [hsplit, List.length_append]
  have hreceived := congrArg List.length hinv.split
  rw [List.length_append, List.length_take_of_le r.base_le] at hreceived
  refine ⟨consumed, rest.take k, rest.drop k, by rwa [List.take_append_drop], hstarts,
    by rwa [List.take_append_drop], fun o ho => ?_, hbuffer.trans hk, ?_, ?_⟩
  · have := hoffset o ho
    omega
  · have hkept : (r.read data).buffer.buffer.length = rest.length - k := by
      rw [hbuffer, hk, List.length_drop]
    have hnow : (r.read data).received.length = r.received.length + data.length :=
      List.length_append
    rw [List.length_append] at hlength
    rw [base, hkept, hnow, List.length_take]
    omega
  · rw [hstart, hlength]
    by_cases hnil : consumed = []
    · rw [if_pos hnil, if_pos (by simp [hnil])]
    · have := List.length_pos_iff.mpr hnil
      rw [if_neg hnil, if_neg (by omega), Nat.add_sub_cancel]

theorem Inv.received_read (hinv : r.Inv) (data : List UInt8) :
    (r.read data).received = r.received.take r.base ++ (r.buffer.buffer ++ data) :=
  (congrArg (· ++ data) hinv.split).trans (List.append_assoc ..)

/-- The byte at a position of the scanned bytes. -/
theorem Inv.getElem?_read (hinv : r.Inv) (data : List UInt8) (k : ℕ) :
    (r.read data).received[r.base + k]? = (r.buffer.buffer ++ data)[k]? := by
  have hbase : (r.received.take r.base).length = r.base := List.length_take_of_le r.base_le
  rw [hinv.received_read, List.getElem?_append_right (by omega), hbase, Nat.add_sub_cancel_left]

/-- Where a token starts in the scanned bytes, except at the first of them. -/
theorem Inv.tokenStart_read (hinv : r.Inv) {data pre post : List UInt8}
    (hsplit : r.buffer.buffer ++ data = pre ++ post) (hne : pre ≠ [])
    (hstarts : (lex .lineStart pre).1.startsToken) :
    AtLineStart (r.read data).received (r.base + pre.length) ∨
      FollowsPrompt (r.read data).received (r.read data).prompts (r.base + pre.length) := by
  have h := tokenStart_of_lex (r.received.take r.base) post r.prompts hne hstarts
  rwa [List.length_take_of_le r.base_le, ← hsplit, ← hinv.received_read] at h

theorem base_le_of_mem {data : List UInt8} :
    ∀ p ∈ (promptOffsets (r.buffer.buffer ++ data)).map (r.base + ·), r.base ≤ p := by
  intro p hp
  obtain ⟨o, -, rfl⟩ := List.mem_map.mp hp
  exact Nat.le_add_right _ _

/-- A prompt that is emitted for another byte than the first one of the call is owed. -/
theorem Inv.genuine_of_pos (hinv : r.Inv) {data : List UInt8} {o : ℕ}
    (ho : o ∈ promptOffsets (r.buffer.buffer ++ data)) (hpos : 0 < o) :
    GenuinePrompt (r.read data).received (r.read data).prompts (r.base + o) := by
  obtain ⟨hget, hstarts⟩ := mem_promptOffsets.mp ho
  have hlt := (List.getElem?_eq_some_iff.mp hget).1
  have hlength : ((r.buffer.buffer ++ data).take o).length = o := List.length_take_of_le hlt.le
  refine ⟨by rw [hinv.getElem?_read, hget], ?_⟩
  have h := hinv.tokenStart_read (List.take_append_drop o _).symm
    (List.ne_nil_of_length_pos (by omega)) hstarts
  rwa [hlength] at h

/-- A prompt that is emitted for the first byte of the call is owed exactly if it is not
invented. -/
theorem Inv.genuine_iff_of_first (hinv : r.Inv) {data : List UInt8}
    (hfirst : (r.buffer.buffer ++ data).head? = some GT) :
    GenuinePrompt (r.read data).received (r.read data).prompts r.base ↔ ¬ r.Invents data := by
  have hget : (r.read data).received[r.base]? = some GT := by
    have := hinv.getElem?_read data 0
    rwa [Nat.add_zero, ← List.head?_eq_getElem?, hfirst] at this
  have hstart : AtLineStart (r.read data).received r.base ↔ AtLineStart r.received r.base :=
    atLineStart_append r.base_le
  have hfollows : FollowsPrompt (r.read data).received (r.read data).prompts r.base ↔
      FollowsPrompt r.received r.prompts r.base := followsPrompt_append r.base_le base_le_of_mem
  rw [GenuinePrompt, hstart, hfollows, and_iff_right hget]
  rcases Nat.eq_or_lt_of_le hinv.start_le with heq | hlt
  · -- nothing was discarded, and the unfinished line starts where a token does
    have hnot : ¬ r.Invents data := fun h => absurd h.1 (by omega)
    exact iff_of_true (heq ▸ hinv.starts) hnot
  · have htext : ¬ AtLineStart r.received r.base := by
      rintro (hzero | ⟨b, hb, hnl⟩)
      · omega
      · exact hinv.text (r.base - 1) (by omega) b hb hnl
    rw [or_iff_right htext, Invents, and_iff_right hlt, and_iff_right hfirst, not_not]

theorem Inv.read (hinv : r.Inv) (data : List UInt8) : (r.read data).Inv := by
  obtain ⟨consumed, dropped, kept, hsplit, hstarts, htext, hoffset, hbuffer, hbase, hstart⟩ :=
    hinv.read_cases data
  have hfront : (r.received.take r.base).length = r.base := List.length_take_of_le r.base_le
  constructor
  case split =>
    rw [hinv.received_read, hsplit, hbuffer, hbase, ← List.append_assoc consumed,
      ← List.append_assoc, List.take_left']
    rw [List.length_append, List.length_append, hfront]
  case lt_base =>
    refine List.forall_mem_append.mpr ⟨fun p hp => ?_, fun p hp => ?_⟩
    · have := hinv.lt_base p hp
      omega
    · obtain ⟨o, ho, rfl⟩ := List.mem_map.mp hp
      have := hoffset o ho
      omega
  case increasing =>
    refine List.pairwise_append.mpr ⟨hinv.increasing, ?_, fun p hp q hq => ?_⟩
    · exact List.Pairwise.map _ (fun _ _ h => Nat.add_lt_add_left h _)
        (List.pairwise_lt_range.filter _)
    · exact lt_of_lt_of_le (hinv.lt_base p hp) (base_le_of_mem q hq)
  case start_le =>
    have := hinv.start_le
    rw [hstart, hbase]
    split <;> omega
  case starts =>
    rw [hstart]
    split
    · have hle := hinv.start_le.trans r.base_le
      refine hinv.starts.imp (atLineStart_append hle).mpr (followsPrompt_append hle ?_).mpr
      exact fun q hq => hinv.start_le.trans (base_le_of_mem q hq)
    · next hne => exact hinv.tokenStart_read hsplit hne hstarts
  case text =>
    intro j hj b hb
    -- the unfinished line is the rest of the scanned bytes, after what was unfinished before
    by_cases hbefore : j < r.base + consumed.length
    · have hnil : consumed = [] := by
        by_contra hne
        rw [hstart, if_neg hne] at hj
        omega
      rw [hstart, if_pos hnil] at hj
      rw [hnil, List.length_nil, Nat.add_zero] at hbefore
      refine hinv.text j hj b ?_
      have hlt : j < r.received.length := lt_of_lt_of_le hbefore r.base_le
      rwa [Reading.read, List.getElem?_append_left hlt] at hb
    · obtain ⟨k, rfl⟩ := Nat.exists_eq_add_of_le (not_lt.mp hbefore)
      rw [Nat.add_assoc, hinv.getElem?_read, hsplit,
        List.getElem?_append_right (Nat.le_add_right _ _), Nat.add_sub_cancel_left] at hb
      exact htext b (List.mem_of_getElem? hb)

/-- The prompts of one more call are owed if those before were and the call invents none. -/
theorem Inv.forall_genuine_read (hinv : r.Inv) (data : List UInt8) :
    (∀ p ∈ (r.read data).prompts,
        GenuinePrompt (r.read data).received (r.read data).prompts p) ↔
      (∀ p ∈ r.prompts, GenuinePrompt r.received r.prompts p) ∧ ¬ r.Invents data := by
  have hprompts : (r.read data).prompts =
      r.prompts ++ (promptOffsets (r.buffer.buffer ++ data)).map (r.base + ·) := rfl
  have hfirst : 0 ∈ promptOffsets (r.buffer.buffer ++ data) ↔
      (r.buffer.buffer ++ data).head? = some GT := by
    rw [mem_promptOffsets, List.head?_eq_getElem?]
    exact and_iff_left rfl
  refine (List.forall_mem_append (p := fun p =>
    GenuinePrompt (r.read data).received (r.read data).prompts p)).trans (and_congr ?_ ?_)
  · refine forall₂_congr fun p hp => ?_
    have hlt := hinv.lt_base p hp
    exact genuinePrompt_append (lt_of_lt_of_le hlt r.base_le)
      fun q hq => hlt.le.trans (base_le_of_mem q hq)
  · rw [List.forall_mem_map]
    constructor
    · intro h hinvents
      have hgenuine := h 0 (hfirst.mpr hinvents.2.1)
      exact (hinv.genuine_iff_of_first hinvents.2.1).mp hgenuine hinvents
    · intro hnot o ho
      rcases Nat.eq_zero_or_pos o with rfl | hpos
      · exact (hinv.genuine_iff_of_first (hfirst.mp ho)).mpr hnot
      · exact hinv.genuine_of_pos ho hpos

theorem inv_feed (size : ℕ) (chunks : List (List UInt8)) : (feed size chunks).Inv := by
  induction chunks using List.reverseRecOn with
  | nil => exact inv_start size
  | append_singleton chunks data ih =>
    rw [feed_concat]
    exact ih.read data

/-- The reading is of the calls: the bytes are those of the chunks, and there are as many
positions as prompts emitted. -/
theorem feed_eq (size : ℕ) (chunks : List (List UInt8)) :
    (feed size chunks).buffer = ((LineBuffer.withMaxSize size).feed chunks).1 ∧
      (feed size chunks).received = chunks.flatten ∧
      (feed size chunks).prompts.length =
        ((LineBuffer.withMaxSize size).feed chunks).2.countP (·.isPrompt) := by
  induction chunks using List.reverseRecOn with
  | nil => exact ⟨rfl, rfl, rfl⟩
  | append_singleton chunks data ih =>
    obtain ⟨hbuffer, hreceived, hlength⟩ := ih
    rw [LineBuffer.feed] at hbuffer hlength
    rw [feed_concat, LineBuffer.feed, Machine.Transducer.run_append]
    simp only [Machine.Transducer.run_cons, Machine.Transducer.run_nil, ← hbuffer,
      List.append_nil, Prod.fst_swap, Prod.snd_swap]
    refine ⟨rfl, by rw [read, hreceived, List.flatten_concat], ?_⟩
    rw [List.countP_append, ← hlength, read, List.length_append, List.length_map,
      length_promptOffsets, processData_eq]

/-- Every prompt emitted comes from a `>` of its own that is owed a prompt. -/
structure Corresponds (size : ℕ) (chunks : List (List UInt8)) : Prop where
  length : (feed size chunks).prompts.length =
    ((LineBuffer.withMaxSize size).feed chunks).2.countP (·.isPrompt)
  distinct : (feed size chunks).prompts.Pairwise (· < ·)
  genuine : ∀ p ∈ (feed size chunks).prompts,
    GenuinePrompt chunks.flatten (feed size chunks).prompts p

/-- **Prompts.** However the stream is cut and whatever the size of the buffer, the prompts come
from distinct `>` bytes that are owed one, if and only if no call invents a prompt. -/
theorem corresponds_iff (size : ℕ) (chunks : List (List UInt8)) :
    Corresponds size chunks ↔
      ∀ before data after, chunks = before ++ data :: after →
        ¬ (feed size before).Invents data := by
  have hgenuine : Corresponds size chunks ↔ ∀ p ∈ (feed size chunks).prompts,
      GenuinePrompt (feed size chunks).received (feed size chunks).prompts p := by
    rw [(feed_eq size chunks).2.1]
    exact ⟨fun h => h.genuine, fun h =>
      ⟨(feed_eq size chunks).2.2, (inv_feed size chunks).increasing, h⟩⟩
  rw [hgenuine]
  clear hgenuine
  induction chunks using List.reverseRecOn with
  | nil => simp [feed, start]
  | append_singleton chunks data ih =>
    rw [feed_concat, (inv_feed size chunks).forall_genuine_read]
    refine (and_congr_left' ih).trans ?_
    constructor
    · rintro ⟨hbefore, hlast⟩ before data' after heq
      rcases List.eq_nil_or_concat after with rfl | ⟨init, last, rfl⟩
      · obtain ⟨rfl, h⟩ := List.append_inj' heq rfl
        rwa [← (List.cons.inj h).1]
      · rw [List.concat_eq_append, ← List.cons_append, ← List.append_assoc] at heq
        exact hbefore before data' init (List.append_inj' heq rfl).1
    · intro h
      refine ⟨fun before data' after heq => h before data' (after ++ [data]) ?_,
        h chunks data [] rfl⟩
      rw [heq, List.append_assoc, List.cons_append]

/-- An unfinished line that ends in `>`, cut down to its last byte: the next call takes it for a
prompt. -/
theorem truncation_invents_prompt :
    ((LineBuffer.withMaxSize 1).feed [encodeUtf8 "AB>".toList, encodeUtf8 "C".toList]).2 =
        [.prompt ">".toList] ∧
      ¬ Corresponds 1 [encodeUtf8 "AB>".toList, encodeUtf8 "C".toList] := by
  refine ⟨by decide +kernel, fun h => ?_⟩
  obtain ⟨-, hstart | hfollows⟩ := h.genuine 2 (by decide +kernel)
  · exact absurd hstart (by decide +kernel)
  · exact absurd hfollows (by decide +kernel)

end Reading

end SmsServer

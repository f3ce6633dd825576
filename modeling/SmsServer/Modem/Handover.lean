import SmsServer.Modem.Query
import SmsServer.Modem.Timeouts

/-!
# From the initialization to the status loop

The port has two readers: `read_response_until_ok` while the modem is initialized, and the status
loop afterwards. Forwarding of messages is switched on halfway through the initialization, whose
reader hands nothing on. `handedOver` shows that a block reaches the unsolicited handler if all of
it is left to the status loop, however the bytes are read.
-/

namespace SmsServer

open RustStd Machine Effect

variable {X : Crates}

/-! ### Calls of the unsolicited handler -/

namespace StateMachineState

/-- The kind of the message whose payload line is awaited. -/
def awaited? : StateMachineState → Option UnsolicitedMessageKind
  | unsolicitedMessage messageKind _ => some messageKind
  | _ => none

/-- The calls that a line event leads to, and what is awaited then, if no header comes while a
payload line is awaited. -/
def hear (awaited : Option UnsolicitedMessageKind) :
    LineEvent → Option UnsolicitedMessageKind × List (UnsolicitedMessageKind × Str)
  | .prompt _ => (none, [])
  | .line content =>
    match UnsolicitedMessageKind.fromHeader (trim content) with
    | some messageKind =>
      if messageKind.hasNextLine then (some messageKind, [])
      else (none, [(messageKind, trim content)])
    | none => (none, (awaited.map fun messageKind => (messageKind, trim content)).toList)

/-- The line event is no header, or the machine listens for one. -/
def Hears (self : StateMachineState) (event : LineEvent) : Prop :=
  (header? event).isSome → self.awaitsPayload = false

theorem agrees_map_iff {awaited : Option UnsolicitedMessageKind} {s : StateMachineState} :
    Agrees (awaited.map fun messageKind => (true, messageKind)) s ↔ s.awaited? = awaited := by
  cases s with
  | unsolicitedMessage messageKind interrupted =>
    cases awaited <;> simp [Agrees, awaited?, eq_comm]
  | _ => cases awaited <;> simp [Agrees, awaited?]

/-- A line event that the machine listens for leads to the calls it asks for. -/
theorem hear_handleEvent {s : StateMachineState} {event : LineEvent} (h : s.Hears event)
    (peers : Peers) :
    (s.handleEvent (X := X) (peers, event)).1.awaited? = (hear s.awaited? event).1 ∧
      unsolicitedOf (s.handleEvent (X := X) (peers, event)).2 = (hear s.awaited? event).2 := by
  obtain ⟨hagrees, hcalls⟩ := announce_handleEvent (X := X)
    (agrees_map_iff.mpr (rfl : s.awaited? = s.awaited?)) peers event
  have hannounce : announce (s.awaited?.map fun messageKind => (true, messageKind)) (s, event) =
      ((hear s.awaited? event).1.map fun messageKind => (true, messageKind),
        (hear s.awaited? event).2.map fun call => ⟨true, call.1, call.2⟩) := by
    cases event with
    | prompt content => rfl
    | line content =>
      simp only [announce, hear]
      cases hkind : UnsolicitedMessageKind.fromHeader (trim content) with
      | none => cases s.awaited? <;> rfl
      | some messageKind =>
        have hlistens : s.awaitsPayload = false := h (by simp [header?, hkind])
        cases hnext : messageKind.hasNextLine <;> simp [hnext, hlistens]
  rw [hannounce] at hagrees hcalls
  refine ⟨agrees_map_iff.mp hagrees, ?_⟩
  rw [hcalls, List.filter_eq_self.mpr (List.forall_mem_map.mpr fun _ _ => rfl), List.map_map]
  exact List.map_id _

end StateMachineState

/-! ### Reading blocks -/

/-- One byte, with whether a read began with it: then the line that was kept is scanned again. -/
def lexRead (size : ℕ) (s : LexState) (p : UInt8 × Bool) : LexState × List LineEvent :=
  let kept := if p.2 then lex .lineStart (LineBuffer.truncate size s.pending) else (s, [])
  let next := lexByte kept.1 p.1
  (next.1, kept.2 ++ next.2)

theorem run_lexRead_uncut (size : ℕ) (s : LexState) (bs : List UInt8) :
    Transducer.run (lexRead size) s (bs.map fun b => (b, false)) = lex s bs := by
  induction bs generalizing s with
  | nil => rfl
  | cons b bs ih =>
    rw [List.map_cons, Transducer.run_cons, ih, lex_cons]
    rfl

/-- A read scans what was kept and the new bytes. -/
theorem run_lexRead_read (size : ℕ) (s : LexState) {data : List UInt8} (hdata : data ≠ []) :
    Transducer.run (lexRead size) s (annotate [data]) =
      lex .lineStart (LineBuffer.truncate size s.pending ++ data) := by
  obtain ⟨b, bs, rfl⟩ := List.exists_cons_of_ne_nil hdata
  have hannotate : annotate [b :: bs] = (b, true) :: bs.map fun c => (c, false) := by
    simp [annotate]
  rw [hannotate, Transducer.run_cons, run_lexRead_uncut, lex_append, lex_cons]
  simp [lexRead]

/-- A newline ends the line, whatever was kept of it. -/
theorem lexRead_newline (size : ℕ) (s : LexState) {b : UInt8} (hb : isNewline b) (cut : Bool) :
    (lexRead size s (b, cut)).1 = .lineStart := by
  have hbyte : ∀ s : LexState, (lexByte s b).1 = .lineStart := by
    intro s
    have hsp : b ≠ SP := by rintro rfl; exact absurd hb (by decide)
    cases s with
    | lineStart => rw [lexByte, lexLineStart, if_pos hb]
    | afterPrompt => rw [lexByte, if_neg hsp, lexLineStart, if_pos hb]
    | inLine line => rw [lexByte, if_pos hb]
  exact hbyte _

/-- Output that ends with a line. -/
def Closed (bytes : List UInt8) : Prop := ∀ b ∈ bytes.getLast?, isNewline b

theorem run_lexRead_closed (size : ℕ) {ps : List (UInt8 × Bool)} (h : Closed (ps.map Prod.fst)) :
    (Transducer.run (lexRead size) .lineStart ps).1 = .lineStart := by
  rcases List.eq_nil_or_concat ps with rfl | ⟨ps, ⟨b, cut⟩, rfl⟩
  · rfl
  · have hb : isNewline b := h b (by simp)
    rw [List.concat_eq_append, Transducer.run_append]
    exact lexRead_newline size _ hb cut

/-- The beginning of a line that fits the buffer is kept as it is. -/
theorem lexRead_scanState {size : ℕ} {line : List UInt8} (hnew : ∀ b ∈ line, ¬ isNewline b)
    (hhead : line.head? ≠ some GT) (hsize : line.length ≤ size) (b : UInt8) (cut : Bool) :
    lexRead size (scanState line) (b, cut) = lexByte (scanState line) b := by
  cases cut with
  | false => rfl
  | true =>
    have htext := lex_lineStart_text hnew hhead
    have hkept : lex .lineStart (LineBuffer.truncate size (scanState line).pending) =
        (scanState line, []) := by
      rw [scanState_pending, LineBuffer.truncate_of_le hsize]
      exact Prod.ext htext.1 htext.2
    simp only [lexRead, if_true, hkept, List.nil_append]

theorem run_lexRead_text {size : ℕ} {ps : List (UInt8 × Bool)}
    (hnew : ∀ b ∈ ps.map Prod.fst, ¬ isNewline b) (hhead : (ps.map Prod.fst).head? ≠ some GT)
    (hsize : ps.length ≤ size) :
    Transducer.run (lexRead size) .lineStart ps = (scanState (ps.map Prod.fst), []) := by
  induction ps using List.reverseRecOn with
  | nil => rfl
  | append_singleton ps p ih =>
    obtain ⟨b, cut⟩ := p
    rw [List.map_append, List.map_singleton] at hnew hhead ⊢
    rw [List.length_append, List.length_singleton] at hsize
    have hnew' : ∀ b ∈ ps.map Prod.fst, ¬ isNewline b :=
      fun b hb => hnew b (List.mem_append_left _ hb)
    have hhead' : (ps.map Prod.fst).head? ≠ some GT := fun hgt =>
      hhead (by rw [List.head?_append, hgt, Option.some_or])
    rw [Transducer.run_append, ih hnew' hhead' (by omega), Transducer.run_cons,
      lexRead_scanState hnew' hhead' (by rw [List.length_map]; omega),
      lexByte_scanState_text (hnew b (by simp))]
    · rfl
    · rintro rfl hnil
      exact hhead (by rw [hnil]; rfl)

/-- A line that fits the buffer, however it is read. -/
theorem run_lexRead_line {size : ℕ} {line : WireLine} (hhead : line.bytes.head? ≠ some GT)
    (hsize : line.bytes.length ≤ size) {ps : List (UInt8 × Bool)}
    (hps : ps.map Prod.fst = line.bytes ++ [CR, LF]) :
    Transducer.run (lexRead size) .lineStart ps = (.lineStart, line.event?.toList) := by
  obtain ⟨ps, ends, rfl, htext, hends⟩ := List.map_eq_append_iff.mp hps
  obtain ⟨⟨cr, cut⟩, ends, rfl, rfl, hlf⟩ := List.map_eq_cons_iff.mp hends
  obtain ⟨⟨lf, cut'⟩, rfl, rfl⟩ := List.map_eq_singleton_iff.mp hlf
  have hlength : ps.length ≤ size := by rwa [← htext, List.length_map] at hsize
  have hrun := run_lexRead_text (htext ▸ line.noNewline) (htext ▸ hhead) hlength
  rw [Transducer.run_append, hrun, htext, Transducer.run_cons, Transducer.run_cons,
    lexRead_scanState line.noNewline hhead hsize, lexByte_scanState_newline (by decide)]
  have hlast : lexRead size .lineStart (LF, cut') = (.lineStart, []) := by
    rw [← scanState_nil, lexRead_scanState (by simp) (by simp) (Nat.zero_le _)]
    rfl
  simp only [hlast]
  simp [WireLine.event?]

theorem run_lexRead_wire {size : ℕ} {lines : List WireLine}
    (hhead : ∀ line ∈ lines, line.bytes.head? ≠ some GT)
    (hsize : ∀ line ∈ lines, line.bytes.length ≤ size) {ps : List (UInt8 × Bool)}
    (hps : ps.map Prod.fst = wire lines) :
    Transducer.run (lexRead size) .lineStart ps = (.lineStart, lineEventsOf lines) := by
  induction lines generalizing ps with
  | nil =>
    obtain rfl := List.map_eq_nil_iff.mp hps
    rfl
  | cons line lines ih =>
    obtain ⟨ps, qs, rfl, hline, hlines⟩ := List.map_eq_append_iff.mp
      (hps.trans (List.flatMap_cons ..))
    obtain ⟨hhead₁, hheads⟩ := List.forall_mem_cons.mp hhead
    obtain ⟨hsize₁, hsizes⟩ := List.forall_mem_cons.mp hsize
    rw [Transducer.run_append, run_lexRead_line hhead₁ hsize₁ hline, ih hheads hsizes hlines]
    rfl

namespace UnsolicitedBlock

open StateMachineState

/-- The call of the unsolicited handler that a block asks for. -/
def call : UnsolicitedBlock → UnsolicitedMessageKind × Str
  | notice header messageKind .. => (messageKind, header.text)
  | message _ payload messageKind .. => (messageKind, payload.text)

/-- The events of a block lead to its call. -/
theorem run_hear_lines (block : UnsolicitedBlock) (awaited : Option UnsolicitedMessageKind) :
    Transducer.run hear awaited (lineEventsOf block.lines) = (none, [block.call]) := by
  cases block with
  | notice header messageKind hheader hkind =>
    have hevent := WireLine.event?_of_text (WireLine.header_text hheader).1
    simp [lineEventsOf, lines, hevent, Transducer.run_cons, hear, hheader, hkind, call]
  | message header payload messageKind hheader hkind hblank hprompt hpayload =>
    have hevent := WireLine.event?_of_text (WireLine.header_text hheader).1
    simp [lineEventsOf, lines, hevent, WireLine.event?_of_text hblank, Transducer.run_cons, hear,
      hheader, hkind, hpayload, call]

end UnsolicitedBlock

/-- A block, and what the modem has sent before it since the last one. -/
structure Piece where
  gap : List UInt8
  block : UnsolicitedBlock

namespace Piece

def bytes (self : Piece) : List UInt8 := self.gap ++ wire self.block.lines

/-- The lines of the block fit the line buffer. -/
def Fits (size : ℕ) (self : Piece) : Prop :=
  ∀ line ∈ self.block.lines, line.bytes.length ≤ size

end Piece

/-- Complete blocks of a stream: each begins on a line of its own. -/
structure Interleaved (stream : List UInt8) (pieces : List Piece) : Prop where
  closed : ∀ p ∈ pieces, Closed p.gap
  read : pieces.flatMap Piece.bytes <+: stream

/-- Blocks that begin after the front of a stream are blocks of the rest. -/
theorem Interleaved.rest {front stream : List UInt8} {pieces : List Piece}
    (h : Interleaved (front ++ stream) pieces)
    (hfront : ∀ p ∈ pieces.head?, front.length ≤ p.gap.length) :
    ∃ pieces' : List Piece, pieces'.map Piece.block = pieces.map Piece.block ∧
      Interleaved stream pieces' := by
  cases pieces with
  | nil => exact ⟨[], rfl, nofun, List.nil_prefix⟩
  | cons piece pieces =>
    obtain ⟨hclosed, hcloseds⟩ := List.forall_mem_cons.mp h.closed
    -- the first gap begins with the front
    have hgap : front <+: piece.gap := by
      refine List.prefix_of_prefix_length_le (List.prefix_append front stream) ?_
        (hfront piece rfl)
      refine List.IsPrefix.trans ?_ h.read
      rw [List.flatMap_cons, Piece.bytes, List.append_assoc]
      exact List.prefix_append _ _
    obtain ⟨gap, hgap⟩ := hgap
    refine ⟨⟨gap, piece.block⟩ :: pieces, rfl, List.forall_mem_cons.mpr ⟨?_, hcloseds⟩, ?_⟩
    · intro b hb
      refine hclosed b ?_
      rw [← hgap, List.getLast?_append, hb]
      rfl
    · have hstream := h.read
      rw [List.flatMap_cons, Piece.bytes, ← hgap, List.append_assoc, List.append_assoc,
        List.prefix_append_right_inj] at hstream
      rwa [List.flatMap_cons, Piece.bytes, List.append_assoc]

open StateMachineState in
/-- All blocks lead to their calls, in their order. -/
theorem calls_sublist {size : ℕ} {pieces : List Piece} (hclosed : ∀ p ∈ pieces, Closed p.gap)
    (hfits : ∀ p ∈ pieces, p.Fits size) {rest : List UInt8} {ps : List (UInt8 × Bool)}
    (hps : ps.map Prod.fst = pieces.flatMap Piece.bytes ++ rest)
    (awaited : Option UnsolicitedMessageKind) :
    (pieces.map (·.block.call)).Sublist
      (Transducer.run hear awaited (Transducer.run (lexRead size) .lineStart ps).2).2 := by
  induction pieces generalizing ps awaited with
  | nil => exact List.nil_sublist _
  | cons piece pieces ih =>
    obtain ⟨hgap, hgaps⟩ := List.forall_mem_cons.mp hclosed
    obtain ⟨hfit, hrest⟩ := List.forall_mem_cons.mp hfits
    rw [List.flatMap_cons, Piece.bytes, List.append_assoc, List.append_assoc] at hps
    obtain ⟨gs, ps, rfl, hgs, hps⟩ := List.map_eq_append_iff.mp hps
    obtain ⟨bs, ps, rfl, hbs, hps⟩ := List.map_eq_append_iff.mp hps
    have hhead : ∀ line ∈ piece.block.lines, line.bytes.head? ≠ some GT := fun line hline =>
      UnsolicitedBlock.head?_ne_gt line
        (show line ∈ [piece.block].flatMap UnsolicitedBlock.lines by simpa using hline)
    have hevents : (Transducer.run (lexRead size) .lineStart (gs ++ (bs ++ ps))).2 =
        (Transducer.run (lexRead size) .lineStart gs).2 ++ (lineEventsOf piece.block.lines ++
          (Transducer.run (lexRead size) .lineStart ps).2) := by
      rw [Transducer.run_append,
        run_lexRead_closed size (show Closed (gs.map Prod.fst) from hgs ▸ hgap),
        Transducer.run_append, run_lexRead_wire hhead hfit hbs]
    rw [hevents, Transducer.run_append, Transducer.run_append, UnsolicitedBlock.run_hear_lines]
    exact ((ih hgaps hrest hps none).cons_cons piece.block.call).trans
      (List.sublist_append_right _ _)

/-! ### The status loop -/

/-- The line events of a read that are still to be processed. -/
def Phase.events : Phase → List LineEvent
  | reading events => events
  | _ => []

namespace RunState

open StateMachineState

/-- A step with which the loop breaks up no block: it is online, a command that times out clears
no part of a line, and no header comes while a payload line is awaited. -/
structure Undisturbed (s : RunState) (input : Input) : Prop where
  online : s.status = .online
  buffered : s.Expires input → s.lineBuffer.buffer = [] ∨ ¬ s.RequesterWaits
  heard : ∀ event, input = .lineEvent → s.phase.nextEvent? = some event → s.machine.Hears event

theorem timeoutTick_lineBuffer {s : RunState} {now : Millis}
    (h : s.Expires (.timeoutTick now) → s.lineBuffer.buffer = [] ∨ ¬ s.RequesterWaits) :
    (s.timeoutTick (X := X) now).1.lineBuffer = s.lineBuffer := by
  by_cases hexpires : s.Expires (.timeoutTick now)
  · have hcases : (s.timeoutTick (X := X) now).1.lineBuffer = s.lineBuffer.clear ∨
        (s.timeoutTick (X := X) now).1.lineBuffer = s.lineBuffer := ite_eq_or_eq _ _ _
    rcases hcases with hclear | hsame
    · have hbuffer := (timeoutTick_of_expires (X := X) hexpires).2
      rw [hclear] at hbuffer
      have hempty : s.lineBuffer.buffer = [] := by
        rcases h hexpires with hempty | hgone
        · exact hempty
        · exact (hbuffer.mp rfl).resolve_left hgone
      rw [hclear, LineBuffer.clear, ← hempty]
    · exact hsame
  · rcases s.machine.handleCommandTimeout_cases (X := X) s.peers now with
      hnone | ⟨execution, -, -, hmachine, htimedOut, -⟩
    · rw [timeoutTick, hnone]
      rfl
    · exact absurd ⟨execution, hmachine, htimedOut⟩ hexpires

/-- A step that neither reads nor processes a line event calls no handler and, while the loop
stays online, keeps the buffer and the kind that is awaited. -/
theorem Move.keeps {s s' : RunState} {input : Input} {out : List (Effect X)}
    (hmove : Move s input s' out) (hwf : s.WellFormed) (honline : s.status = .online)
    (hread : input.received = []) (hline : input ≠ .lineEvent)
    (htick : ∀ now, input = .timeoutTick now → s'.lineBuffer = s.lineBuffer) :
    s'.lineBuffer = s.lineBuffer ∧ s'.phase.events = s.phase.events ∧ unsolicitedOf out = [] ∧
      (s'.status = .online → s'.machine.awaited? = s.machine.awaited?) := by
  have hfailed : ∀ (reason : Str) {notice : List (Effect X)}, (∀ e ∈ notice, e.IsBackground) →
      unsolicitedOf ((s.machine.failActiveCommand s.peers reason).2 ++ notice) = [] := by
    intro reason notice hnotice
    rw [unsolicitedOf_append, unsolicitedOf_failActiveCommand, unsolicitedOf_background hnotice]
    rfl
  cases hmove with
  | bytesRead data hdata => exact absurd hread hdata
  | transition => exact absurd rfl hline
  | requested => exact ⟨rfl, rfl, rfl, fun _ => rfl⟩
  | hungUp => exact ⟨rfl, rfl, rfl, fun _ => rfl⟩
  | statusEvent _ _ _ _ _ _ _ hnotice =>
    exact ⟨rfl, rfl, unsolicitedOf_background hnotice, fun _ => rfl⟩
  | written => exact ⟨rfl, rfl, rfl, fun _ => rfl⟩
  | writeFailed _ _ _ _ reason attempt _ _ _ hattempt hnotice =>
    have hattempt' : unsolicitedOf attempt = [] := by
      rcases hattempt with ⟨-, rfl⟩ | ⟨-, rfl⟩ <;> rfl
    refine ⟨rfl, rfl, ?_, nofun⟩
    rw [unsolicitedOf_append, hattempt', hfailed reason hnotice]
    rfl
  | started _ _ _ _ _ _ _ hidle => exact ⟨rfl, rfl, rfl, fun _ => by rw [hidle]; rfl⟩
  | readFailed _ reason _ _ _ _ hnotice => exact ⟨rfl, rfl, hfailed reason hnotice, nofun⟩
  | endOfRead hphase => exact ⟨rfl, by rw [hphase]; rfl, rfl, fun _ => rfl⟩
  | noTimeout => exact ⟨rfl, rfl, rfl, fun _ => rfl⟩
  | timedOut now _ _ _ _ _ _ hmachine =>
    exact ⟨htick now rfl, rfl, rfl, fun _ => by rw [hmachine]; rfl⟩
  | rejectedCommand => exact ⟨rfl, rfl, rfl, fun _ => rfl⟩
  | rejected hphase => exact ⟨rfl, by rw [hphase]; rfl, rfl, fun _ => rfl⟩
  | shutdown _ hstatus => exact absurd (honline.symm.trans hstatus) (by simp)
  | drained hphase => exact absurd honline (hwf.draining hphase)
  | slept _ hphase => exact absurd honline (hwf.stopped (.inr hphase)).1
  | notReconnected _ _ hdialogue =>
    exact ⟨rfl, rfl, unsolicitedOf_background hdialogue, fun _ => rfl⟩
  | reconnected _ _ _ hstatus => exact absurd (honline.symm.trans hstatus) (by simp)

/-- The bytes that were read in the steps of a history, with where the reads began. -/
def marksIn (h : List (RunState × Input)) : List (UInt8 × Bool) :=
  h.flatMap fun p => annotate [p.2.received]

theorem map_fst_marksIn (h : List (RunState × Input)) :
    (marksIn h).map Prod.fst = receivedIn h := by
  rw [marksIn, receivedIn, List.map_flatMap]
  simp [map_fst_annotate]

theorem marksIn_append (h : List (RunState × Input)) (s : RunState) (input : Input) :
    marksIn (h ++ [(s, input)]) = marksIn h ++ annotate [input.received] := by
  simp [marksIn]

/-- The worker has come as far as the bytes that were read: what is kept of them is in the line
buffer, their events have been processed or are about to be, and the handler was called for what
they announce. -/
structure Follows (size : ℕ) (h : List (RunState × Input)) (s : RunState) (t : List (Effect X)) :
    Prop where
  wellFormed : s.WellFormed
  lineBuffer : s.lineBuffer =
    ⟨LineBuffer.truncate size (Transducer.run (lexRead size) .lineStart (marksIn h)).1.pending,
      size⟩
  calls : ∃ processed,
    (Transducer.run (lexRead size) .lineStart (marksIn h)).2 = processed ++ s.phase.events ∧
      unsolicitedOf t = (Transducer.run hear none processed).2 ∧
      (s.status = .online → s.machine.awaited? = (Transducer.run hear none processed).1)

variable {size : ℕ} {h : List (RunState × Input)} {s s' : RunState} {t out : List (Effect X)}
  {input : Input} {display : TransitionError X → Str}

theorem Follows.read (hfollows : Follows size h s t) {data : List UInt8} (hdata : data ≠ [])
    (hstep : s.step display (.read (.ok data)) = some (s', out)) :
    Follows size (h ++ [(s, .read (.ok data))]) s' (t ++ out) := by
  obtain ⟨processed, hall, hdone, hmachine⟩ := hfollows.calls
  obtain ⟨henabled, hperform⟩ := step_eq_some_iff.mp hstep
  obtain ⟨b, bs, rfl⟩ := List.exists_cons_of_ne_nil hdata
  obtain ⟨rfl, rfl⟩ : { s with
      lineBuffer := (s.lineBuffer.processData (b :: bs)).2
      phase := .reading (s.lineBuffer.processData (b :: bs)).1 } = s' ∧
      [.read (b :: bs)] = out := Prod.mk.inj hperform
  have hscan : s.lineBuffer.processData (b :: bs) =
      ((Transducer.run (lexRead size) (Transducer.run (lexRead size) .lineStart (marksIn h)).1
          (annotate [b :: bs])).2,
        ⟨LineBuffer.truncate size (Transducer.run (lexRead size)
          (Transducer.run (lexRead size) .lineStart (marksIn h)).1
            (annotate [b :: bs])).1.pending, size⟩) := by
    rw [run_lexRead_read size _ hdata, processData_eq, hfollows.lineBuffer]
    rfl
  have hevents : s.phase.events = [] := by rw [henabled.1]; rfl
  rw [hevents, List.append_nil] at hall
  refine ⟨(step_move hstep).wellFormed hfollows.wellFormed, ?_, processed, ?_, ?_, hmachine⟩
  · rw [marksIn_append, Transducer.run_append, hscan]
    rfl
  · rw [marksIn_append, Transducer.run_append, hscan, hall]
    rfl
  · rw [unsolicitedOf_append, hdone]
    exact List.append_nil _

theorem Follows.lineEvent (hfollows : Follows size h s t) (hs : s.Undisturbed .lineEvent)
    (hstep : s.step display .lineEvent = some (s', out)) :
    Follows size (h ++ [(s, .lineEvent)]) s' (t ++ out) := by
  obtain ⟨processed, hall, hdone, hmachine⟩ := hfollows.calls
  have hmove := step_move hstep
  have hwf := hmove.wellFormed hfollows.wellFormed
  cases hmove with
  | transition event rest hphase =>
    have hmarks : marksIn (h ++ [(s, .lineEvent)]) = marksIn h := by
      rw [marksIn_append]
      exact List.append_nil _
    obtain ⟨hawaited, hcalls⟩ :=
      hear_handleEvent (X := X) (hs.heard event rfl (by rw [hphase]; rfl)) s.peers
    rw [hmachine hs.online] at hawaited hcalls
    refine ⟨hwf, by rw [hmarks]; exact hfollows.lineBuffer, processed ++ [event], ?_, ?_, ?_⟩
    · rw [hmarks, hall, hphase, List.append_assoc]
      rfl
    · rw [unsolicitedOf_append, hdone, Transducer.run_append, Transducer.run_cons]
      exact congrArg _ (hcalls.trans (List.append_nil _).symm)
    · intro _
      rw [Transducer.run_append, Transducer.run_cons]
      exact hawaited

theorem Follows.step (hfollows : Follows size h s t) (hs : s.Undisturbed input)
    (hstep : s.step display input = some (s', out)) :
    Follows size (h ++ [(s, input)]) s' (t ++ out) := by
  by_cases hline : input = .lineEvent
  · subst hline
    exact hfollows.lineEvent hs hstep
  by_cases hread : input.received = []
  · have htick : ∀ now, input = .timeoutTick now → s'.lineBuffer = s.lineBuffer := by
      rintro now rfl
      obtain rfl : (s.timeoutTick (X := X) now).1 = s' :=
        congrArg Prod.fst (step_eq_some_iff.mp hstep).2
      exact timeoutTick_lineBuffer hs.buffered
    obtain ⟨hbuffer, hevents, hcalls, hawaited⟩ :=
      (step_move hstep).keeps hfollows.wellFormed hs.online hread hline htick
    have hmarks : marksIn (h ++ [(s, input)]) = marksIn h := by
      rw [marksIn_append, hread]
      simp [annotate]
    obtain ⟨processed, hall, hdone, hmachine⟩ := hfollows.calls
    refine ⟨(step_move hstep).wellFormed hfollows.wellFormed, ?_, processed, ?_, ?_, ?_⟩
    · rw [hbuffer, hmarks, hfollows.lineBuffer]
    · rw [hmarks, hevents, hall]
    · rw [unsolicitedOf_append, hcalls, List.append_nil, hdone]
    · exact fun honline => (hawaited honline).trans (hmachine hs.online)
  · cases input with
    | read result =>
      cases result with
      | ok data => exact hfollows.read hread hstep
      | error e => exact absurd rfl hread
    | _ => exact absurd rfl hread

/-- The loop at its top with nothing read yet. -/
structure Fresh (size : ℕ) (s : RunState) : Prop where
  wellFormed : s.WellFormed
  lineBuffer : s.lineBuffer = ⟨[], size⟩
  phase : s.phase = .statusLoop
  machine : s.machine = .idle

theorem run_follows {s₀ : RunState} (hs₀ : s₀.Fresh size)
    (hrun : Run (step display) s₀ h s t) (hsteps : ∀ p ∈ h, p.1.Undisturbed p.2) :
    Follows size h s t := by
  refine hrun.induct (P := fun h s t => (∀ p ∈ h, p.1.Undisturbed p.2) → Follows size h s t)
    ?_ ?_ hsteps
  · intro _
    refine ⟨hs₀.wellFormed, hs₀.lineBuffer.trans ?_, [], by rw [hs₀.phase]; rfl, rfl, fun _ => ?_⟩
    · rw [marksIn, List.flatMap_nil, Transducer.run_nil, LineBuffer.truncate_of_le (Nat.zero_le _)]
      rfl
    · rw [hs₀.machine]
      rfl
  · intro h s t input s' out _ ih hstep hsteps
    obtain ⟨hbefore, hlast⟩ := List.forall_mem_append.mp hsteps
    exact (ih hbefore).step (hlast (s, input) (List.mem_singleton_self _)) hstep

/-- A block that the loop reads is handed to the handler. -/
theorem run_handed {s₀ : RunState} (hs₀ : s₀.Fresh size) (hrun : Run (step display) s₀ h s t)
    (hsteps : ∀ p ∈ h, p.1.Undisturbed p.2) (hphase : s.phase = .statusLoop)
    {pieces : List Piece} (hpieces : Interleaved (receivedIn h) pieces)
    (hfits : ∀ p ∈ pieces, p.Fits size) :
    (pieces.map (·.block.call)).Sublist (unsolicitedOf t) := by
  obtain ⟨processed, hall, hcalls, -⟩ := (run_follows hs₀ hrun hsteps).calls
  obtain ⟨rest, hrest⟩ := hpieces.read
  have hevents : s.phase.events = [] := by rw [hphase]; rfl
  rw [hevents, List.append_nil] at hall
  rw [hcalls, ← hall]
  exact calls_sublist hpieces.closed hfits ((map_fst_marksIn h).trans hrest.symm) none

theorem Move.maxBufferSize (hmove : Move s input s' out) :
    s'.lineBuffer.maxBufferSize = s.lineBuffer.maxBufferSize := by
  cases hmove with
  | bytesRead data => rw [processData_eq]; rfl
  | timedOut _ _ _ _ _ _ _ _ hlineBuffer => rcases hlineBuffer with rfl | rfl <;> rfl
  | _ => rfl

theorem run_maxBufferSize {config : ModemConfig} {port : Port}
    (hrun : Run (step display) (start X config port) h s t) :
    s.lineBuffer.maxBufferSize = config.lineBufferSize := by
  refine hrun.induct (P := fun _ s _ => s.lineBuffer.maxBufferSize = config.lineBufferSize) rfl ?_
  exact fun _ _ _ _ _ _ _ hs hstep => (step_move hstep).maxBufferSize.trans hs

end RunState

/-! ### The initialization -/

/-- The response to each initialization command, if all are answered as expected. -/
def Port.initializationResponses (X : Crates) (self : Port) :
    List (Str × Str) → Option (List (List UInt8))
  | [] => some []
  | (command, expected) :: commands =>
    let (port, _, written) := self.writeAll (X := X) (encodeUtf8 command)
    match written with
    | .error _ => none
    | .ok () =>
      let (port, result) := port.readResponseUntilOk
      match result with
      | .error _ => none
      | .ok response =>
        if contains (fromUtf8Lossy response) expected then
          (port.initializationResponses X commands).map (response :: ·)
        else none

/-- What the initialization reads once `AT+CNMI` has been acknowledged: the responses to the
commands after it. -/
def ModemConfig.readLate (config : ModemConfig) (responses : List (List UInt8)) : List UInt8 :=
  (responses.drop ((config.initializationCommands.map Prod.fst).idxOf
    "AT+CNMI=2,2,0,1,0\r\n".toList + 1)).flatten

/-- The steps of the status loop since a successful initialization, at startup or by a reconnect,
with what the initialization read late. -/
inductive Session (display : TransitionError X → Str) (config : ModemConfig) :
    List UInt8 → List (RunState × Input) → RunState → List (Effect X) → Prop
  | startup {port : Port} {responses : List (List UInt8)} {h : List (RunState × Input)}
      {s : RunState} {t : List (Effect X)}
      (hinit : (port.testConnection (X := X)).1.initializationResponses X
        config.initializationCommands = some responses)
      (hrun : Run (RunState.step display) (.start X config port) h s t) :
    Session display config (config.readLate responses) h s t
  | reconnect {port port' : Port} {responses : List (List UInt8)}
      {h₁ h₂ : List (RunState × Input)} {s₁ s₂ s : RunState} {t₁ out t₂ : List (Effect X)}
      (hrun₁ : Run (RunState.step display) (.start X config port) h₁ s₁ t₁)
      (hstep : s₁.step display (.reconnectTick port') = some (s₂, out))
      (hreconnected : .reconnected ∈ out)
      (hinit : (port'.testConnection (X := X)).1.initializationResponses X
        s₁.worker.config.initializationCommands = some responses)
      (hrun₂ : Run (RunState.step display) s₂ h₂ s t₂) :
    Session display config (s₁.worker.config.readLate responses) h₂ s t₂

namespace RunState

open StateMachineState

variable {display : TransitionError X → Str} {config : ModemConfig} {late : List UInt8}
  {h : List (RunState × Input)} {s : RunState} {t : List (Effect X)}

theorem fresh_start (config : ModemConfig) (port : Port) :
    (start X config port).Fresh config.lineBufferSize :=
  ⟨wellFormed_start config port, rfl, rfl, (start_worker config port).2.1⟩

/-- After a reconnect nothing is left of what was read before. -/
theorem Move.fresh {s s' : RunState} {input : Input} {out : List (Effect X)}
    (hmove : Move s input s' out) (hwf : s.WellFormed) (hreconnected : .reconnected ∈ out)
    (hinput : ∃ port, input = .reconnectTick port) :
    s'.Fresh s.lineBuffer.maxBufferSize := by
  have hwf' := hmove.wellFormed hwf
  obtain ⟨port, rfl⟩ := hinput
  cases hmove with
  | notReconnected _ _ hdialogue => exact (hdialogue _ hreconnected).elim
  | reconnected _ _ hphase => exact ⟨hwf', rfl, hphase, rfl⟩

/-- The status loop of a session starts afresh. -/
theorem exists_fresh (hsession : Session display config late h s t) :
    ∃ s₀, Fresh config.lineBufferSize s₀ ∧ Run (step display) s₀ h s t := by
  cases hsession with
  | startup _ hrun => exact ⟨_, fresh_start config _, hrun⟩
  | reconnect hrun₁ hstep hreconnected _ hrun₂ =>
    refine ⟨_, ?_, hrun₂⟩
    have hfresh := (step_move hstep).fresh (run_wellFormed hrun₁) hreconnected ⟨_, rfl⟩
    rwa [run_maxBufferSize hrun₁] at hfresh

/-- **Handover.** In every session in which the loop breaks up no block, at its top, the handler
has been called for all blocks that were read since `AT+CNMI` was acknowledged, if their lines fit
the line buffer and the initialization has read no byte of them. -/
theorem handedOver (hsession : Session display config late h s t)
    (hsteps : ∀ p ∈ h, p.1.Undisturbed p.2) (hphase : s.phase = .statusLoop) {pieces : List Piece}
    (hpieces : Interleaved (late ++ receivedIn h) pieces)
    (hfits : ∀ p ∈ pieces, p.Fits config.lineBufferSize)
    (hlate : ∀ p ∈ pieces.head?, late.length ≤ p.gap.length) :
    (pieces.map (·.block.call)).Sublist (unsolicitedOf t) := by
  obtain ⟨s₀, hs₀, hrun⟩ := exists_fresh hsession
  obtain ⟨pieces', hblocks, hpieces'⟩ := hpieces.rest hlate
  have hfits' : ∀ p ∈ pieces', p.Fits config.lineBufferSize := by
    intro p hp
    have hblock : p.block ∈ pieces.map Piece.block := hblocks ▸ List.mem_map_of_mem hp
    obtain ⟨q, hq, heq⟩ := List.mem_map.mp hblock
    rw [Piece.Fits, ← heq]
    exact hfits q hq
  have hcalls : pieces.map (·.block.call) = pieces'.map (·.block.call) := by
    have hmap := congrArg (List.map UnsolicitedBlock.call) hblocks
    rw [List.map_map, List.map_map] at hmap
    exact hmap.symm
  rw [hcalls]
  exact run_handed hs₀ hrun hsteps hphase hpieces' hfits'

/-- A short delivery report, for concrete runs. -/
def shortReport : UnsolicitedBlock :=
  .message (.ofText "+CDS: 23".toList (by decide) (by decide))
    (.ofText "AB".toList (by decide) (by decide)) .deliveryReport (by decide) rfl (by decide)
    (by decide) (by decide)

/-- Steps without a command. -/
theorem undisturbed_of_idle {s : RunState} {input : Input} (honline : s.status = .online)
    (hheld : s.machine.held = [])
    (hheard : ∀ event ∈ s.phase.nextEvent?,
      (header? event).isSome → s.machine.awaitsPayload = false) : s.Undisturbed input where
  online := honline
  buffered hexpires := by
    cases input with
    | timeoutTick now =>
      obtain ⟨execution, hmachine, -⟩ := hexpires
      rw [hmachine] at hheld
      cases hheld
    | _ => exact hexpires.elim
  heard event _ hnext := hheard event hnext

/-- The report comes in two reads of the status loop. -/
def readLater : List Input :=
  [.read (.ok (encodeUtf8 "+CDS: 2".toList)), .endOfRead,
    .read (.ok (encodeUtf8 "3\r\nAB\r\n".toList)), .lineEvent, .lineEvent, .endOfRead]

theorem run_readLater :
    ∃ (h : List (RunState × Input)) (s : RunState) (t : List (Effect .rejecting)),
      Run (step fun _ => []) (start .rejecting .default .ready) h s t ∧
      h.map Prod.snd = readLater ∧ (∀ p ∈ h, p.1.Undisturbed p.2) ∧ s.phase = .statusLoop ∧
      receivedIn h = wire shortReport.lines ∧ unsolicitedOf t = [shortReport.call] := by
  obtain ⟨s, t, hinputs, hrun, hfacts⟩ := Run.of_execute (step (X := .rejecting) fun _ => [])
    (start .rejecting .default .ready) readLater (fun r => (r.1.phase, unsolicitedOf r.2))
    (b := (.statusLoop, [shortReport.call])) (by decide +kernel)
  obtain ⟨hphase, hcalls⟩ := Prod.mk.inj hfacts
  have hsteps : ∀ p ∈ history (step (X := .rejecting) fun _ => [])
      (start .rejecting .default .ready) readLater,
      p.1.status = .online ∧ p.1.machine.held = [] ∧ ∀ event ∈ p.1.phase.nextEvent?,
        (header? event).isSome → p.1.machine.awaitsPayload = false := by decide +kernel
  refine ⟨_, s, t, hrun, hinputs, fun p hp => ?_, hphase, by decide +kernel, hcalls⟩
  obtain ⟨honline, hheld, hheard⟩ := hsteps p hp
  exact undisturbed_of_idle honline hheld hheard

theorem fits_shortReport {gap : List UInt8} :
    (⟨gap, shortReport⟩ : Piece).Fits ModemConfig.default.lineBufferSize :=
  show ∀ line ∈ shortReport.lines, line.bytes.length ≤ 4096 by decide

/-- The rest of the initialization when the report is not in it. -/
def quietRest : List UInt8 :=
  encodeUtf8 "OK\r\n+CPMS: 0,5,0,5,0,5\r\n\r\nOK\r\n".toList

theorem closed_quietRest : Closed quietRest :=
  show ∀ b ∈ quietRest.getLast?, isNewline b by decide +kernel

/-- The report comes in the status loop, and is handed over. -/
theorem handedOver_later :
    ∃ (h : List (RunState × Input)) (s : RunState) (t : List (Effect .rejecting)),
      h.map Prod.snd = readLater ∧ Session (fun _ => []) .default quietRest h s t ∧
      Interleaved (quietRest ++ receivedIn h) [⟨quietRest, shortReport⟩] ∧
      [shortReport.call].Sublist (unsolicitedOf t) := by
  obtain ⟨h, s, t, hrun, hinputs, hsteps, hphase, hreceived, -⟩ := run_readLater
  have hinit : (Port.ready.testConnection (X := .rejecting)).1.initializationResponses .rejecting
      ModemConfig.default.initializationCommands =
        some (List.replicate 6 (encodeUtf8 "OK\r\n".toList) ++
          [encodeUtf8 "+CPMS: 0,5,0,5,0,5\r\n\r\nOK\r\n".toList]) := by decide +kernel
  have hlate : ModemConfig.default.readLate (List.replicate 6 (encodeUtf8 "OK\r\n".toList) ++
      [encodeUtf8 "+CPMS: 0,5,0,5,0,5\r\n\r\nOK\r\n".toList]) = quietRest := by decide +kernel
  have hsession := Session.startup hinit hrun
  rw [hlate] at hsession
  have hpieces : Interleaved (quietRest ++ receivedIn h) [⟨quietRest, shortReport⟩] :=
    ⟨List.forall_mem_singleton.mpr closed_quietRest, by simp [Piece.bytes, hreceived]⟩
  refine ⟨h, s, t, hinputs, hsession, hpieces, ?_⟩
  refine handedOver hsession hsteps hphase hpieces
    (List.forall_mem_singleton.mpr fits_shortReport) ?_
  rintro p ⟨⟩
  exact le_rfl

/-- A report comes before the response to `AT+CSMP`, in one read with it. -/
def busyPort : Port where
  writes := []
  reads := List.replicate 6 (.bytes (encodeUtf8 "OK\r\n".toList)) ++
    [.bytes (wire shortReport.lines ++ encodeUtf8 "OK\r\n".toList),
      .bytes (encodeUtf8 "+CPMS: 0,5,0,5,0,5\r\n\r\nOK\r\n".toList)]

/-- The report in the initialization is lost: of two reports the handler is called for the one
that comes in the status loop only. -/
theorem busyPort_loses :
    ∃ (late : List UInt8) (h : List (RunState × Input)) (s : RunState)
      (t : List (Effect .rejecting)), h.map Prod.snd = readLater ∧
      Session (fun _ => []) .default late h s t ∧ (∀ p ∈ h, p.1.Undisturbed p.2) ∧
      s.phase = .statusLoop ∧
      Interleaved (late ++ receivedIn h) [⟨[], shortReport⟩, ⟨quietRest, shortReport⟩] ∧
      (∀ p ∈ [⟨[], shortReport⟩, ⟨quietRest, shortReport⟩],
        Piece.Fits ModemConfig.default.lineBufferSize p) ∧
      unsolicitedOf
        ((ModemWorker.new .default).initializeAndRun (X := .rejecting) busyPort).2 = [] ∧
      ¬ [shortReport.call, shortReport.call].Sublist (unsolicitedOf t) := by
  obtain ⟨h, s, t, hrun, hinputs, hsteps, hphase, hreceived, hcalls⟩ := run_readLater
  -- the initialization leaves the worker as it would without the report
  have hstart : start .rejecting .default .ready = start .rejecting .default busyPort := by
    decide +kernel
  have hinit : (busyPort.testConnection (X := .rejecting)).1.initializationResponses .rejecting
      ModemConfig.default.initializationCommands =
        some (List.replicate 5 (encodeUtf8 "OK\r\n".toList) ++
          [wire shortReport.lines ++ encodeUtf8 "OK\r\n".toList,
            encodeUtf8 "+CPMS: 0,5,0,5,0,5\r\n\r\nOK\r\n".toList]) := by decide +kernel
  have hlate : ModemConfig.default.readLate (List.replicate 5 (encodeUtf8 "OK\r\n".toList) ++
      [wire shortReport.lines ++ encodeUtf8 "OK\r\n".toList,
        encodeUtf8 "+CPMS: 0,5,0,5,0,5\r\n\r\nOK\r\n".toList]) =
      wire shortReport.lines ++ quietRest := by decide +kernel
  refine ⟨_, h, s, t, hinputs, .startup hinit (hstart ▸ hrun), hsteps, hphase, ⟨?_, ?_⟩, ?_,
    by decide +kernel, fun hsublist => ?_⟩
  · exact List.forall_mem_cons.mpr
      ⟨fun _ hb => (nomatch hb), List.forall_mem_singleton.mpr closed_quietRest⟩
  · rw [hreceived, hlate]
    simp [Piece.bytes]
  · exact List.forall_mem_cons.mpr
      ⟨fits_shortReport, List.forall_mem_singleton.mpr fits_shortReport⟩
  · rw [hcalls] at hsublist
    exact absurd hsublist.length_le (by decide)

end RunState

end SmsServer

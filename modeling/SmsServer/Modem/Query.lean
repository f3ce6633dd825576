import SmsServer.Modem.Chunking
import SmsServer.Modem.OperatorNames
import SmsServer.Modem.Unsolicited

/-!
# Queries from bytes to responses

The line buffer, the state machine and the parsers together. The bytes with which a modem answers
a query, in whatever pieces they are read and with complete unsolicited blocks between the lines,
give the requester exactly one response, with the values the modem sent
(`QueryDialogue.answered`).

The proof follows the bytes: the pieces give the events of the whole stream
(`LineBuffer.feed_of_noPrompt`), the stream gives one event a line that is not blank
(`lex_wire`), the blocks leave no trace (`run_deleteBlocks`), and the parsers read back what was
printed (`commandResponder_line`).
-/

namespace SmsServer

open RustStd Machine Effect StateMachineState

variable {X : Crates}

/-! ### Lines on the wire -/

/-- A line as the modem sends it, without its CR LF. -/
structure WireLine where
  bytes : List UInt8
  noNewline : ∀ b ∈ bytes, ¬ isNewline b

/-- Blank bytes decode to blank text. -/
theorem trim_fromUtf8Lossy_blank {bytes : List UInt8} (h : ∀ b ∈ bytes, isAsciiWhitespace b) :
    trim (fromUtf8Lossy bytes) = [] := by
  rw [trim_eq_nil_iff]
  induction bytes with
  | nil => simp
  | cons b bytes ih =>
    have hb : b = 0x20 ∨ b = 0x09 ∨ b = 0x0A ∨ b = 0x0C ∨ b = 0x0D := by
      simpa [isAsciiWhitespace, or_assoc] using h b (by simp)
    have hascii : b < 0x80 := by rcases hb with rfl | rfl | rfl | rfl | rfl <;> decide
    rw [fromUtf8Lossy_ascii hascii]
    intro c hc
    rcases List.mem_cons.mp hc with rfl | hc
    · rcases hb with rfl | rfl | rfl | rfl | rfl <;> rfl
    · exact ih (fun d hd => h d (by simp [hd])) c hc

namespace WireLine

def blank : WireLine := ⟨[], by simp⟩

/-- The line that carries a text. -/
def ofText (s : Str) (hcr : '\r' ∉ s) (hlf : '\n' ∉ s) : WireLine where
  bytes := encodeUtf8 s
  noNewline b hb hnewline := by
    rcases isNewline_iff.mp hnewline with rfl | rfl
    · exact hcr (mem_of_mem_encodeUtf8 (by decide) hb)
    · exact hlf (mem_of_mem_encodeUtf8 (by decide) hb)

/-- The text the line buffer makes of the line. -/
def text (self : WireLine) : Str := trim (fromUtf8Lossy self.bytes)

@[simp] theorem trim_text (self : WireLine) : trim self.text = self.text := trim_trim _

theorem text_ofText {s : Str} (hcr : '\r' ∉ s) (hlf : '\n' ∉ s) :
    (ofText s hcr hlf).text = trim s := by
  rw [text, ofText, fromUtf8Lossy_encodeUtf8]

/-- The event of the line, `none` if it is blank. -/
def event? (self : WireLine) : Option LineEvent := LineBuffer.tryCreateEvent self.bytes .line

theorem event?_of_text {self : WireLine} (h : self.text ≠ []) :
    self.event? = some (.line self.text) := by
  have hblank : self.bytes.all isAsciiWhitespace = false := by
    by_contra hall
    rw [Bool.not_eq_false, List.all_eq_true] at hall
    exact h (trim_fromUtf8Lossy_blank hall)
  rw [event?, LineBuffer.tryCreateEvent_eq, hblank, if_neg (by simp)]
  exact if_neg h

/-- A line whose text starts with some other character does not start as a prompt. -/
theorem head?_ne_gt {self : WireLine} (h : self.text.head? ≠ some '>') :
    self.bytes.head? ≠ some GT := by
  intro hgt
  obtain ⟨b, bytes, hbytes⟩ := List.exists_cons_of_ne_nil
    (show self.bytes ≠ [] from fun hnil => by simp [hnil] at hgt)
  obtain rfl : b = GT := by simpa [hbytes] using hgt
  refine h ?_
  rw [text, hbytes, fromUtf8Lossy_ascii (by decide)]
  exact head?_trim_cons (by decide) _

end WireLine

/-- The bytes of consecutive lines. -/
def wire (lines : List WireLine) : List UInt8 := lines.flatMap fun line => line.bytes ++ [CR, LF]

/-- The events of consecutive lines. -/
def lineEventsOf (lines : List WireLine) : List LineEvent :=
  lines.flatMap fun line => line.event?.toList

theorem lex_line {line : WireLine} (hhead : line.bytes.head? ≠ some GT) (rest : List UInt8) :
    lex .lineStart (line.bytes ++ CR :: rest) =
      ((lex .lineStart rest).1, line.event?.toList ++ (lex .lineStart rest).2) := by
  have htext := lex_lineStart_text line.noNewline hhead
  have hscan : lex .lineStart line.bytes = (scanState line.bytes, []) := Prod.ext htext.1 htext.2
  rw [lex_append, hscan, lex_cons, lexByte_scanState_newline (by decide)]
  rfl

/-- A stream of lines none of which starts as a prompt. -/
theorem lex_wire {lines : List WireLine} (hhead : ∀ line ∈ lines, line.bytes.head? ≠ some GT) :
    lex .lineStart (wire lines) = (.lineStart, lineEventsOf lines) := by
  induction lines with
  | nil => rfl
  | cons line lines ih =>
    have hlf : lex .lineStart (LF :: wire lines) = lex .lineStart (wire lines) :=
      lex_newlines (List.forall_mem_singleton.mpr rfl) (wire lines)
    have hcons : wire (line :: lines) = line.bytes ++ CR :: LF :: wire lines := by
      simp [wire]
    rw [hcons, lex_line (hhead line (by simp)), hlf, ih fun l hl => hhead l (by simp [hl])]
    rfl

/-- Within such a stream the unfinished line is part of one of its lines. -/
theorem lex_wire_prefix {size : ℕ} {lines : List WireLine}
    (hhead : ∀ line ∈ lines, line.bytes.head? ≠ some GT)
    (hsize : ∀ line ∈ lines, line.bytes.length ≤ size) {bs : List UInt8} (hbs : bs <+: wire lines) :
    (lex .lineStart bs).1 ≠ .afterPrompt ∧ (lex .lineStart bs).1.pending.length ≤ size := by
  induction lines generalizing bs with
  | nil =>
    obtain rfl : bs = [] := List.prefix_nil.mp hbs
    exact ⟨by simp, by simp [LexState.pending]⟩
  | cons line lines ih =>
    have hcons : wire (line :: lines) = line.bytes ++ CR :: LF :: wire lines := by
      simp [wire]
    rw [hcons] at hbs
    -- inside the first line
    have hinside : ∀ bs, bs <+: line.bytes →
        (lex .lineStart bs).1 ≠ .afterPrompt ∧ (lex .lineStart bs).1.pending.length ≤ size := by
      intro bs hbs
      have hgt : bs.head? ≠ some GT := by
        obtain ⟨rest, hrest⟩ := hbs
        intro hgt
        exact hhead line (by simp) (by rw [← hrest, List.head?_append, hgt, Option.some_or])
      have hnew : ∀ b ∈ bs, ¬ isNewline b := fun b hb => line.noNewline b (hbs.subset hb)
      have hstate : (lex .lineStart bs).1 = scanState bs := (lex_lineStart_text hnew hgt).1
      rw [hstate, scanState_pending]
      refine ⟨?_, hbs.length_le.trans (hsize line (by simp))⟩
      unfold scanState
      split <;> simp
    rcases List.prefix_or_prefix_of_prefix hbs (List.prefix_append line.bytes _) with
      hline | ⟨rest, rfl⟩
    · exact hinside bs hline
    rcases List.prefix_cons_iff.mp ((List.prefix_append_right_inj _).mp hbs) with
      rfl | ⟨bs, rfl, hrest⟩
    · exact hinside _ (by simp)
    rw [lex_line (hhead line (by simp))]
    rcases List.prefix_cons_iff.mp hrest with rfl | ⟨cs, rfl, hcs⟩
    · exact ⟨by simp, by simp [LexState.pending]⟩
    · have hlf : lex .lineStart (LF :: cs) = lex .lineStart cs :=
        lex_newlines (List.forall_mem_singleton.mpr rfl) cs
      rw [hlf]
      exact ih (fun l hl => hhead l (by simp [hl])) (fun l hl => hsize l (by simp [hl])) hcs

/-- **Lines in pieces.** However the bytes of lines that fit the buffer are read, they give the
events of the lines. -/
theorem feed_wire {size : ℕ} {lines : List WireLine}
    (hhead : ∀ line ∈ lines, line.bytes.head? ≠ some GT)
    (hsize : ∀ line ∈ lines, line.bytes.length ≤ size) {chunks : List (List UInt8)}
    (hchunks : chunks.flatten = wire lines) :
    ((LineBuffer.withMaxSize size).feed chunks).2 = lineEventsOf lines := by
  have hfits : (LineBuffer.withMaxSize size).Fits chunks :=
    LineBuffer.fits_of_prefix (s := .lineStart) trivial (by simp) rfl fun bs hbs =>
      lex_wire_prefix hhead hsize (hchunks ▸ hbs)
  have hlex := lex_wire hhead
  rw [← hchunks] at hlex
  have hlines : ∀ text, .prompt text ∉ lineEventsOf lines := by
    intro text hmem
    obtain ⟨line, -, hevent⟩ := List.mem_flatMap.mp hmem
    rw [WireLine.event?, LineBuffer.tryCreateEvent_eq] at hevent
    split at hevent
    · cases hevent
    · split at hevent
      · cases hevent
      · cases List.mem_singleton.mp hevent
  rw [LineBuffer.feed_of_noPrompt hfits (by rwa [hlex]), hlex]

/-! ### Unsolicited blocks on the wire -/

/-- A complete unsolicited block: a header line, and a payload line if its kind has one. -/
inductive UnsolicitedBlock
  | notice (header : WireLine) (messageKind : UnsolicitedMessageKind)
      (hheader : UnsolicitedMessageKind.fromHeader header.text = some messageKind)
      (hkind : messageKind.hasNextLine = false)
  | message (header payload : WireLine) (messageKind : UnsolicitedMessageKind)
      (hheader : UnsolicitedMessageKind.fromHeader header.text = some messageKind)
      (hkind : messageKind.hasNextLine = true) (hblank : payload.text ≠ [])
      (hprompt : payload.bytes.head? ≠ some GT)
      (hpayload : UnsolicitedMessageKind.fromHeader payload.text = none)

theorem WireLine.header_text {line : WireLine} {messageKind : UnsolicitedMessageKind}
    (h : UnsolicitedMessageKind.fromHeader line.text = some messageKind) :
    line.text ≠ [] ∧ line.bytes.head? ≠ some GT := by
  refine ⟨fun hnil => ?_, WireLine.head?_ne_gt fun hgt => ?_⟩
  · rw [hnil] at h
    cases h
  · obtain ⟨rest, hrest⟩ := List.head?_eq_some_iff.mp hgt
    rw [hrest] at h
    simp [UnsolicitedMessageKind.fromHeader, startsWith] at h

namespace UnsolicitedBlock

def lines : UnsolicitedBlock → List WireLine
  | notice header .. => [header]
  | message header payload .. => [header, payload]

theorem head?_ne_gt {blocks : List UnsolicitedBlock} :
    ∀ line ∈ blocks.flatMap lines, line.bytes.head? ≠ some GT := by
  intro line hline
  obtain ⟨block, -, hmem⟩ := List.mem_flatMap.mp hline
  cases block with
  | notice header messageKind hheader hkind =>
    obtain rfl : line = header := List.mem_singleton.mp hmem
    exact (WireLine.header_text hheader).2
  | message header payload messageKind hheader hkind hblank hprompt hpayload =>
    obtain rfl | rfl : line = header ∨ line = payload := by simpa [lines] using hmem
    · exact (WireLine.header_text hheader).2
    · exact hprompt

/-- Complete blocks in front are blocks, and are deleted. -/
theorem deleteBlocks_lines (blocks : List UnsolicitedBlock)
    {inputs rest : List (Peers × LineEvent)}
    (hinputs : inputs.map Prod.snd = lineEventsOf (blocks.flatMap lines)) (hrest : Blocks rest) :
    Blocks (inputs ++ rest) ∧ deleteBlocks (inputs ++ rest) = deleteBlocks rest := by
  have hheader? : ∀ {line : WireLine} {e : Peers × LineEvent}, e.2 = .line line.text →
      header? e.2 = UnsolicitedMessageKind.fromHeader line.text := by
    intro line e he
    rw [he, header?, WireLine.trim_text]
  induction blocks generalizing inputs with
  | nil =>
    obtain rfl := List.map_eq_nil_iff.mp hinputs
    exact ⟨hrest, rfl⟩
  | cons block blocks ih =>
    cases block with
    | notice header messageKind hheader hkind =>
      have hevent := WireLine.event?_of_text (WireLine.header_text hheader).1
      have hcons : inputs.map Prod.snd =
          .line header.text :: lineEventsOf (blocks.flatMap lines) := by
        rw [hinputs]
        simp [lineEventsOf, lines, hevent]
      obtain ⟨e, es, rfl, he, hes⟩ := List.map_eq_cons_iff.mp hcons
      obtain ⟨hblocks, hdelete⟩ := ih hes
      have hkind' : header? e.2 = some messageKind := (hheader? he).trans hheader
      refine ⟨.notice hkind' hkind hblocks, ?_⟩
      rw [List.cons_append, deleteBlocks_notice hkind' hkind, hdelete]
    | message header payload messageKind hheader hkind hblank hprompt hpayload =>
      have hevent := WireLine.event?_of_text (WireLine.header_text hheader).1
      have hcons : inputs.map Prod.snd =
          .line header.text :: .line payload.text :: lineEventsOf (blocks.flatMap lines) := by
        rw [hinputs]
        simp [lineEventsOf, lines, hevent, WireLine.event?_of_text hblank]
      obtain ⟨e, es', rfl, he, hes'⟩ := List.map_eq_cons_iff.mp hcons
      obtain ⟨e', es, rfl, he', hes⟩ := List.map_eq_cons_iff.mp hes'
      obtain ⟨hblocks, hdelete⟩ := ih hes
      have hkind' : header? e.2 = some messageKind := (hheader? he).trans hheader
      have hpayload' : isPayload e'.2 :=
        isPayload_eq.mpr ⟨⟨_, he'⟩, (hheader? he').trans hpayload⟩
      refine ⟨.message messageKind hkind' hkind hpayload' hblocks, ?_⟩
      rw [List.cons_append, List.cons_append, deleteBlocks_message hkind' hkind, hdelete]

end UnsolicitedBlock

/-! ### Answers -/

/-- The values a modem answers a query with. -/
inductive QueryAnswer
  | networkStatus (registration technology : UInt8)
  | signalStrength (rssi ber : Int32)
  | batteryLevel (status charge : UInt8) (voltageRaw : UInt32)
  | serviceProvider (operator mode : Str) (hcr : '\r' ∉ operator) (hlf : '\n' ∉ operator)
      (hmode : mode ≠ []) (hdigits : ∀ c ∈ mode, c.isDigit)

namespace QueryAnswer

def request : QueryAnswer → ModemRequest
  | networkStatus .. => .getNetworkStatus
  | signalStrength .. => .getSignalStrength
  | batteryLevel .. => .getBatteryLevel
  | serviceProvider .. => .getServiceProvider

/-- The fields of the response line. -/
def data : QueryAnswer → Str
  | networkStatus registration technology =>
    showNat registration.toNat ++ ',' :: showNat technology.toNat
  | signalStrength rssi ber => showInt rssi.toInt ++ ',' :: showInt ber.toInt
  | batteryLevel status charge voltageRaw =>
    showNat status.toNat ++ ',' :: (showNat charge.toNat ++ ',' :: showNat voltageRaw.toNat)
  | serviceProvider operator mode .. => '"' :: operator ++ '"' :: ',' :: mode

/-- The response line. -/
def line (self : QueryAnswer) : Str := self.request.expectedResponsePrefix ++ ' ' :: self.data

/-- The response the requester is owed. -/
def response (X : Crates) : QueryAnswer → ModemResponse X
  | networkStatus registration technology => .networkStatus registration technology
  | signalStrength rssi ber => .signalStrength rssi ber
  | batteryLevel status charge voltageRaw =>
    .batteryLevel status charge (voltageRaw.toFloat32 / 1000.0)
  | serviceProvider operator .. => .serviceProvider operator

/-- The response line is a rendered response. -/
theorem line_eq_render (self : QueryAnswer) {fields : List (Padding × Str)}
    (h : joinFields fields .none = ' ' :: self.data) (later : Str) :
    self.line ++ '\n' :: later =
      (.first later : Surroundings self.request.expectedResponsePrefix).render
        (joinFields fields .none) := by
  rw [h, Surroundings.render_first, line]

/-- The parser of the query reads the values back. -/
theorem commandResponder_line (self : QueryAnswer) :
    ModemEventHandlers.commandResponder (X := X) self.request
      (self.line ++ '\n' :: "OK\n".toList) = .ok (self.response X) := by
  have hok : endsWith (trimEnd (self.line ++ '\n' :: "OK\n".toList)) "OK".toList := by
    have htrim : trimEnd (self.line ++ '\n' :: "OK\n".toList) =
        (self.line ++ ['\n']) ++ "OK".toList := by
      have hsplit : self.line ++ '\n' :: "OK\n".toList =
          self.line ++ ['\n', 'O', 'K'] ++ ['\n'] := by simp
      have hend : self.line ++ ['\n', 'O', 'K'] = (self.line ++ ['\n', 'O']) ++ ['K'] := by simp
      rw [hsplit, trimEnd, List.rdropWhile_concat_pos _ _ _ (by decide), hend,
        List.rdropWhile_concat_neg _ _ _ (by decide)]
      simp
    rw [htrim, endsWith, List.isSuffixOf_iff_suffix]
    exact List.suffix_append _ _
  unfold ModemEventHandlers.commandResponder
  rw [if_neg (not_not.mpr hok)]
  have hjoin : ∀ a b : Str,
      joinFields [(.space, a), (.none, b)] .none = ' ' :: (a ++ ',' :: b) := by
    simp [joinFields_cons_cons, joinFields_singleton, ExtraFields.none]
  cases self with
  | networkStatus registration technology =>
    have hparse : parseCregResponse ((networkStatus registration technology).line ++
        '\n' :: "OK\n".toList) = .ok (registration, technology) := by
      rw [line_eq_render _ (hjoin _ _)]
      exact parseCregResponse_render _ .space .none .none registration technology
    simp only [request, hparse, ok_bind]
    rfl
  | signalStrength rssi ber =>
    have hparse : parseCsqResponse ((signalStrength rssi ber).line ++ '\n' :: "OK\n".toList) =
        .ok (rssi, ber) := by
      rw [line_eq_render _ (hjoin _ _)]
      exact parseCsqResponse_render _ .space .none .none rssi ber
    simp only [request, hparse, ok_bind]
    rfl
  | batteryLevel status charge voltageRaw =>
    have hfields : joinFields [(.space, showNat status.toNat), (.none, showNat charge.toNat),
        (.none, showNat voltageRaw.toNat)] .none =
          ' ' :: (batteryLevel status charge voltageRaw).data := by
      rw [joinFields_cons_cons, joinFields_cons_cons, joinFields_singleton]
      simp [data, ExtraFields.none]
    have hparse : parseCbcResponse ((batteryLevel status charge voltageRaw).line ++
        '\n' :: "OK\n".toList) = .ok (status, charge, voltageRaw.toFloat32 / 1000.0) := by
      rw [line_eq_render _ hfields]
      exact parseCbcResponse_render _ .space .none .none .none status charge voltageRaw
    simp only [request, hparse, ok_bind]
    rfl
  | serviceProvider operator mode hcr hlf hmode hdigits =>
    have hname : joinFields [(.space, quoted operator), (.none, mode)] .none =
        ' ' :: (serviceProvider operator mode hcr hlf hmode hdigits).data := by
      rw [hjoin]
      simp [data, quoted]
    have hparse : parseCspnResponse ((serviceProvider operator mode hcr hlf hmode hdigits).line ++
        '\n' :: "OK\n".toList) = .ok operator := by
      rw [line_eq_render _ hname]
      exact (parseCspnResponse_fields_iff hlf hdigits .space .none .none).mpr
        (List.forall_mem_nil _)
    simp only [request, hparse, ok_bind]
    rfl

theorem noWhitespace_fields {s t : Str} (hs : ∀ c ∈ s, isWhitespace c = false)
    (ht : ∀ c ∈ t, isWhitespace c = false) : ∀ c ∈ s ++ ',' :: t, isWhitespace c = false :=
  List.forall_mem_append.mpr ⟨hs, List.forall_mem_cons.mpr ⟨rfl, ht⟩⟩

/-- The fields end with no whitespace, and in their line. -/
theorem data_plain (self : QueryAnswer) :
    (∃ c ∈ self.data.getLast?, isWhitespace c = false) ∧ '\r' ∉ self.data ∧ '\n' ∉ self.data := by
  have hlast : ∀ (front : Str) {field : Str}, field ≠ [] → (∀ c ∈ field, isWhitespace c = false) →
      ∃ c ∈ (front ++ field).getLast?, isWhitespace c = false := by
    intro front field hne hplain
    refine ⟨field.getLast hne, ?_, hplain _ (List.getLast_mem hne)⟩
    rw [List.getLast?_append_of_ne_nil _ hne]
    exact List.getLast?_eq_some_getLast hne
  have hfields : ∀ {data : Str}, data ≠ [] → (∀ c ∈ data, isWhitespace c = false) →
      (∃ c ∈ data.getLast?, isWhitespace c = false) ∧ '\r' ∉ data ∧ '\n' ∉ data := by
    intro data hne hplain
    exact ⟨hlast [] hne hplain, fun h => absurd (hplain _ h) (by decide),
      fun h => absurd (hplain _ h) (by decide)⟩
  cases self with
  | networkStatus registration technology =>
    exact hfields (by simp [data])
      (noWhitespace_fields (noWhitespace_showNat _) (noWhitespace_showNat _))
  | signalStrength rssi ber =>
    exact hfields (by simp [data])
      (noWhitespace_fields (noWhitespace_showInt _) (noWhitespace_showInt _))
  | batteryLevel status charge voltageRaw =>
    exact hfields (by simp [data]) (noWhitespace_fields (noWhitespace_showNat _)
      (noWhitespace_fields (noWhitespace_showNat _) (noWhitespace_showNat _)))
  | serviceProvider operator mode hcr hlf hmode hdigits =>
    have hplain : ∀ c ∈ mode, isWhitespace c = false :=
      fun c hc => isWhitespace_of_isDigit (hdigits c hc)
    have hmodecr : '\r' ∉ mode := fun h => absurd (hplain _ h) (by decide)
    have hmodelf : '\n' ∉ mode := fun h => absurd (hplain _ h) (by decide)
    refine ⟨?_, by simp [data, hcr, hmodecr], by simp [data, hlf, hmodelf]⟩
    simpa [data] using hlast ('"' :: operator ++ ['"', ',']) hmode hplain

theorem line_eq_cons (self : QueryAnswer) : ∃ rest, self.line = '+' :: rest := by
  cases self <;> exact ⟨_, rfl⟩

theorem trim_line (self : QueryAnswer) : trim self.line = self.line := by
  obtain ⟨⟨last, hlast, hplain⟩, -⟩ := self.data_plain
  obtain ⟨rest, hrest⟩ := self.line_eq_cons
  have hend : last ∈ self.line.getLast? := by
    rw [line, List.getLast?_append_of_ne_nil _ (by simp), List.getLast?_cons,
      Option.mem_def.mp hlast]
    rfl
  have htrim := trim_append_of_ends ⟨'+', by rw [hrest]; rfl, by decide⟩ ⟨last, hend, hplain⟩ []
  simpa [trimEnd] using htrim

theorem fromHeader_line (self : QueryAnswer) :
    UnsolicitedMessageKind.fromHeader self.line = none := by
  cases self <;> rfl

theorem isComplete_line (self : QueryAnswer) :
    CommandState.waitingForData.isComplete self.line = false := by
  cases self <;> rfl

theorem notMem_line (self : QueryAnswer) : '\r' ∉ self.line ∧ '\n' ∉ self.line := by
  obtain ⟨-, hcr, hlf⟩ := self.data_plain
  have hplain : '\r' ∉ self.request.expectedResponsePrefix ∧
      '\n' ∉ self.request.expectedResponsePrefix := by
    cases self <;> exact ⟨of_decide_eq_true rfl, of_decide_eq_true rfl⟩
  unfold line
  exact ⟨by simp [hplain.1, hcr], by simp [hplain.2, hlf]⟩

/-- The response line on the wire. -/
def wireLine (self : QueryAnswer) : WireLine :=
  .ofText self.line self.notMem_line.1 self.notMem_line.2

theorem text_wireLine (self : QueryAnswer) : self.wireLine.text = self.line := by
  rw [wireLine, WireLine.text_ofText, trim_line]

/-- The two lines of the response, nothing in between: the running query is answered. -/
theorem run_lines (self : QueryAnswer) {execution : CommandExecution}
    (hrequest : execution.command.request = self.request)
    (hstate : execution.context.state = .waitingForData)
    (hbuffer : execution.context.responseBuffer = []) (peers peers' : Peers) :
    (Transducer.run (handleEvent (X := X)) (command execution)
        [(peers, .line self.line), (peers', .line "OK".toList)]).1 = idle ∧
      responsesOf (Transducer.run (handleEvent (X := X)) (command execution)
        [(peers, .line self.line), (peers', .line "OK".toList)]).2 =
        [(execution.command, self.response X)] := by
  have hpayload : isPayload (.line self.line) := by
    simp [isPayload, self.trim_line, self.fromHeader_line]
  have hline : transitionState (X := X) peers (command execution) (.line self.line) =
      (command (execution.push self.line), ⟨[], .ok ()⟩) := by
    rw [transitionState_content peers hpayload, self.trim_line, processContent,
      CommandExecution.push_state, hstate, self.isComplete_line]
    rfl
  have hfinal : finalResponse? peers' (execution.push self.line)
      ((command (execution.push self.line)).classify (.line "OK".toList)) =
        some (self.response X) := by
    have htext : ((execution.push self.line).push "OK".toList).context.responseBuffer =
        self.line ++ '\n' :: "OK\n".toList := by
      simp [hbuffer]
    have hok : trim "OK".toList = "OK".toList := by decide
    rw [finalResponse?_content peers' (by rfl), hok, htext, CommandExecution.push_state, hstate,
      CommandExecution.push_command, hrequest, self.commandResponder_line]
    rfl
  obtain ⟨delivered, hrespond⟩ :=
    execution.command.respond_effects (X := X) peers' (self.response X)
  rw [Transducer.run_cons, handleEvent_of hline, Transducer.run_cons,
    handleEvent_of (transitionState_finished peers' hfinal), CommandExecution.push_command,
    hrespond]
  exact ⟨rfl, rfl⟩

end QueryAnswer

/-! ### The dialogue -/

/-- What the modem sends when it is queried: the answer, and the unsolicited blocks at each of
the line boundaries. -/
structure QueryDialogue where
  answer : QueryAnswer
  first : List UnsolicitedBlock
  beforeAnswer : List UnsolicitedBlock
  afterAnswer : List UnsolicitedBlock
  beforeOk : List UnsolicitedBlock
  last : List UnsolicitedBlock

namespace QueryDialogue

def okLine : WireLine := .ofText "OK".toList (by decide) (by decide)

/-- CR LF, the response line, CR LF CR LF, OK, with the blocks in between. -/
def lines (self : QueryDialogue) : List WireLine :=
  self.first.flatMap UnsolicitedBlock.lines ++ .blank ::
    (self.beforeAnswer.flatMap UnsolicitedBlock.lines ++ self.answer.wireLine ::
      (self.afterAnswer.flatMap UnsolicitedBlock.lines ++ .blank ::
        (self.beforeOk.flatMap UnsolicitedBlock.lines ++ okLine ::
          self.last.flatMap UnsolicitedBlock.lines)))

theorem head?_ne_gt (self : QueryDialogue) :
    ∀ line ∈ self.lines, line.bytes.head? ≠ some GT := by
  have hanswer : self.answer.wireLine.bytes.head? ≠ some GT := by
    refine WireLine.head?_ne_gt ?_
    obtain ⟨rest, hrest⟩ := self.answer.line_eq_cons
    rw [QueryAnswer.text_wireLine, hrest]
    simp
  have hok : okLine.bytes.head? ≠ some GT := by
    refine WireLine.head?_ne_gt ?_
    rw [okLine, WireLine.text_ofText]
    decide
  have hblank : WireLine.blank.bytes.head? ≠ some GT := by decide
  have hblocks : ∀ blocks : List UnsolicitedBlock, ∀ line ∈ blocks.flatMap UnsolicitedBlock.lines,
      line.bytes.head? ≠ some GT := fun _ => UnsolicitedBlock.head?_ne_gt
  simp only [lines, List.forall_mem_append, List.forall_mem_cons]
  exact ⟨hblocks _, hblank, hblocks _, hanswer, hblocks _, hblank, hblocks _, hok, hblocks _⟩

/-- The blank lines give no events. -/
theorem lineEventsOf_lines (self : QueryDialogue) :
    lineEventsOf self.lines =
      lineEventsOf ((self.first ++ self.beforeAnswer).flatMap UnsolicitedBlock.lines) ++
        .line self.answer.line ::
          (lineEventsOf ((self.afterAnswer ++ self.beforeOk).flatMap UnsolicitedBlock.lines) ++
            .line "OK".toList :: lineEventsOf (self.last.flatMap UnsolicitedBlock.lines)) := by
  have hanswer : self.answer.wireLine.event? = some (.line self.answer.line) := by
    obtain ⟨rest, hrest⟩ := self.answer.line_eq_cons
    rw [WireLine.event?_of_text, QueryAnswer.text_wireLine]
    rw [QueryAnswer.text_wireLine, hrest]
    exact List.cons_ne_nil _ _
  have hok : okLine.event? = some (.line "OK".toList) := by
    have htext : okLine.text = "OK".toList := WireLine.text_ofText _ _
    rw [WireLine.event?_of_text, htext]
    rw [htext]
    decide
  have hblank : WireLine.blank.event? = none := rfl
  simp only [lines, lineEventsOf, List.flatMap_append, List.flatMap_cons, hanswer, hok, hblank,
    Option.toList_some, Option.toList_none, List.nil_append, List.append_assoc, List.cons_append]

/-- **End to end.** A query that is started on an idle machine, and whose dialogue is read in any
pieces, is answered exactly once, with the values the modem sent, and leaves the machine idle. -/
theorem answered (self : QueryDialogue) {size : ℕ} {chunks : List (List UInt8)}
    (hchunks : chunks.flatten = wire self.lines)
    (hsize : ∀ line ∈ self.lines, line.bytes.length ≤ size)
    {inputs : List (Peers × LineEvent)}
    (hinputs : inputs.map Prod.snd = ((LineBuffer.withMaxSize size).feed chunks).2)
    {peers : Peers} (heventRx : peers.eventRx) (now : Millis) {cmd : OutgoingCommand}
    (hrequest : cmd.request = self.answer.request) :
    (Transducer.run (handleEvent (X := X)) (idle.startCommand (X := X) peers now cmd).1 inputs).1 =
        idle ∧
      responsesOf (Transducer.run (handleEvent (X := X))
          (idle.startCommand (X := X) peers now cmd).1 inputs).2 =
        [(cmd, self.answer.response X)] ∧
      ¬ (self.answer.response X).IsError := by
  rw [feed_wire self.head?_ne_gt hsize hchunks, lineEventsOf_lines] at hinputs
  obtain ⟨before, rest, rfl, hbefore, hrest⟩ := List.map_eq_append_iff.mp hinputs
  obtain ⟨⟨peers₁, event₁⟩, rest', rfl, rfl, hrest'⟩ := List.map_eq_cons_iff.mp hrest
  obtain ⟨between, rest, rfl, hbetween, htail⟩ := List.map_eq_append_iff.mp hrest'
  obtain ⟨⟨peers₂, event₂⟩, after, rfl, rfl, hafter⟩ := List.map_eq_cons_iff.mp htail
  -- the blocks come out, from the last to the first
  have hlast := UnsolicitedBlock.deleteBlocks_lines _ hafter .nil
  rw [List.append_nil] at hlast
  have hokHeader : header? (.line "OK".toList) = none := by decide
  have hlineHeader : header? (.line self.answer.line) = none := by
    rw [header?, self.answer.trim_line, self.answer.fromHeader_line]
  have hok : Blocks ((peers₂, .line "OK".toList) :: after) := .other hokHeader hlast.1
  have hmiddle := UnsolicitedBlock.deleteBlocks_lines _ hbetween hok
  have hline : Blocks ((peers₁, .line self.answer.line) ::
      (between ++ (peers₂, .line "OK".toList) :: after)) := .other hlineHeader hmiddle.1
  have hfirst := UnsolicitedBlock.deleteBlocks_lines _ hbefore hline
  have hdeleted : deleteBlocks (before ++ (peers₁, .line self.answer.line) ::
      (between ++ (peers₂, .line "OK".toList) :: after)) =
        [(peers₁, .line self.answer.line), (peers₂, .line "OK".toList)] := by
    rw [hfirst.2, deleteBlocks_other hlineHeader, hmiddle.2, deleteBlocks_other hokHeader, hlast.2]
    rfl
  have hstate : ModemEventHandlers.initialState self.answer.request = .waitingForData := by
    cases self.answer <;> rfl
  let execution : CommandExecution := .new now cmd (ModemEventHandlers.initialState cmd.request)
  have hrun := self.answer.run_lines (X := X) (show execution.command.request = _ from hrequest)
    (by rw [← hstate, ← hrequest]; rfl) rfl peers₁ peers₂
  obtain ⟨hstate, -, hresponses⟩ := run_deleteBlocks (X := X) hfirst.1
    (s := command (.new now cmd (ModemEventHandlers.initialState cmd.request))) rfl
  have hnotError : ¬ (self.answer.response X).IsError := by
    cases self.answer <;> exact not_false
  rw [startCommand_eq heventRx, hstate, hresponses, hdeleted]
  exact ⟨hrun.1, hrun.2, hnotError⟩

/-- An SMS whose payload line reads `OK` arrives before the answer, which is read in two pieces. -/
def parkedDialogue : QueryDialogue where
  answer := .signalStrength 20 99
  first := []
  beforeAnswer := [.message (.ofText "+CMT: ,23".toList (by decide) (by decide)) okLine .incomingSms
    (by rw [WireLine.text_ofText]; decide) rfl (by rw [okLine, WireLine.text_ofText]; decide)
    (by decide +kernel) (by rw [okLine, WireLine.text_ofText]; decide)]
  afterAnswer := []
  beforeOk := []
  last := []

theorem answered_parked :
    let peers : Peers := { eventRx := true, receiver := fun _ => true }
    let cmd : OutgoingCommand := .new 1 0 .getSignalStrength none
    let chunks := [(wire parkedDialogue.lines).take 20, (wire parkedDialogue.lines).drop 20]
    let inputs := ((LineBuffer.withMaxSize 4096).feed chunks).2.map fun event => (peers, event)
    (Transducer.run (handleEvent (X := .rejecting))
        (idle.startCommand (X := .rejecting) peers 0 cmd).1 inputs).1 = idle ∧
      responsesOf (Transducer.run (handleEvent (X := .rejecting))
          (idle.startCommand (X := .rejecting) peers 0 cmd).1 inputs).2 =
        [(cmd, .signalStrength 20 99)] := by
  intro peers cmd chunks inputs
  have hchunks : chunks.flatten = wire parkedDialogue.lines := by simp [chunks]
  have hsize : ∀ line ∈ parkedDialogue.lines, line.bytes.length ≤ 4096 := by decide +kernel
  have hinputs : inputs.map Prod.snd = ((LineBuffer.withMaxSize 4096).feed chunks).2 := by
    simp [inputs, Function.comp_def]
  obtain ⟨hidle, hresponses, -⟩ := parkedDialogue.answered (X := .rejecting) hchunks hsize hinputs
    (show peers.eventRx = true from rfl) 0 (show cmd.request = _ from rfl)
  exact ⟨hidle, hresponses⟩

end QueryDialogue

end SmsServer

import SmsServer.Library.Utf8
import SmsServer.Modem.Commands

/-!
# The serial line buffer

`modem/buffer.rs`: `LineBuffer::process_data` appends the bytes read from the port to the
retained partial line, scans the whole buffer for terminated lines and `>` prompts, and keeps
the unterminated rest. Indexing and slicing are partial here exactly where Rust panics: `none`
is a panic, and `scan` also takes fuel, one unit for each turn of the `while` loop.
-/

namespace SmsServer

open RustStd

inductive LineEvent
  | line (content : Str)
  | prompt (content : Str)
  deriving DecidableEq, Repr

structure LineBuffer where
  buffer : List UInt8
  maxBufferSize : ℕ
  deriving DecidableEq, Repr

/-! ### Bytes -/

/-- `b'\r'`. -/
abbrev CR : UInt8 := 0x0D

/-- `b'\n'`. -/
abbrev LF : UInt8 := 0x0A

/-- `b'>'`. -/
abbrev GT : UInt8 := 0x3E

/-- `b' '`. -/
abbrev SP : UInt8 := 0x20

/-- `b == b'\r' || b == b'\n'`. -/
def isNewline (b : UInt8) : Bool := b == CR || b == LF

/-- `u8::is_ascii_whitespace`. -/
def isAsciiWhitespace (b : UInt8) : Bool :=
  b == 0x20 || b == 0x09 || b == 0x0A || b == 0x0C || b == 0x0D

/-- The slice `bytes[from..to]`. -/
def slice? (bytes : List UInt8) (first last : ℕ) : Option (List UInt8) :=
  if first ≤ last ∧ last ≤ bytes.length then some ((bytes.drop first).take (last - first)) else none

/-- The index at which `while i < len && p(bytes[i]) { i += 1 }` stops. -/
def skipWhile (p : UInt8 → Bool) (bytes : List UInt8) (i : ℕ) : ℕ :=
  i + ((bytes.drop i).takeWhile p).length

namespace LineBuffer

def withMaxSize (size : ℕ) : LineBuffer := { buffer := [], maxBufferSize := size }

def clear (self : LineBuffer) : LineBuffer := { self with buffer := [] }

/-- `try_create_event`: nothing for blank data, else the constructor at the trimmed text,
invalid UTF-8 being replaced. -/
def tryCreateEvent (data : List UInt8) (constructor : Str → LineEvent) : Option LineEvent :=
  if data.isEmpty || data.all isAsciiWhitespace then none
  else
    match fromUtf8 data with
    | some content => if trim content ≠ [] then some (constructor (trim content)) else none
    | none =>
      if trim (fromUtf8Lossy data) ≠ [] then some (constructor (trim (fromUtf8Lossy data)))
      else none

/-- The `while` loop of `process_data`: the events so far and the start of the current line.
Returns all events and the start of the unterminated rest. -/
def scan (buffer : List UInt8) :
    ℕ → ℕ → ℕ → List LineEvent → Option (List LineEvent × ℕ)
  | 0, _, _, _ => none
  | fuel + 1, start, i, events =>
    if i < buffer.length then do
      let b ← buffer[i]?
      if b = CR ∨ b = LF then
        -- The text since the start of the line is a line event, even if it holds a `>`.
        let events ←
          if start < i then do
            let line ← slice? buffer start i
            some (events ++ (tryCreateEvent line .line).toList)
          else some events
        -- All consecutive newlines are skipped.
        let i := skipWhile isNewline buffer i
        scan buffer fuel i i events
      else if b = GT then
        let isPrompt ←
          if start = i then some true
          else if 0 < i then (buffer[i - 1]?).map fun previous => previous == LF || previous == CR
          else some false
        if isPrompt then
          let promptStart := start
          -- Whatever spaces have arrived by now belong to the prompt.
          let i := skipWhile (· == SP) buffer (i + 1)
          let prompt ← slice? buffer promptStart i
          scan buffer fuel i i (events ++ (tryCreateEvent prompt .prompt).toList)
        else scan buffer fuel start (i + 1) events
      else scan buffer fuel start (i + 1) events
    else some (events, start)

/-- The size check: an over-long rest loses its front, up to and including the last newline in
the part that has to go. -/
def truncate (maxBufferSize : ℕ) (rest : List UInt8) : List UInt8 :=
  if maxBufferSize < rest.length then
    let keepFrom := rest.length - maxBufferSize
    let trimTo := (rposition (· == LF) (rest.take keepFrom)).elim keepFrom (· + 1)
    rest.drop trimTo
  else rest

/-- The buffer after a scan that left `rest` unterminated. -/
def retain (self : LineBuffer) (rest : List UInt8) : LineBuffer :=
  { self with buffer := truncate self.maxBufferSize rest }

/-- `LineBuffer::process_data`, `none` if it would panic. -/
def processData? (self : LineBuffer) (data : List UInt8) :
    Option (List LineEvent × LineBuffer) := do
  let buffer := self.buffer ++ data
  let (events, start) ← scan buffer (buffer.length + 1) 0 0 []
  let rest ← slice? buffer start buffer.length
  some (events, self.retain rest)

/-! ### Events of a piece of data -/

theorem tryCreateEvent_eq (data : List UInt8) (constructor : Str → LineEvent) :
    tryCreateEvent data constructor =
      if data.all isAsciiWhitespace then none
      else if trim (fromUtf8Lossy data) = [] then none
      else some (constructor (trim (fromUtf8Lossy data))) := by
  unfold tryCreateEvent
  cases data with
  | nil => rfl
  | cons b bs =>
    simp only [List.isEmpty_cons, Bool.false_or, ne_eq, ite_not]
    split
    · rfl
    · split
      · next content h => rw [fromUtf8Lossy_of_fromUtf8 h]
      · rfl

end LineBuffer

end SmsServer

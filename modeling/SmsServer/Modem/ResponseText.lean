import Mathlib.Data.List.Forall2
import SmsServer.Modem.Parsers

/-!
# Response texts

What the parsers of numeric responses accept, said without the parsers: the first line with the
prefix, its fields, and decimal literals in them. `numericResponses_exact` compares the two, for
every text. A `Surroundings` holds what else a response may consist of, so that a response is
rendered from its values in all ways that a parser has to cope with.
-/

namespace SmsServer

open RustStd

/-! ### The line of a response -/

/-- The first line whose trimmed text starts with the prefix; `data` is what follows it there. -/
def ResponseLine (header response data : Str) : Prop :=
  ∃ before line after, lines response = before ++ line :: after ∧
    (∀ other ∈ before, ¬ header <+: trim other) ∧ trim line = header ++ data

theorem responseData_eq_ok_iff {name header : String} {response text : Str} :
    responseData name header response = .ok text ↔
      ∃ data, ResponseLine header.toList response data ∧ trim data = text := by
  have hstarts : ∀ line : Str, startsWith (trim line) header.toList = true ↔
      header.toList <+: trim line := fun line => List.isPrefixOf_iff_prefix
  constructor
  · intro h
    obtain ⟨line, hline, h⟩ := bind_eq_ok_iff.mp h
    obtain ⟨data, hdata, h⟩ := bind_eq_ok_iff.mp h
    obtain ⟨hheader, before, after, hlines, hbefore⟩ :=
      List.find?_eq_some_iff_append.mp (okOr_eq_ok_iff.mp hline)
    obtain ⟨data', hdata'⟩ := (hstarts line).mp hheader
    rw [okOr_eq_ok_iff, ← hdata', stripPrefix_append, Option.some_inj] at hdata
    refine ⟨data, ⟨before, line, after, hlines, fun other hother => ?_, ?_⟩, Except.ok.inj h⟩
    · rw [← hstarts]
      simpa using hbefore other hother
    · rw [← hdata', hdata]
  · rintro ⟨data, ⟨before, line, after, hlines, hbefore, hline⟩, rfl⟩
    have hfind : findLine header.toList response = some line := by
      refine List.find?_eq_some_iff_append.mpr ⟨?_, before, after, hlines, fun other hother => ?_⟩
      · rw [hline]
        exact startsWith_append _ _
      · simpa [← hstarts] using hbefore other hother
    simp only [responseData, hfind, okOr_some, ok_bind, hline, stripPrefix_append]
    rfl

/-! ### Fields -/

/-- The leading fields, trimmed, are as specified; more may follow. -/
def Leading : List (Str → Prop) → List Str → Prop
  | [], _ => True
  | _ :: _, [] => False
  | spec :: specs, field :: fields => spec (trim field) ∧ Leading specs fields

theorem leading_cons_iff {spec : Str → Prop} {specs : List (Str → Prop)} {fields : List Str} :
    Leading (spec :: specs) fields ↔
      ∃ field rest, fields = field :: rest ∧ spec (trim field) ∧ Leading specs rest := by
  cases fields <;> simp [Leading]

theorem leading_congr {specs : List (Str → Prop)} {fields fields' : List Str}
    (h : fields.map trim = fields'.map trim) : Leading specs fields ↔ Leading specs fields' := by
  induction specs generalizing fields fields' with
  | nil => exact Iff.rfl
  | cons spec specs ih =>
    cases fields with
    | nil =>
      obtain rfl : fields' = [] := List.map_eq_nil_iff.mp h.symm
      exact Iff.rfl
    | cons field fields =>
      obtain ⟨field', rest, rfl, hfield, hrest⟩ := List.map_eq_cons_iff.mp h.symm
      rw [Leading, Leading, hfield, ih hrest.symm]

/-- The fields of trimmed data are those of the data. -/
theorem leading_split_trim {specs : List (Str → Prop)} {data : Str} :
    Leading specs (split ',' (trim data)) ↔ Leading specs (split ',' data) :=
  leading_congr (map_trim_split_trim (by decide) data)

theorem parseField_cons {A : Type} (missing invalid : String) {parse : Str → Option A}
    {field : Str} {a : A} (h : parse (trim field) = some a) (fields : List Str) :
    parseField missing invalid parse (field :: fields) = .ok (a, fields) := by
  simp only [parseField, List.head?_cons, okOr_some, ok_bind, h]
  rfl

theorem parseField_eq_ok_iff {A : Type} {missing invalid : String} {parse : Str → Option A}
    {fields rest : List Str} {a : A} :
    parseField missing invalid parse fields = .ok (a, rest) ↔
      ∃ field, fields = field :: rest ∧ parse (trim field) = some a := by
  constructor
  · intro h
    obtain ⟨field, hfield, h⟩ := bind_eq_ok_iff.mp h
    obtain ⟨value, hvalue, h⟩ := bind_eq_ok_iff.mp h
    obtain ⟨rfl, rfl⟩ := Prod.mk.inj (Except.ok.inj h)
    rw [okOr_eq_ok_iff] at hfield hvalue
    exact ⟨field, (List.cons_head?_tail hfield).symm, hvalue⟩
  · rintro ⟨field, rfl, hvalue⟩
    exact parseField_cons missing invalid hvalue rest

theorem parseCmgsResult_eq_ok_iff {response : Str} {reference : UInt8} :
    parseCmgsResult response = .ok reference ↔
      ∃ data, ResponseLine "+CMGS:".toList response data ∧
        UnsignedLiteral (trim data) reference.toNat := by
  simp only [parseCmgsResult, bind_eq_ok_iff, responseData_eq_ok_iff, okOr_eq_ok_iff,
    parseU8_eq_some_iff]
  constructor
  · rintro ⟨_, ⟨data, hline, rfl⟩, hliteral⟩
    exact ⟨data, hline, hliteral⟩
  · rintro ⟨data, hline, hliteral⟩
    exact ⟨_, ⟨data, hline, rfl⟩, hliteral⟩

/-- Two fields after a prefix. -/
theorem twoFields_eq_ok_iff {A B : Type} {name header missing invalid missing' invalid' : String}
    {parse : Str → Option A} {parse' : Str → Option B} {response : Str} {a : A} {b : B} :
    (do let data ← responseData name header response
        let (first, parts) ← parseField missing invalid parse (split ',' data)
        let (second, _) ← parseField missing' invalid' parse' parts
        return (first, second)) = .ok (a, b) ↔
      ∃ data, ResponseLine header.toList response data ∧
        Leading [(parse · = some a), (parse' · = some b)] (split ',' data) := by
  simp only [bind_eq_ok_iff, responseData_eq_ok_iff, parseField_eq_ok_iff, Prod.exists]
  constructor
  · rintro ⟨_, ⟨data, hline, rfl⟩, _, _, ⟨first, hfields, hfirst⟩, _, _, ⟨_, rfl, hsecond⟩, hok⟩
    obtain ⟨rfl, rfl⟩ := Prod.mk.inj (Except.ok.inj hok)
    refine ⟨data, hline, leading_split_trim.mp ?_⟩
    rw [hfields]
    exact ⟨hfirst, hsecond, trivial⟩
  · rintro ⟨data, hline, hleading⟩
    rw [← leading_split_trim, leading_cons_iff] at hleading
    obtain ⟨first, _, hfields, hfirst, hleading⟩ := hleading
    obtain ⟨second, rest, rfl, hsecond, -⟩ := leading_cons_iff.mp hleading
    exact ⟨_, ⟨data, hline, rfl⟩, _, _, ⟨first, hfields, hfirst⟩, _, _, ⟨second, rfl, hsecond⟩, rfl⟩

theorem parseCregResponse_eq_ok_iff {response : Str} {registration technology : UInt8} :
    parseCregResponse response = .ok (registration, technology) ↔
      ∃ data, ResponseLine "+CREG:".toList response data ∧
        Leading [(UnsignedLiteral · registration.toNat), (UnsignedLiteral · technology.toNat)]
          (split ',' data) := by
  simp only [← parseU8_eq_some_iff]
  exact twoFields_eq_ok_iff

theorem parseCsqResponse_eq_ok_iff {response : Str} {rssi ber : Int32} :
    parseCsqResponse response = .ok (rssi, ber) ↔
      ∃ data, ResponseLine "+CSQ:".toList response data ∧
        Leading [(SignedLiteral · rssi.toInt), (SignedLiteral · ber.toInt)] (split ',' data) := by
  simp only [← parseI32_eq_some_iff]
  exact twoFields_eq_ok_iff

/-- The voltage is the thousandth part of the third value. -/
theorem parseCbcResponse_eq_ok_iff {response : Str} {status charge : UInt8} {voltage : Float32} :
    parseCbcResponse response = .ok (status, charge, voltage) ↔
      ∃ voltageRaw : UInt32, voltage = voltageRaw.toFloat32 / 1000.0 ∧
        ∃ data, ResponseLine "+CBC:".toList response data ∧
          Leading [(UnsignedLiteral · status.toNat), (UnsignedLiteral · charge.toNat),
            (UnsignedLiteral · voltageRaw.toNat)] (split ',' data) := by
  simp only [parseCbcResponse, bind_eq_ok_iff, responseData_eq_ok_iff, parseField_eq_ok_iff,
    Prod.exists, parseU8_eq_some_iff, parseU32_eq_some_iff]
  constructor
  · rintro ⟨_, ⟨data, hline, rfl⟩, _, _, ⟨first, hfields, hfirst⟩, _, _, ⟨_, rfl, hsecond⟩,
      voltageRaw, _, ⟨_, rfl, hthird⟩, hok⟩
    obtain ⟨rfl, hrest⟩ := Prod.mk.inj (Except.ok.inj hok)
    obtain ⟨rfl, rfl⟩ := Prod.mk.inj hrest
    refine ⟨voltageRaw, rfl, data, hline, leading_split_trim.mp ?_⟩
    rw [hfields]
    exact ⟨hfirst, hsecond, hthird, trivial⟩
  · rintro ⟨voltageRaw, rfl, data, hline, hleading⟩
    rw [← leading_split_trim, leading_cons_iff] at hleading
    obtain ⟨first, _, hfields, hfirst, hleading⟩ := hleading
    obtain ⟨second, _, rfl, hsecond, hleading⟩ := leading_cons_iff.mp hleading
    obtain ⟨third, rest, rfl, hthird, -⟩ := leading_cons_iff.mp hleading
    exact ⟨_, ⟨data, hline, rfl⟩, _, _, ⟨first, hfields, hfirst⟩, _, _, ⟨second, rfl, hsecond⟩,
      _, _, ⟨third, rfl, hthird⟩, rfl⟩

/-! ### Rendering a response -/

/-- Whitespace on both sides of a text within a line. -/
structure Padding where
  before : Str
  after : Str
  whitespace : ∀ c ∈ before ++ after, isWhitespace c
  noNewline : '\n' ∉ before ++ after

namespace Padding

variable {self : Padding}

def around (self : Padding) (text : Str) : Str := self.before ++ text ++ self.after

/-- One space before the field. -/
def space : Padding := ⟨[' '], [], List.forall_mem_singleton.mpr (by decide), by decide⟩

def none : Padding := ⟨[], [], List.forall_mem_nil _, by decide⟩

@[simp] theorem around_space (text : Str) : space.around text = ' ' :: text := List.append_nil _

@[simp] theorem around_none (text : Str) : none.around text = text := List.append_nil _

theorem trim_around (self : Padding) (text : Str) : trim (self.around text) = trim text := by
  obtain ⟨hbefore, hafter⟩ := List.forall_mem_append.mp self.whitespace
  rw [around, trim_append_of_all_right hafter, trim_append_of_all hbefore]

/-- A character other than whitespace is in the padded text if it is in the text. -/
theorem mem_around {c : Char} (hc : isWhitespace c = false) {text : Str} :
    c ∈ self.around text ↔ c ∈ text := by
  have hpad : c ∉ self.before ++ self.after := fun hmem => by simp [self.whitespace c hmem] at hc
  obtain ⟨hbefore, hafter⟩ := not_or.mp (mt List.mem_append.mpr hpad)
  simp [around, hbefore, hafter]

theorem newline_mem_around {text : Str} : '\n' ∈ self.around text ↔ '\n' ∈ text := by
  obtain ⟨hbefore, hafter⟩ := not_or.mp (mt List.mem_append.mpr self.noNewline)
  simp [around, hbefore, hafter]

end Padding

/-- What stands around the prefix and the data in a response: earlier lines without the prefix,
whitespace, later text. -/
structure Surroundings (header : Str) where
  earlier : List Str
  noNewline : ∀ line ∈ earlier, '\n' ∉ line
  withoutPrefix : ∀ line ∈ earlier, ¬ header <+: trim line
  padding : Padding
  later : Option Str

/-- A prefix of a response: a text in one line, without whitespace. -/
def Header (header : Str) : Prop := header ≠ [] ∧ ∀ c ∈ header, isWhitespace c = false

instance (header : Str) : Decidable (Header header) :=
  @instDecidableAnd _ _ _ (List.decidableBAll _ _)

theorem Header.trim_append {header : Str} (h : Header header) (data : Str) :
    trim (header ++ data) = header ++ trimEnd data := by
  obtain ⟨c, t, rfl⟩ := List.exists_cons_of_ne_nil h.1
  have hlast := List.getLast?_eq_some_getLast h.1
  exact trim_append_of_ends ⟨c, rfl, h.2 c List.mem_cons_self⟩
    ⟨_, hlast, h.2 _ (List.mem_of_mem_getLast? hlast)⟩ data

namespace Surroundings

variable {header : Str}

def render (self : Surroundings header) (data : Str) : Str :=
  self.earlier.flatMap (· ++ ['\n']) ++ self.padding.around (header ++ data) ++
    self.later.elim [] ('\n' :: ·)

/-- The response comes first, and later text follows it. -/
def first (later : Str) : Surroundings header := ⟨[], by simp, by simp, .none, some later⟩

theorem render_first (later data : Str) :
    (first later : Surroundings header).render data = header ++ data ++ '\n' :: later := by
  simp [render, first]

/-- A rendered response has its line. -/
theorem responseLine (h : Header header) (self : Surroundings header) {data : Str}
    (hdata : '\n' ∉ data) : ResponseLine header (self.render data) (trimEnd data) := by
  have hheader : '\n' ∉ header := fun hmem => absurd (h.2 _ hmem) (by decide)
  have hnl : '\n' ∉ self.padding.around (header ++ data) := by
    rw [Padding.newline_mem_around, List.mem_append]
    exact not_or.mpr ⟨hheader, hdata⟩
  have hne : self.padding.around (header ++ data) ≠ [] := by
    simp [Padding.around, h.1]
  have htrim : trim (self.padding.around (header ++ data)) = header ++ trimEnd data := by
    rw [Padding.trim_around, h.trim_append]
  have hbefore : ∀ other ∈ self.earlier.map chompCr, ¬ header <+: trim other := by
    refine List.forall_mem_map.mpr fun line hline => ?_
    rw [trim_chompCr]
    exact self.withoutPrefix line hline
  rw [ResponseLine, render, List.append_assoc, lines_flatMap_append self.noNewline]
  cases self.later with
  | none =>
    rw [Option.elim_none, List.append_nil, lines_of_notMem hnl hne]
    exact ⟨_, _, [], rfl, hbefore, htrim⟩
  | some later =>
    rw [Option.elim_some, lines_append_newline hnl]
    exact ⟨_, _, lines later, rfl, hbefore, by rw [trim_chompCr, htrim]⟩

/-- What the parsers get of a rendered response. -/
theorem responseData_render {name header : String} (h : Header header.toList)
    (self : Surroundings header.toList) {data : Str} (hdata : '\n' ∉ data) :
    responseData name header (self.render data) = .ok (trim data) :=
  responseData_eq_ok_iff.mpr ⟨_, self.responseLine h hdata, trim_trimEnd data⟩

end Surroundings

/-- Further fields of a response. -/
structure ExtraFields where
  fields : List Str
  noComma : ∀ field ∈ fields, ',' ∉ field
  noNewline : ∀ field ∈ fields, '\n' ∉ field

def ExtraFields.none : ExtraFields := ⟨[], nofun, nofun⟩

/-- Fields with whitespace around them, and further fields, with commas between them. -/
def joinFields (fields : List (Padding × Str)) (extra : ExtraFields) : Str :=
  [','].intercalate (fields.map (fun field => field.1.around field.2) ++ extra.fields)

theorem joinFields_cons_cons (first second : Padding × Str) (fields : List (Padding × Str))
    (extra : ExtraFields) :
    joinFields (first :: second :: fields) extra =
      first.1.around first.2 ++ ',' :: joinFields (second :: fields) extra := by
  simp [joinFields, List.intercalate_cons_cons]

theorem joinFields_singleton (field : Padding × Str) (extra : ExtraFields) :
    joinFields [field] extra = field.1.around field.2 ++ extra.fields.flatMap (',' :: ·) :=
  intercalate_cons_eq ',' _ _

section

variable {fields : List (Padding × Str)} {extra : ExtraFields}

theorem newline_notMem_joinFields (h : ∀ field ∈ fields, '\n' ∉ field.2) :
    '\n' ∉ joinFields fields extra := by
  intro hmem
  rcases mem_intercalate hmem with hcomma | ⟨text, htext, hmem⟩
  · exact absurd hcomma (by decide)
  · rcases List.mem_append.mp htext with htext | htext
    · obtain ⟨field, hfield, rfl⟩ := List.mem_map.mp htext
      exact h field hfield (Padding.newline_mem_around.mp hmem)
    · exact extra.noNewline text htext hmem

theorem leading_append {specs : List (Str → Prop)} {texts : List Str}
    (h : List.Forall₂ (fun spec text => spec (trim text)) specs texts) (rest : List Str) :
    Leading specs (texts ++ rest) := by
  induction h with
  | nil => trivial
  | cons hspec _ ih => exact ⟨hspec, ih⟩

/-- The fields are read from their join. -/
theorem leading_joinFields {specs : List (Str → Prop)} (hne : fields ≠ [])
    (hcomma : ∀ field ∈ fields, ',' ∉ field.2)
    (hspecs : List.Forall₂ (fun spec field => spec (trim field.2)) specs fields) :
    Leading specs (split ',' (joinFields fields extra)) := by
  have hfields : ∀ text ∈ fields.map (fun field => field.1.around field.2) ++ extra.fields,
      ',' ∉ text := by
    refine List.forall_mem_append.mpr ⟨List.forall_mem_map.mpr fun field hfield => ?_,
      extra.noComma⟩
    rw [Padding.mem_around (by decide)]
    exact hcomma field hfield
  rw [joinFields, split_intercalate (by simp [hne]) hfields]
  refine leading_append (List.forall₂_map_right_iff.mpr (hspecs.imp fun spec field hspec => ?_)) _
  rwa [Padding.trim_around]

/-- A rendered response has its line, with its fields. -/
theorem Surroundings.exists_leading {header : Str} (h : Header header)
    (self : Surroundings header) {specs : List (Str → Prop)} (hne : fields ≠ [])
    (hcomma : ∀ field ∈ fields, ',' ∉ field.2) (hnl : ∀ field ∈ fields, '\n' ∉ field.2)
    (hspecs : List.Forall₂ (fun spec field => spec (trim field.2)) specs fields) :
    ∃ data, ResponseLine header (self.render (joinFields fields extra)) data ∧
      Leading specs (split ',' data) := by
  refine ⟨_, self.responseLine h (newline_notMem_joinFields hnl), ?_⟩
  rw [← leading_split_trim, trim_trimEnd, leading_split_trim]
  exact leading_joinFields hne hcomma hspecs

end

/-! ### Numeric responses -/

theorem unsignedField (n : ℕ) : UnsignedLiteral (trim (showNat n)) n := by
  rw [trim_showNat]
  exact unsignedLiteral_showNat n

theorem signedField (z : ℤ) : SignedLiteral (trim (showInt z)) z := by
  rw [trim_showInt]
  exact signedLiteral_showInt z

theorem comma_notMem_showNat (n : ℕ) : ',' ∉ showNat n := notMem_showNat (by decide) n

theorem newline_notMem_showNat (n : ℕ) : '\n' ∉ showNat n := notMem_showNat (by decide) n

theorem notMem_showInt (z : ℤ) : ',' ∉ showInt z := by
  intro hc
  rcases mem_showInt hc with h | h <;> exact absurd h (by decide)

theorem newline_notMem_showInt (z : ℤ) : '\n' ∉ showInt z := fun hmem =>
  absurd (noWhitespace_showInt z _ hmem) (by decide)

theorem parseCmgsResult_render (around : Surroundings "+CMGS:".toList) (padding : Padding)
    (reference : UInt8) :
    parseCmgsResult (around.render (padding.around (showNat reference.toNat))) = .ok reference := by
  have hnl : '\n' ∉ padding.around (showNat reference.toNat) := by
    rw [Padding.newline_mem_around]
    exact newline_notMem_showNat _
  refine parseCmgsResult_eq_ok_iff.mpr ⟨_, around.responseLine (by decide) hnl, ?_⟩
  rw [trim_trimEnd, Padding.trim_around]
  exact unsignedField _

theorem parseCregResponse_render (around : Surroundings "+CREG:".toList) (p q : Padding)
    (extra : ExtraFields) (registration technology : UInt8) :
    parseCregResponse (around.render (joinFields
      [(p, showNat registration.toNat), (q, showNat technology.toNat)] extra)) =
        .ok (registration, technology) := by
  refine parseCregResponse_eq_ok_iff.mpr (around.exists_leading (by decide) (by simp) ?_ ?_ ?_)
  · simp [comma_notMem_showNat]
  · simp [newline_notMem_showNat]
  · exact .cons (unsignedField _) (.cons (unsignedField _) .nil)

theorem parseCsqResponse_render (around : Surroundings "+CSQ:".toList) (p q : Padding)
    (extra : ExtraFields) (rssi ber : Int32) :
    parseCsqResponse (around.render (joinFields
      [(p, showInt rssi.toInt), (q, showInt ber.toInt)] extra)) = .ok (rssi, ber) := by
  refine parseCsqResponse_eq_ok_iff.mpr (around.exists_leading (by decide) (by simp) ?_ ?_ ?_)
  · simp [notMem_showInt]
  · simp [newline_notMem_showInt]
  · exact .cons (signedField _) (.cons (signedField _) .nil)

theorem parseCbcResponse_render (around : Surroundings "+CBC:".toList) (p q r : Padding)
    (extra : ExtraFields) (status charge : UInt8) (voltageRaw : UInt32) :
    parseCbcResponse (around.render (joinFields [(p, showNat status.toNat),
      (q, showNat charge.toNat), (r, showNat voltageRaw.toNat)] extra)) =
        .ok (status, charge, voltageRaw.toFloat32 / 1000.0) := by
  refine parseCbcResponse_eq_ok_iff.mpr
    ⟨voltageRaw, rfl, around.exists_leading (by decide) (by simp) ?_ ?_ ?_⟩
  · simp [comma_notMem_showNat]
  · simp [newline_notMem_showNat]
  · exact .cons (unsignedField _) (.cons (unsignedField _) (.cons (unsignedField _) .nil))

/-- **Numeric responses.** For every text, the parsers of numeric responses return the values
whose literals stand in the leading fields of the first line with their prefix, and nothing else;
so they read values back from every response that these are rendered in. -/
theorem numericResponses_exact :
    (∀ response reference, parseCmgsResult response = .ok reference ↔
      ∃ data, ResponseLine "+CMGS:".toList response data ∧
        UnsignedLiteral (trim data) reference.toNat) ∧
    (∀ response registration technology,
      parseCregResponse response = .ok (registration, technology) ↔
        ∃ data, ResponseLine "+CREG:".toList response data ∧
          Leading [(UnsignedLiteral · registration.toNat), (UnsignedLiteral · technology.toNat)]
            (split ',' data)) ∧
    (∀ response rssi ber, parseCsqResponse response = .ok (rssi, ber) ↔
      ∃ data, ResponseLine "+CSQ:".toList response data ∧
        Leading [(SignedLiteral · rssi.toInt), (SignedLiteral · ber.toInt)] (split ',' data)) ∧
    (∀ response status charge voltage,
      parseCbcResponse response = .ok (status, charge, voltage) ↔
        ∃ voltageRaw : UInt32, voltage = voltageRaw.toFloat32 / 1000.0 ∧
          ∃ data, ResponseLine "+CBC:".toList response data ∧
            Leading [(UnsignedLiteral · status.toNat), (UnsignedLiteral · charge.toNat),
              (UnsignedLiteral · voltageRaw.toNat)] (split ',' data)) ∧
    (∀ (around : Surroundings "+CMGS:".toList) (padding : Padding) (reference : UInt8),
      parseCmgsResult (around.render (padding.around (showNat reference.toNat))) =
        .ok reference) ∧
    (∀ (around : Surroundings "+CREG:".toList) p q extra (registration technology : UInt8),
      parseCregResponse (around.render (joinFields
        [(p, showNat registration.toNat), (q, showNat technology.toNat)] extra)) =
          .ok (registration, technology)) ∧
    (∀ (around : Surroundings "+CSQ:".toList) p q extra (rssi ber : Int32),
      parseCsqResponse (around.render (joinFields
        [(p, showInt rssi.toInt), (q, showInt ber.toInt)] extra)) = .ok (rssi, ber)) ∧
    ∀ (around : Surroundings "+CBC:".toList) p q r extra (status charge : UInt8)
        (voltageRaw : UInt32),
      parseCbcResponse (around.render (joinFields [(p, showNat status.toNat),
        (q, showNat charge.toNat), (r, showNat voltageRaw.toNat)] extra)) =
          .ok (status, charge, voltageRaw.toFloat32 / 1000.0) :=
  ⟨fun _ _ => parseCmgsResult_eq_ok_iff, fun _ _ _ => parseCregResponse_eq_ok_iff,
    fun _ _ _ => parseCsqResponse_eq_ok_iff, fun _ _ _ _ => parseCbcResponse_eq_ok_iff,
    parseCmgsResult_render, parseCregResponse_render, parseCsqResponse_render,
    parseCbcResponse_render⟩

end SmsServer

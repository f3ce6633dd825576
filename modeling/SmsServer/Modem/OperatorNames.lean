import SmsServer.Modem.ResponseText

/-!
# Operator names

Two responses name the operator: `+COPS: status,format,"name"` and `+CSPN: "name",mode`. One
parser splits the line at commas and strips the quotes of the third field, the other takes what
stands between the first and the last quote. So the first loses a name with a comma, and the
second is confused by quotes in later fields; `operatorName_read_iff` says that nothing else is
lost.
-/

namespace SmsServer

open RustStd

def quoted (name : Str) : Str := '"' :: name ++ ['"']

/-- Whitespace in a quoted name is not trimmed. -/
theorem trim_quoted_append (name rest : Str) :
    trim (quoted name ++ rest) = quoted name ++ trimEnd rest :=
  trim_append_of_ends ⟨'"', rfl, by decide⟩ ⟨'"', List.getLast?_concat, by decide⟩ rest

theorem trim_quotes (name : Str) : trim (quoted name) = quoted name := by
  simpa [trimEnd] using trim_quoted_append name []

/-! ### +COPS -/

section

variable {around : Surroundings "+COPS:".toList} {status format : UInt8} {name operator : Str}

theorem parseCopsResponse_render_iff {data : Str} (hdata : '\n' ∉ data) :
    parseCopsResponse (around.render data) = .ok (status, format, operator) ↔
      Leading [(UnsignedLiteral · status.toNat), (UnsignedLiteral · format.toNat),
        (· = quoted operator)] (split ',' data) := by
  have hquotes : ∀ field operator : Str,
      (stripPrefix field ['"']).bind (stripSuffix · ['"']) = some operator ↔
        field = quoted operator := by
    intro field operator
    rw [Option.bind_eq_some_iff, quoted]
    constructor
    · rintro ⟨rest, hrest, hoperator⟩
      rw [stripPrefix_eq_some_iff.mp hrest, stripSuffix_eq_some_iff.mp hoperator]
      rfl
    · rintro rfl
      exact ⟨operator ++ ['"'], stripPrefix_eq_some_iff.mpr rfl, stripSuffix_eq_some_iff.mpr rfl⟩
  rw [parseCopsResponse, around.responseData_render (by decide) hdata, ← leading_split_trim]
  simp only [ok_bind, bind_eq_ok_iff, parseField_eq_ok_iff, Prod.exists, parseU8_eq_some_iff,
    hquotes]
  constructor
  · rintro ⟨_, _, ⟨first, hfields, hfirst⟩, _, _, ⟨_, rfl, hsecond⟩, _, _, ⟨_, rfl, hthird⟩, hok⟩
    obtain ⟨rfl, hrest⟩ := Prod.mk.inj (Except.ok.inj hok)
    obtain ⟨rfl, rfl⟩ := Prod.mk.inj hrest
    rw [hfields]
    exact ⟨hfirst, hsecond, hthird, trivial⟩
  · intro hleading
    obtain ⟨first, _, hfields, hfirst, hleading⟩ := leading_cons_iff.mp hleading
    obtain ⟨second, _, rfl, hsecond, hleading⟩ := leading_cons_iff.mp hleading
    obtain ⟨third, rest, rfl, hthird, -⟩ := leading_cons_iff.mp hleading
    exact ⟨_, _, ⟨first, hfields, hfirst⟩, _, _, ⟨second, rfl, hsecond⟩, _, _,
      ⟨third, rfl, hthird⟩, rfl⟩

/-- The name is read if no comma splits it. -/
theorem parseCopsResponse_fields_iff (hquote : '"' ∉ name) (hnl : '\n' ∉ name) (p q r : Padding)
    (extra : ExtraFields) :
    parseCopsResponse (around.render (joinFields
        [(p, showNat status.toNat), (q, showNat format.toNat), (r, quoted name)] extra)) =
        .ok (status, format, name) ↔ ',' ∉ name := by
  have hnl' : ∀ field ∈ [(p, showNat status.toNat), (q, showNat format.toNat), (r, quoted name)],
      '\n' ∉ field.2 := by
    simp [newline_notMem_showNat, quoted, hnl]
  rw [parseCopsResponse_render_iff (newline_notMem_joinFields hnl')]
  constructor
  · intro hleading hcomma
    obtain ⟨start, rest, rfl, hstart⟩ := List.eq_append_cons_of_mem hcomma
    -- the third field ends at the first comma of the name, before the closing quote
    have hsplit : split ',' (joinFields [(p, showNat status.toNat), (q, showNat format.toNat),
          (r, quoted (start ++ ',' :: rest))] extra) =
        p.around (showNat status.toNat) :: q.around (showNat format.toNat) ::
          (r.before ++ '"' :: start) ::
            split ',' (rest ++ ['"'] ++ r.after ++ extra.fields.flatMap (',' :: ·)) := by
      have hcomma : ∀ (padding : Padding) (n : ℕ), ',' ∉ padding.around (showNat n) := by
        intro padding n
        rw [Padding.mem_around (by decide)]
        exact comma_notMem_showNat n
      have hthird : ',' ∉ r.before ++ '"' :: start := by
        have hbefore : ',' ∉ r.before := fun hmem =>
          absurd (r.whitespace _ (List.mem_append_left _ hmem)) (by decide)
        simp [hbefore, hstart]
      rw [joinFields_cons_cons, joinFields_cons_cons, joinFields_singleton,
        split_append (hcomma _ _), split_append (hcomma _ _)]
      have := split_append hthird (rest ++ ['"'] ++ r.after ++ extra.fields.flatMap (',' :: ·))
      simpa [quoted, Padding.around] using this
    rw [hsplit] at hleading
    obtain ⟨-, -, hthird, -⟩ := hleading
    have htrim : trim (r.before ++ '"' :: start) = '"' :: trimEnd start := by
      rw [trim_append_of_all fun c hc => r.whitespace c (List.mem_append_left _ hc)]
      exact trim_append_of_ends (s := ['"']) ⟨_, rfl, by decide⟩ ⟨_, rfl, by decide⟩ start
    rw [htrim, quoted, List.cons_append] at hthird
    have hclose : '"' ∈ trimEnd start := by
      rw [(List.cons.inj hthird).2]
      simp
    exact hquote (List.mem_append_left _ ((mem_trimEnd (by decide)).mp hclose))
  · intro hcomma
    refine leading_joinFields (by simp) ?_ ?_
    · simp [comma_notMem_showNat, quoted, hcomma]
    · refine .cons (unsignedField _) (.cons (unsignedField _) (.cons (trim_quotes name) .nil))

end

/-! ### +CSPN -/

/-- The name is read if the closing quote is the last one. -/
theorem parseCspnResponse_fields_iff {around : Surroundings "+CSPN:".toList} {name mode : Str}
    (hnl : '\n' ∉ name) (hmode : ∀ c ∈ mode, c.isDigit) (p q : Padding) (extra : ExtraFields) :
    parseCspnResponse (around.render (joinFields [(p, quoted name), (q, mode)] extra)) = .ok name ↔
      ∀ field ∈ extra.fields, '"' ∉ field := by
  set rest := p.after ++ ',' :: (q.around mode ++ extra.fields.flatMap (',' :: ·)) with hrest
  have hdigit : ∀ {c : Char}, c.isDigit = false → c ∉ mode := fun hc hmem => by
    simp [hmode _ hmem] at hc
  have hdata : responseData "CSPN" "+CSPN:"
      (around.render (joinFields [(p, quoted name), (q, mode)] extra)) =
        .ok ('"' :: name ++ '"' :: trimEnd rest) := by
    have hnl' : ∀ field ∈ [(p, quoted name), (q, mode)], '\n' ∉ field.2 := by
      simp [quoted, hnl, hdigit]
    have hjoin : joinFields [(p, quoted name), (q, mode)] extra =
        p.before ++ (quoted name ++ rest) := by
      rw [joinFields_cons_cons, joinFields_singleton, Padding.around, hrest]
      simp
    rw [around.responseData_render (by decide) (newline_notMem_joinFields hnl'), hjoin,
      trim_append_of_all fun c hc => p.whitespace c (List.mem_append_left _ hc),
      trim_quoted_append]
    simp [quoted]
  have hmem : '"' ∈ trimEnd rest ↔ ∃ field ∈ extra.fields, '"' ∈ field := by
    have hafter : '"' ∉ p.after := fun hmem =>
      absurd (p.whitespace _ (List.mem_append_right _ hmem)) (by decide)
    have hmode' : '"' ∉ q.around mode := by
      rw [Padding.mem_around (by decide)]
      exact hdigit (by decide)
    rw [mem_trimEnd (by decide), hrest]
    simp [hafter, hmode']
  constructor
  · intro h field hfield hq
    obtain ⟨before, after, hlast, hnone⟩ := exists_split_last (hmem.mpr ⟨field, hfield, hq⟩)
    -- the name is taken up to the last quote
    have hlong : parseCspnResponse
        (around.render (joinFields [(p, quoted name), (q, mode)] extra)) =
          .ok (name ++ '"' :: before) := by
      refine parseCspnResponse_of_data ?_ hnone
      rw [hdata, hlast]
      simp
    have hname := Except.ok.inj (hlong.symm.trans h)
    simp at hname
  · intro hextra
    refine parseCspnResponse_of_data hdata fun hq => ?_
    obtain ⟨field, hfield, hq⟩ := hmem.mp hq
    exact hextra field hfield hq

/-! ### Both responses -/

/-- **Operator names.** A name is read back from both responses, whatever stands around the
fields and the lines, if and only if it has no comma and no quote follows it in the `+CSPN` line. -/
theorem operatorName_read_iff {name mode : Str} (hquote : '"' ∉ name) (hnl : '\n' ∉ name)
    (hmode : ∀ c ∈ mode, c.isDigit) (cops : Surroundings "+COPS:".toList)
    (cspn : Surroundings "+CSPN:".toList) (status format : UInt8) (p q r p' q' : Padding)
    (extra extra' : ExtraFields) :
    (parseCopsResponse (cops.render (joinFields
        [(p, showNat status.toNat), (q, showNat format.toNat), (r, quoted name)] extra)) =
          .ok (status, format, name) ∧
      parseCspnResponse (cspn.render (joinFields [(p', quoted name), (q', mode)] extra')) =
        .ok name) ↔
      ',' ∉ name ∧ ∀ field ∈ extra'.fields, '"' ∉ field := by
  rw [parseCopsResponse_fields_iff hquote hnl, parseCspnResponse_fields_iff hnl hmode]

/-- A name with a space, followed by another field in both responses. -/
theorem operatorName_read_space :
    parseCopsResponse "+COPS: 0,0,\"T Mobile\",7\n".toList = .ok (0, 0, "T Mobile".toList) ∧
      parseCspnResponse "+CSPN: \"T Mobile\",0,7\n".toList = .ok "T Mobile".toList :=
  (operatorName_read_iff (show '"' ∉ "T Mobile".toList by decide) (by decide)
    (show ∀ c ∈ "0".toList, c.isDigit by simp) (.first []) (.first []) 0 0 .space .none .none
    .space .none ⟨["7".toList], by decide, by decide⟩ ⟨["7".toList], by decide, by decide⟩).mpr
    ⟨by decide, by decide⟩

/-- A name with a comma. -/
theorem operatorName_comma :
    parseCopsResponse "+COPS: 0,0,\"AT&T, Inc.\"\n".toList ≠ .ok (0, 0, "AT&T, Inc.".toList) ∧
      parseCopsResponse "+COPS: 0,0,\"AT&T, Inc.\"\n".toList =
        .error "Operator name not properly quoted".toList ∧
      parseCspnResponse "+CSPN: \"AT&T, Inc.\",0\n".toList = .ok "AT&T, Inc.".toList := by
  refine ⟨?_, ?_, ?_⟩ <;> decide

end SmsServer

import SmsServer.Library.Str
import Mathlib.Tactic.Common

/-!
# Decimal integers as Rust parses and prints them

`str::parse` for `u8`, `u32` and `i32`: an optional `+` (for signed types also `-`), then one
or more ASCII digits, whose value must fit the type; anything else is an error. Printing is
`Display`. What is parsed are the literals of the values, and every printed value parses back to
itself.
-/

namespace RustStd

/-! ### Parsing -/

/-- The value of a nonempty run of ASCII digits. -/
def digits? (s : Str) : Option ℕ :=
  if s ≠ [] ∧ s.all Char.isDigit then some (Nat.ofDigitChars 10 s 0) else none

/-- The magnitude `from_str_radix` reads for an unsigned type: a leading `+` is dropped. -/
def parseUnsigned? : Str → Option ℕ
  | '+' :: s => digits? s
  | s => digits? s

/-- `str::parse::<u8>`. -/
def parseU8 (s : Str) : Option UInt8 :=
  (parseUnsigned? s).bind fun n => if n < 256 then some (UInt8.ofNat n) else none

/-- `str::parse::<u32>`. -/
def parseU32 (s : Str) : Option UInt32 :=
  (parseUnsigned? s).bind fun n => if n < 4294967296 then some (UInt32.ofNat n) else none

/-- The value `from_str_radix` reads for a signed type. -/
def parseSigned? : Str → Option ℤ
  | '-' :: s => (digits? s).map fun n : ℕ => -(n : ℤ)
  | s => (parseUnsigned? s).map fun n : ℕ => (n : ℤ)

/-- `str::parse::<i32>`. -/
def parseI32 (s : Str) : Option Int32 :=
  (parseSigned? s).bind fun z =>
    if -2147483648 ≤ z ∧ z < 2147483648 then some (Int32.ofInt z) else none

/-! ### Literals -/

/-- A nonempty run of ASCII digits, the most significant first, with its value. -/
inductive Digits : Str → ℕ → Prop
  | single {c : Char} (h : c.isDigit) : Digits [c] (c.toNat - '0'.toNat)
  | append {s : Str} {n : ℕ} {c : Char} (hs : Digits s n) (h : c.isDigit) :
      Digits (s ++ [c]) (10 * n + (c.toNat - '0'.toNat))

/-- A decimal literal of an unsigned type. -/
inductive UnsignedLiteral : Str → ℕ → Prop
  | digits {s : Str} {n : ℕ} (h : Digits s n) : UnsignedLiteral s n
  | plus {s : Str} {n : ℕ} (h : Digits s n) : UnsignedLiteral ('+' :: s) n

/-- A decimal literal of a signed type. -/
inductive SignedLiteral : Str → ℤ → Prop
  | unsigned {s : Str} {n : ℕ} (h : UnsignedLiteral s n) : SignedLiteral s n
  | minus {s : Str} {n : ℕ} (h : Digits s n) : SignedLiteral ('-' :: s) (-n)

theorem Digits.head {s : Str} {n : ℕ} (h : Digits s n) : ∃ c t, s = c :: t ∧ c.isDigit := by
  induction h with
  | single h => exact ⟨_, [], rfl, h⟩
  | append hs _ ih =>
    obtain ⟨c, t, rfl, hc⟩ := ih
    exact ⟨c, _, List.cons_append .., hc⟩

theorem digits?_eq_some_iff {s : Str} {n : ℕ} : digits? s = some n ↔ Digits s n := by
  constructor
  · intro h
    rw [digits?, Option.ite_none_right_eq_some, Option.some_inj] at h
    obtain ⟨⟨hne, hall⟩, rfl⟩ := h
    induction s using List.reverseRecOn with
    | nil => exact absurd rfl hne
    | append_singleton s c ih =>
      rw [List.all_append, Bool.and_eq_true] at hall
      have hc : c.isDigit := by simpa using hall.2
      rw [Nat.ofDigitChars, List.foldl_append]
      by_cases hs : s = []
      · subst hs
        simpa using Digits.single hc
      · exact .append (ih hs hall.1) hc
  · intro h
    induction h with
    | @single c h => simp [digits?, h, Nat.ofDigitChars]
    | append hs h ih =>
      rw [digits?, Option.ite_none_right_eq_some, Option.some_inj] at ih ⊢
      obtain ⟨⟨-, hall⟩, rfl⟩ := ih
      refine ⟨⟨by simp, by simpa [h] using hall⟩, ?_⟩
      rw [Nat.ofDigitChars, List.foldl_append]
      rfl

theorem parseUnsigned?_eq_some_iff {s : Str} {n : ℕ} :
    parseUnsigned? s = some n ↔ UnsignedLiteral s n := by
  constructor
  · intro h
    unfold parseUnsigned? at h
    split at h
    · exact .plus (digits?_eq_some_iff.mp h)
    · exact .digits (digits?_eq_some_iff.mp h)
  · intro h
    cases h with
    | plus h => exact digits?_eq_some_iff.mpr h
    | digits h =>
      obtain ⟨c, t, rfl, hc⟩ := h.head
      unfold parseUnsigned?
      split
      · next heq =>
        obtain ⟨rfl, -⟩ := List.cons.inj heq
        exact absurd hc (by decide)
      · exact digits?_eq_some_iff.mpr h

theorem parseSigned?_eq_some_iff {s : Str} {z : ℤ} :
    parseSigned? s = some z ↔ SignedLiteral s z := by
  constructor
  · intro h
    unfold parseSigned? at h
    split at h
    · obtain ⟨n, hn, rfl⟩ := Option.map_eq_some_iff.mp h
      exact .minus (digits?_eq_some_iff.mp hn)
    · obtain ⟨n, hn, rfl⟩ := Option.map_eq_some_iff.mp h
      exact .unsigned (parseUnsigned?_eq_some_iff.mp hn)
  · intro h
    cases h with
    | minus h => exact Option.map_eq_some_iff.mpr ⟨_, digits?_eq_some_iff.mpr h, rfl⟩
    | @unsigned _ n h =>
      have hparse := parseUnsigned?_eq_some_iff.mpr h
      unfold parseSigned?
      split
      · cases h with
        | digits h =>
          obtain ⟨c, t, heq, hc⟩ := h.head
          obtain ⟨rfl, -⟩ := List.cons.inj heq
          exact absurd hc (by decide)
      · rw [hparse]
        rfl

/-- A `u8` is read from its literals, and from nothing else. -/
theorem parseU8_eq_some_iff {s : Str} {v : UInt8} :
    parseU8 s = some v ↔ UnsignedLiteral s v.toNat := by
  rw [parseU8, Option.bind_eq_some_iff, ← parseUnsigned?_eq_some_iff]
  constructor
  · rintro ⟨n, hn, hv⟩
    obtain ⟨hlt, hv⟩ := Option.ite_none_right_eq_some.mp hv
    obtain rfl := Option.some_inj.mp hv
    rwa [UInt8.toNat_ofNat_of_lt' hlt]
  · exact fun h => ⟨_, h, by rw [if_pos v.toNat_lt, UInt8.ofNat_toNat]⟩

/-- A `u32` is read from its literals, and from nothing else. -/
theorem parseU32_eq_some_iff {s : Str} {v : UInt32} :
    parseU32 s = some v ↔ UnsignedLiteral s v.toNat := by
  rw [parseU32, Option.bind_eq_some_iff, ← parseUnsigned?_eq_some_iff]
  constructor
  · rintro ⟨n, hn, hv⟩
    obtain ⟨hlt, hv⟩ := Option.ite_none_right_eq_some.mp hv
    obtain rfl := Option.some_inj.mp hv
    rwa [UInt32.toNat_ofNat_of_lt' hlt]
  · exact fun h => ⟨_, h, by rw [if_pos v.toNat_lt, UInt32.ofNat_toNat]⟩

/-- An `i32` is read from its literals, and from nothing else. -/
theorem parseI32_eq_some_iff {s : Str} {v : Int32} :
    parseI32 s = some v ↔ SignedLiteral s v.toInt := by
  rw [parseI32, Option.bind_eq_some_iff, ← parseSigned?_eq_some_iff]
  constructor
  · rintro ⟨z, hz, hv⟩
    obtain ⟨hbounds, hv⟩ := Option.ite_none_right_eq_some.mp hv
    obtain rfl := Option.some_inj.mp hv
    rwa [Int32.toInt_ofInt_of_le hbounds.1 hbounds.2]
  · exact fun h => ⟨_, h, by rw [if_pos ⟨v.le_toInt, v.toInt_lt⟩, Int32.ofInt_toInt]⟩

/-! ### Printing -/

/-- `Display` of an unsigned integer. -/
def showNat (n : ℕ) : Str := Nat.toDigits 10 n

/-- `Display` of a signed integer. -/
def showInt (z : ℤ) : Str := if z < 0 then '-' :: showNat z.natAbs else showNat z.natAbs

theorem isDigit_of_mem_showNat {n : ℕ} {c : Char} (h : c ∈ showNat n) : c.isDigit :=
  Nat.isDigit_of_mem_toDigits (by decide) (by decide) h

theorem showNat_ne_nil (n : ℕ) : showNat n ≠ [] := Nat.toDigits_ne_nil

/-- A printed integer consists of digits and a minus sign. -/
theorem mem_showInt {z : ℤ} {c : Char} (h : c ∈ showInt z) : c = '-' ∨ c.isDigit := by
  unfold showInt at h
  split at h
  · rcases List.mem_cons.mp h with rfl | hc
    · exact .inl rfl
    · exact .inr (isDigit_of_mem_showNat hc)
  · exact .inr (isDigit_of_mem_showNat h)

theorem isWhitespace_of_isDigit {c : Char} (h : c.isDigit) : isWhitespace c = false := by
  simp only [Char.isDigit, Bool.and_eq_true, decide_eq_true_eq] at h
  have hlo : 48 ≤ c.toNat := h.1
  have hhi : c.toNat ≤ 57 := h.2
  simp only [isWhitespace, Bool.or_eq_false_iff, Bool.and_eq_false_iff, decide_eq_false_iff_not,
    beq_eq_false_iff_ne]
  omega

/-! ### Round trips -/

theorem digits?_showNat (n : ℕ) : digits? (showNat n) = some n := by
  have hall : (showNat n).all Char.isDigit := by
    rw [List.all_eq_true]
    exact fun c hc => isDigit_of_mem_showNat hc
  rw [digits?, if_pos ⟨showNat_ne_nil n, hall⟩, showNat, Nat.ofDigitChars_ten_toDigits]

theorem parseUnsigned?_showNat (n : ℕ) : parseUnsigned? (showNat n) = some n := by
  rw [← digits?_showNat n]
  -- a printed number does not start with `+`
  unfold parseUnsigned?
  split
  · rename_i s hs
    have hplus : ('+' : Char).isDigit := isDigit_of_mem_showNat (n := n) (by simp [hs])
    exact absurd hplus (by decide)
  · rfl

theorem parseSigned?_showInt (z : ℤ) : parseSigned? (showInt z) = some z := by
  by_cases hz : z < 0
  · rw [showInt, if_pos hz, parseSigned?, digits?_showNat, Option.map_some]
    exact congrArg some (by omega)
  · rw [showInt, if_neg hz]
    have hval : ((z.natAbs : ℕ) : ℤ) = z := by omega
    -- nor with `-` when it is not negative
    unfold parseSigned?
    split
    · rename_i s hs
      have hminus : ('-' : Char).isDigit :=
        isDigit_of_mem_showNat (n := z.natAbs) (by simp [hs])
      exact absurd hminus (by decide)
    · rw [parseUnsigned?_showNat, Option.map_some, hval]

theorem unsignedLiteral_showNat (n : ℕ) : UnsignedLiteral (showNat n) n :=
  parseUnsigned?_eq_some_iff.mp (parseUnsigned?_showNat n)

theorem signedLiteral_showInt (z : ℤ) : SignedLiteral (showInt z) z :=
  parseSigned?_eq_some_iff.mp (parseSigned?_showInt z)

theorem noWhitespace_showNat (n : ℕ) : ∀ c ∈ showNat n, isWhitespace c = false :=
  fun _ hc => isWhitespace_of_isDigit (isDigit_of_mem_showNat hc)

theorem noWhitespace_showInt (z : ℤ) : ∀ c ∈ showInt z, isWhitespace c = false := by
  intro c hc
  rcases mem_showInt hc with rfl | hd
  · rfl
  · exact isWhitespace_of_isDigit hd

/-- A printed unsigned integer carries no surrounding whitespace. -/
@[simp] theorem trim_showNat (n : ℕ) : trim (showNat n) = showNat n :=
  trim_of_noWhitespace (noWhitespace_showNat n)

/-- A printed signed integer carries no surrounding whitespace. -/
@[simp] theorem trim_showInt (z : ℤ) : trim (showInt z) = showInt z :=
  trim_of_noWhitespace (noWhitespace_showInt z)

/-- No character other than a digit occurs in a printed unsigned integer. -/
theorem notMem_showNat {c : Char} (h : c.isDigit = false) (n : ℕ) : c ∉ showNat n := by
  intro hc
  rw [isDigit_of_mem_showNat hc] at h
  exact absurd h (by decide)

end RustStd

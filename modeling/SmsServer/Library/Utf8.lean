import SmsServer.Library.Str

/-!
# UTF-8 with replacement

`String::from_utf8_lossy` and `str::from_utf8`. Decoding takes one scalar value at a time;
where none starts, the maximal prefix of a valid sequence is consumed and replaced by U+FFFD,
which is what `Utf8Chunks` of the standard library does. Encoding followed by lossy decoding
is the identity, and an ASCII byte always decodes to itself.
-/

namespace RustStd

/-- The UTF-8 bytes of a text. -/
def encodeUtf8 (s : Str) : List UInt8 := s.flatMap String.utf8EncodeChar

/-- The scalar value whose encoding starts the bytes, if there is one. -/
def decodeChar? (bytes : List UInt8) : Option Char :=
  (ByteArray.mk bytes.toArray).utf8DecodeChar? 0

/-- The second bytes that may follow a first byte, beyond their being continuation bytes:
this excludes overlong forms, surrogates and values above U+10FFFF. -/
def secondByteOk (first second : UInt8) : Bool :=
  (first == 0xE0 && 0xA0 ≤ second && second ≤ 0xBF) ||
  (0xE1 ≤ first && first ≤ 0xEC && 0x80 ≤ second && second ≤ 0xBF) ||
  (first == 0xED && 0x80 ≤ second && second ≤ 0x9F) ||
  (0xEE ≤ first && first ≤ 0xEF && 0x80 ≤ second && second ≤ 0xBF) ||
  (first == 0xF0 && 0x90 ≤ second && second ≤ 0xBF) ||
  (0xF1 ≤ first && first ≤ 0xF3 && 0x80 ≤ second && second ≤ 0xBF) ||
  (first == 0xF4 && 0x80 ≤ second && second ≤ 0x8F)

/-- The number of bytes one replacement character stands for, when no scalar value starts
the bytes. -/
def invalidLength : List UInt8 → ℕ
  | first :: second :: third :: _ =>
    if secondByteOk first second then
      if 0xF0 ≤ first && 0x80 ≤ third && third ≤ 0xBF then 3 else 2
    else 1
  | [first, second] => if secondByteOk first second then 2 else 1
  | _ => 1

/-- One decoding step: the scalar value (`none` where it is invalid) and the bytes it takes. -/
def decodeStep (bytes : List UInt8) : Option Char × ℕ :=
  match decodeChar? bytes with
  | some c => (some c, c.utf8Size)
  | none => (none, invalidLength bytes)

/-- The decoding loop, every step of which consumes at least one byte. -/
def decodeLoop : ℕ → List UInt8 → List (Option Char)
  | 0, _ => []
  | _ + 1, [] => []
  | fuel + 1, bytes =>
    (decodeStep bytes).1 :: decodeLoop fuel (bytes.drop (decodeStep bytes).2)

/-- The scalar values and invalid pieces of a byte string, in order. -/
def utf8Chunks (bytes : List UInt8) : List (Option Char) := decodeLoop bytes.length bytes

/-- `String::from_utf8_lossy`. -/
def fromUtf8Lossy (bytes : List UInt8) : Str :=
  (utf8Chunks bytes).map fun c => c.getD '\uFFFD'

/-- `str::from_utf8`. -/
def fromUtf8 (bytes : List UInt8) : Option Str := (utf8Chunks bytes).mapM id

/-! ### The loop does not depend on its fuel -/

theorem invalidLength_pos (bytes : List UInt8) : 0 < invalidLength bytes := by
  unfold invalidLength
  repeat' split
  all_goals decide

theorem decodeStep_pos (bytes : List UInt8) : 0 < (decodeStep bytes).2 := by
  unfold decodeStep
  split
  · exact Char.utf8Size_pos _
  · exact invalidLength_pos bytes

/-- Enough fuel is as good as any: each step consumes a byte. -/
theorem decodeLoop_eq {fuel fuel' : ℕ} {bytes : List UInt8} (h : bytes.length ≤ fuel)
    (h' : bytes.length ≤ fuel') : decodeLoop fuel bytes = decodeLoop fuel' bytes := by
  induction fuel generalizing fuel' bytes with
  | zero =>
    obtain rfl : bytes = [] := List.length_eq_zero_iff.mp (by omega)
    cases fuel' <;> rfl
  | succ fuel ih =>
    cases bytes with
    | nil => cases fuel' <;> rfl
    | cons b bs =>
      cases fuel' with
      | zero => simp at h'
      | succ fuel' =>
        -- a step takes a byte, so both fuels still suffice for the rest
        have hpos := decodeStep_pos (b :: bs)
        simp only [List.length_cons] at h h'
        rw [decodeLoop, decodeLoop]
        · congr 1
          apply ih <;> simp only [List.length_drop, List.length_cons] <;> omega
        · simp
        · simp

/-! ### Decoding a known first character -/

theorem decodeChar?_encode (c : Char) (rest : List UInt8) :
    decodeChar? (String.utf8EncodeChar c ++ rest) = some c := by
  have h := ByteArray.utf8DecodeChar?_utf8EncodeChar_append (b := rest.toByteArray) (c := c)
  rw [← List.toByteArray_append] at h
  rw [decodeChar?, ← h]
  congr 1
  ext1
  simp

theorem utf8Chunks_encode (c : Char) (rest : List UInt8) :
    utf8Chunks (String.utf8EncodeChar c ++ rest) = some c :: utf8Chunks rest := by
  have hstep : decodeStep (String.utf8EncodeChar c ++ rest) = (some c, c.utf8Size) := by
    rw [decodeStep, decodeChar?_encode]
  have hlen : (String.utf8EncodeChar c).length = c.utf8Size := String.length_utf8EncodeChar c
  have hdrop : (String.utf8EncodeChar c ++ rest).drop c.utf8Size = rest := by
    rw [← hlen, List.drop_left]
  obtain ⟨b, bs, hb⟩ : ∃ b bs, String.utf8EncodeChar c = b :: bs := by
    refine List.exists_cons_of_length_pos ?_
    rw [hlen]
    exact c.utf8Size_pos
  rw [hb, List.cons_append] at hstep hdrop ⊢
  rw [utf8Chunks, List.length_cons, decodeLoop, hstep, hdrop]
  · congr 1
    exact decodeLoop_eq (by simp) le_rfl
  · simp

/-- An ASCII byte decodes to itself, whatever follows. -/
theorem utf8Chunks_ascii {b : UInt8} (hb : b < 0x80) (rest : List UInt8) :
    utf8Chunks (b :: rest) = some (Char.ofNat b.toNat) :: utf8Chunks rest := by
  have hlt : b.toNat < 128 := hb
  have hvalid : b.toNat.isValidChar := .inl (by omega)
  have hval : (Char.ofNat b.toNat).toNat = b.toNat := by
    rw [Char.ofNat, dif_pos hvalid]
    rfl
  have hone : (Char.ofNat b.toNat).utf8Size = 1 := by
    rw [Char.utf8Size_eq_one_iff, UInt32.le_iff_toNat_le]
    change (Char.ofNat b.toNat).toNat ≤ 127
    omega
  have hencode : String.utf8EncodeChar (Char.ofNat b.toNat) = [b] := by
    rw [String.utf8EncodeChar_eq_singleton hone]
    congr 1
    apply UInt8.toNat_inj.mp
    rw [UInt32.toNat_toUInt8]
    change (Char.ofNat b.toNat).toNat % 256 = b.toNat
    omega
  have h := utf8Chunks_encode (Char.ofNat b.toNat) rest
  rwa [hencode, List.singleton_append] at h

/-! ### Lossy decoding -/

@[simp] theorem fromUtf8Lossy_nil : fromUtf8Lossy [] = [] := rfl

theorem fromUtf8Lossy_ascii {b : UInt8} (hb : b < 0x80) (rest : List UInt8) :
    fromUtf8Lossy (b :: rest) = Char.ofNat b.toNat :: fromUtf8Lossy rest := by
  rw [fromUtf8Lossy, utf8Chunks_ascii hb, List.map_cons, Option.getD_some, fromUtf8Lossy]

/-- A decoded scalar value was encoded at the start of the bytes. -/
theorem exists_of_decodeChar?_eq_some {bytes : List UInt8} {c : Char}
    (h : decodeChar? bytes = some c) : ∃ rest, bytes = String.utf8EncodeChar c ++ rest := by
  obtain ⟨rest, hrest⟩ := ByteArray.exists_of_utf8DecodeChar?_eq_some h
  refine ⟨rest.data.toList, ?_⟩
  have hbytes := congrArg (fun b : ByteArray => b.data.toList) hrest
  simpa using hbytes

/-- An ASCII character of the decoded text is one of the bytes. -/
theorem mem_of_mem_fromUtf8Lossy {bytes : List UInt8} {c : Char} (hc : c.toNat < 128)
    (h : c ∈ fromUtf8Lossy bytes) : c.toNat.toUInt8 ∈ bytes := by
  obtain ⟨chunk, hchunk, rfl⟩ := List.mem_map.mp h
  rw [utf8Chunks] at hchunk
  clear h
  generalize bytes.length = fuel at hchunk
  induction fuel generalizing bytes with
  | zero => cases hchunk
  | succ fuel ih =>
    cases bytes with
    | nil => cases hchunk
    | cons b bs =>
      rw [decodeLoop, List.mem_cons] at hchunk
      · rcases hchunk with rfl | hchunk
        · cases hdecode : decodeChar? (b :: bs) with
          | none =>
            -- the replacement character is not ASCII
            simp only [decodeStep, hdecode, Option.getD_none] at hc
            exact absurd hc (by decide)
          | some c =>
            simp only [decodeStep, hdecode, Option.getD_some] at hc ⊢
            obtain ⟨rest, hrest⟩ := exists_of_decodeChar?_eq_some hdecode
            have hsize : c.utf8Size = 1 := by
              rw [Char.utf8Size_eq_one_iff, UInt32.le_iff_toNat_le]
              exact Nat.le_of_lt_succ hc
            rw [hrest, String.utf8EncodeChar_eq_singleton hsize]
            exact List.mem_cons_self
        · exact List.mem_of_mem_drop (ih hchunk)
      · simp

/-- An encoded text decodes to its characters. -/
theorem utf8Chunks_encodeUtf8 (s : Str) : utf8Chunks (encodeUtf8 s) = s.map some := by
  induction s with
  | nil => rfl
  | cons c s ih =>
    have hcons : encodeUtf8 (c :: s) = String.utf8EncodeChar c ++ encodeUtf8 s := by
      simp [encodeUtf8]
    rw [hcons, utf8Chunks_encode, ih, List.map_cons]

/-- **Round trip**: decoding undoes encoding. -/
@[simp] theorem fromUtf8_encodeUtf8 (s : Str) : fromUtf8 (encodeUtf8 s) = some s := by
  rw [fromUtf8, utf8Chunks_encodeUtf8, List.mapM_map]
  exact List.mapM_pure.trans (congrArg some s.map_id)

/-- **Round trip**: lossy decoding undoes encoding. -/
@[simp] theorem fromUtf8Lossy_encodeUtf8 (s : Str) : fromUtf8Lossy (encodeUtf8 s) = s := by
  rw [fromUtf8Lossy, utf8Chunks_encodeUtf8, List.map_map]
  exact s.map_id

/-- On valid UTF-8 the strict and the lossy decoder agree. -/
theorem fromUtf8Lossy_of_fromUtf8 {bytes : List UInt8} {s : Str} (h : fromUtf8 bytes = some s) :
    fromUtf8Lossy bytes = s := by
  rw [fromUtf8] at h
  rw [fromUtf8Lossy]
  generalize utf8Chunks bytes = chunks at h ⊢
  induction chunks generalizing s with
  | nil =>
    obtain rfl : [] = s := by simpa using h
    rfl
  | cons c cs ih =>
    rw [List.mapM_cons] at h
    obtain ⟨d, hd, h⟩ := Option.bind_eq_some_iff.mp h
    obtain ⟨ds, hds, h⟩ := Option.bind_eq_some_iff.mp h
    obtain rfl : d :: ds = s := by simpa using h
    obtain rfl : c = some d := hd
    rw [List.map_cons, Option.getD_some, ih hds]

/-- A byte below 0x80 only occurs in an encoding as the ASCII character it stands for. -/
theorem toNat_of_mem_utf8EncodeChar {c : Char} {b : UInt8} (hb : b < 0x80)
    (h : b ∈ String.utf8EncodeChar c) : c.toNat = b.toNat := by
  -- every byte of a longer encoding has its high bit set
  have hor {x y : UInt8} (hy : 0x80 ≤ y) (hxy : b = x ||| y) : False := by
    have hle : y ≤ x ||| y := UInt8.right_le_or
    have h1 : b.toNat < 128 := hb
    have h2 : 128 ≤ y.toNat := hy
    have h3 : y.toNat ≤ (x ||| y).toNat := hle
    rw [← hxy] at h3
    omega
  rcases c.utf8Size_eq with hc | hc | hc | hc
  · rw [String.utf8EncodeChar_eq_singleton hc, List.mem_singleton] at h
    have hle : c.val.toNat ≤ 127 := Char.utf8Size_eq_one_iff.mp hc
    rw [h, UInt32.toNat_toUInt8]
    change c.toNat = c.toNat % 256
    have : c.toNat = c.val.toNat := rfl
    omega
  · rw [String.utf8EncodeChar_eq_cons_cons hc] at h
    simp only [List.mem_cons, List.not_mem_nil, or_false] at h
    rcases h with h | h <;> exact (hor (by decide) h).elim
  · rw [String.utf8EncodeChar_eq_cons_cons_cons hc] at h
    simp only [List.mem_cons, List.not_mem_nil, or_false] at h
    rcases h with h | h | h <;> exact (hor (by decide) h).elim
  · rw [String.utf8EncodeChar_eq_cons_cons_cons_cons hc] at h
    simp only [List.mem_cons, List.not_mem_nil, or_false] at h
    rcases h with h | h | h | h <;> exact (hor (by decide) h).elim

/-- An ASCII byte of an encoded text is one of the text's characters. -/
theorem mem_of_mem_encodeUtf8 {s : Str} {b : UInt8} (hb : b < 0x80) (h : b ∈ encodeUtf8 s) :
    Char.ofNat b.toNat ∈ s := by
  obtain ⟨c, hc, hbc⟩ := List.mem_flatMap.mp h
  rwa [← toNat_of_mem_utf8EncodeChar hb hbc, Char.ofNat_toNat]

/-- Encoding is compatible with concatenation. -/
theorem encodeUtf8_append (s t : Str) : encodeUtf8 (s ++ t) = encodeUtf8 s ++ encodeUtf8 t := by
  simp [encodeUtf8]

end RustStd

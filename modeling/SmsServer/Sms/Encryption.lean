import SmsServer.Library.Utf8

/-!
# Encryption of message contents

`sms/encryption.rs`: a content is stored as the base64 text of its nonce and its ciphertext. The
cipher and the base64 engine come from other crates; what they promise is part of `AesGcm` and
`Base64`.
-/

namespace SmsServer

open RustStd

/-- The bytes of a 96-bit nonce. -/
structure Nonce where
  bytes : List UInt8
  length_bytes : bytes.length = 12
  deriving DecidableEq, Repr

def Nonce.zeros : Nonce := ⟨List.replicate 12 0, rfl⟩

/-- `Aes256Gcm` with its key: decryption with the same nonce undoes encryption. -/
structure AesGcm where
  encrypt : Nonce → List UInt8 → Except Str (List UInt8)
  decrypt : Nonce → List UInt8 → Except Str (List UInt8)
  decrypt_of_encrypt : ∀ {nonce plaintext ciphertext}, encrypt nonce plaintext = .ok ciphertext →
    decrypt nonce ciphertext = .ok plaintext

/-- `general_purpose::STANDARD`: decoding undoes encoding. -/
structure Base64 where
  encode : List UInt8 → Str
  decode : Str → Except Str (List UInt8)
  decode_encode : ∀ bytes, decode (encode bytes) = .ok bytes

structure SMSEncryption where
  cipher : AesGcm
  standard : Base64

namespace SMSEncryption

variable {self : SMSEncryption}

/-- `encrypt`, with the nonce that it draws. -/
def encrypt (self : SMSEncryption) (nonce : Nonce) (plaintext : Str) : Except Str Str := do
  let ciphertext ← self.cipher.encrypt nonce (encodeUtf8 plaintext)
  return self.standard.encode (nonce.bytes ++ ciphertext)

def decrypt (self : SMSEncryption) (encryptedData : Str) : Except Str Str := do
  let encryptedBytes ← self.standard.decode encryptedData
  if h : encryptedBytes.length < 12 then .error "Invalid encrypted data length".toList
  else
    let nonce : Nonce :=
      { bytes := encryptedBytes.take 12
        length_bytes := List.length_take_of_le (not_lt.mp h) }
    let plaintext ← self.cipher.decrypt nonce (encryptedBytes.drop 12)
    match fromUtf8 plaintext with
    | some content => .ok content
    | none => .error "UTF-8 conversion failed".toList

/-- **Round trip.** What was encrypted decrypts to the content. -/
theorem decrypt_of_encrypt {nonce : Nonce} {plaintext encryptedData : Str}
    (h : self.encrypt nonce plaintext = .ok encryptedData) :
    self.decrypt encryptedData = .ok plaintext := by
  unfold encrypt at h
  cases hcipher : self.cipher.encrypt nonce (encodeUtf8 plaintext) with
  | error e =>
    rw [hcipher] at h
    cases h
  | ok ciphertext =>
    rw [hcipher] at h
    obtain rfl := Except.ok.inj h
    have hlength : ¬ (nonce.bytes ++ ciphertext).length < 12 := by
      simp [nonce.length_bytes]
    have htake : (nonce.bytes ++ ciphertext).take 12 = nonce.bytes :=
      List.take_left' nonce.length_bytes
    have hdrop : (nonce.bytes ++ ciphertext).drop 12 = ciphertext :=
      List.drop_left' nonce.length_bytes
    simp only [decrypt, self.standard.decode_encode, bind, Except.bind, hlength, dite_false, htake,
      hdrop, self.cipher.decrypt_of_encrypt hcipher, fromUtf8_encodeUtf8]

/-! ### A concrete key -/

/-- "Hi" under the key and the nonce of zeros. -/
def sealedHi : List UInt8 :=
  [134, 206, 13, 100, 195, 79, 237, 89, 101, 103, 242, 122, 182, 119, 157, 81, 160, 136]

def encodedHi : Str := "AAAAAAAAAAAAAAAAhs4NZMNP7VllZ/J6tnedUaCI".toList

/-- The key of zeros, for runs that encrypt "Hi" with the nonce of zeros. -/
def ofZeros : SMSEncryption where
  cipher :=
    { encrypt := fun nonce plaintext =>
        if nonce = .zeros ∧ plaintext = encodeUtf8 "Hi".toList then .ok sealedHi
        else .error "aead::Error".toList
      decrypt := fun nonce ciphertext =>
        if nonce = .zeros ∧ ciphertext = sealedHi then .ok (encodeUtf8 "Hi".toList)
        else .error "aead::Error".toList
      decrypt_of_encrypt := by
        intro nonce plaintext ciphertext h
        split at h
        · next hhi => rw [if_pos ⟨hhi.1, (Except.ok.inj h).symm⟩, hhi.2]
        · cases h }
  standard :=
    { encode := fun bytes =>
        if bytes = Nonce.zeros.bytes ++ sealedHi then encodedHi
        else '!' :: bytes.map fun b => Char.ofNat b.toNat
      decode := fun
        | '!' :: text => .ok (text.map fun c => UInt8.ofNat c.toNat)
        | _ => .ok (Nonce.zeros.bytes ++ sealedHi)
      decode_encode := by
        intro bytes
        by_cases hhi : bytes = Nonce.zeros.bytes ++ sealedHi
        · have hhead : encodedHi = 'A' :: encodedHi.tail := by decide +kernel
          rw [if_pos hhi, hhi, hhead]
          rfl
        · have hchar : ∀ n < 256, (Char.ofNat n).toNat = n := by decide +kernel
          have hbyte : ∀ b : UInt8, UInt8.ofNat (Char.ofNat b.toNat).toNat = b := fun b => by
            rw [hchar _ b.toNat_lt, UInt8.ofNat_toNat]
          simp only [hhi, if_false, List.map_map, Function.comp_def, hbyte, List.map_id'] }

end SMSEncryption

end SmsServer

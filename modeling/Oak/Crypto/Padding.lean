import Oak.Data.Checked
import Oak.Crypto.Transparent

namespace Oak.Crypto.Padding

open Oak.Data Oak.Data.Outcome

/-! The padding of `aes_gcm_256_encrypt` and its removal, in the arithmetic of `usize` and with every
index into the buffer.  `Crypter` has the same functions over the natural numbers. -/

def usizeBits : Nat := 64

def additionalTagSpace : Nat := 32

def paddedEncryptData (plaintext : Bytes) : Outcome NoiseError Bytes := do
  let size := plaintext.length
  if size > 1 <<< 28 then .err (.dataTooLarge size)
  else do
    let paddedSize ← Checked.add usizeBits size 1
    let paddedSize ← Checked.add usizeBits paddedSize paddingGranularity
    let paddedSize ← Checked.sub paddedSize 1
    let granules ← Checked.sub paddingGranularity 1
    let paddedSize := paddedSize &&& Checked.complement usizeBits granules
    let _ ← Checked.add usizeBits paddedSize additionalTagSpace
    let padded := Checked.resize plaintext paddedSize 0
    let numZeros ← Checked.sub paddedSize size
    let numZeros ← Checked.sub numZeros 1
    let last ← Checked.sub paddedSize 1
    Checked.assign padded last (UInt8.ofNat numZeros)

def aesGcm256Encrypt (crypto : Primitives) (key : Key) (nonce : NonceBytes) (plaintext : Bytes) :
    Outcome NoiseError Bytes := do
  let padded ← paddedEncryptData plaintext
  return crypto.encryptInPlace key nonce [] padded

def lastByte (plaintext : Bytes) : Outcome NoiseError UInt8 := do
  let last ← Checked.sub plaintext.length 1
  Checked.index plaintext last

/-- The second half of `aes_gcm_256_decrypt`, on the opened buffer. -/
def stripPadding (plaintext : Bytes) : Outcome NoiseError Bytes :=
  if plaintext.isEmpty then .err .decryptionPadding
  else do
    let tested ← lastByte plaintext
    if tested.toNat ≥ plaintext.length then .err .decryptionPadding
    else do
      let last ← lastByte plaintext
      let unpaddedLength ← Checked.sub plaintext.length last.toNat
      let kept ← Checked.sub unpaddedLength 1
      return plaintext.take kept

def aesGcm256Decrypt (crypto : Primitives) (key : Key) (nonce : NonceBytes) (ciphertext : Bytes) :
    Outcome NoiseError Bytes :=
  match crypto.decryptInPlace key nonce [] ciphertext with
  | none => .err .decryptFailed
  | some plaintext => stripPadding plaintext

theorem paddedSize_eq_land {size : Nat} (fits : size ≤ maxPlaintext) :
    (size + 1 + paddingGranularity - 1) &&& Checked.complement usizeBits (paddingGranularity - 1) =
      paddedSize size := by
  have small : size + 1 + paddingGranularity - 1 < 2 ^ usizeBits := by
    simp only [maxPlaintext, paddingGranularity, usizeBits] at *
    omega
  exact @Checked.land_complement usizeBits 5 _ small (by decide)

/-- Up to the limit no step of the padding overflows, and the buffer is the one of `Crypter`. -/
theorem paddedEncryptData_of_le {plaintext : Bytes} (fits : plaintext.length ≤ maxPlaintext) :
    paddedEncryptData plaintext = .ok (padPlaintext plaintext) := by
  have bounds := paddedSize_bounds plaintext.length
  have limit : ¬ plaintext.length > 1 <<< 28 := Nat.not_lt.mpr fits
  have wide : plaintext.length + 100 < 2 ^ usizeBits := by
    simp only [usizeBits] at *
    omega
  have grown : plaintext.length + 1 + paddingGranularity < 2 ^ usizeBits := by
    simp only [paddingGranularity]
    omega
  have inside : paddedSize plaintext.length - 1 <
      (Checked.resize plaintext (paddedSize plaintext.length) 0).length := by
    rw [Checked.resize_of_le bounds.1.le, List.length_append, List.length_replicate]
    omega
  have capacity : paddedSize plaintext.length + additionalTagSpace < 2 ^ usizeBits := by
    simp only [additionalTagSpace]
    omega
  rw [paddedEncryptData, if_neg limit, Checked.add_of_lt (by omega), ok_bind,
    Checked.add_of_lt grown, ok_bind, Checked.sub_of_le (by omega), ok_bind,
    Checked.sub_of_le (by decide), ok_bind, paddedSize_eq_land fits]
  dsimp only
  rw [Checked.add_of_lt capacity, ok_bind, Checked.sub_of_le bounds.1.le, ok_bind,
    Checked.sub_of_le (by omega), ok_bind, Checked.sub_of_le (by omega), ok_bind,
    Checked.assign_of_lt inside, Checked.resize_of_le bounds.1.le, padPlaintext]

theorem aesGcm256Encrypt_eq (crypto : Primitives) (key : Key) (nonce : NonceBytes) (plaintext : Bytes) :
    aesGcm256Encrypt crypto key nonce plaintext =
      returned (Crypto.aesGcm256Encrypt crypto key nonce plaintext) := by
  unfold aesGcm256Encrypt Crypto.aesGcm256Encrypt
  by_cases fits : plaintext.length ≤ maxPlaintext
  · rw [paddedEncryptData_of_le fits, if_neg (Nat.not_lt.mpr fits)]
    rfl
  · have long : plaintext.length > 1 <<< 28 := Nat.lt_of_not_le fits
    rw [paddedEncryptData, if_pos long, if_pos (Nat.lt_of_not_le fits)]
    rfl

theorem lastByte_of_getLast? {plaintext : Bytes} {last : UInt8}
    (found : plaintext.getLast? = some last) : lastByte plaintext = .ok last := by
  have nonempty : 1 ≤ plaintext.length := by
    cases plaintext with
    | nil => cases found
    | cons first rest => simp
  rw [lastByte, Checked.sub_of_le nonempty]
  apply Checked.index_of_eq
  rw [← List.getLast?_eq_getElem?, found]

theorem stripPadding_eq (plaintext : Bytes) :
    stripPadding plaintext = returned (unpadPlaintext plaintext) := by
  unfold stripPadding unpadPlaintext
  cases found : plaintext.getLast? with
  | none =>
    rw [List.getLast?_eq_none_iff.mp found]
    rfl
  | some last =>
    have nonempty : ¬ plaintext.isEmpty = true := by
      cases plaintext with
      | nil => cases found
      | cons first rest => simp
    rw [if_neg nonempty, lastByte_of_getLast? found]
    by_cases large : last.toNat ≥ plaintext.length
    · simp only [ok_bind, if_pos large]
      rfl
    · simp only [ok_bind, if_neg large]
      rw [Checked.sub_of_le (by omega), ok_bind, Checked.sub_of_le (by omega)]
      rfl

theorem aesGcm256Decrypt_eq (crypto : Primitives) (key : Key) (nonce : NonceBytes) (ciphertext : Bytes) :
    aesGcm256Decrypt crypto key nonce ciphertext =
      returned (Crypto.aesGcm256Decrypt crypto key nonce ciphertext) := by
  unfold aesGcm256Decrypt Crypto.aesGcm256Decrypt
  cases crypto.decryptInPlace key nonce [] ciphertext with
  | none => rfl
  | some plaintext => exact stripPadding_eq plaintext

theorem paddingGranularity_dvd_paddedSize (size : Nat) : paddingGranularity ∣ paddedSize size :=
  Nat.dvd_mul_left _ _

theorem length_padPlaintext (plaintext : Bytes) :
    (padPlaintext plaintext).length = paddedSize plaintext.length := by
  have bounds := paddedSize_bounds plaintext.length
  rw [padPlaintext_eq]
  simp only [List.length_append, List.length_replicate, List.length_singleton]
  omega

theorem padding_inverted (crypto : Primitives) (opens : crypto.OpensSealed) (key : Key)
    (nonce : NonceBytes) : (∀ plaintext : Bytes, plaintext.length ≤ maxPlaintext →
      ∃ padded ciphertext, paddedEncryptData plaintext = .ok padded ∧
        paddingGranularity ∣ padded.length ∧ plaintext.length < padded.length ∧
        padded.length ≤ plaintext.length + paddingGranularity ∧
        aesGcm256Encrypt crypto key nonce plaintext = .ok ciphertext ∧
        aesGcm256Decrypt crypto key nonce ciphertext = .ok plaintext) ∧
    ∀ ciphertext, ¬ (aesGcm256Decrypt crypto key nonce ciphertext).IsPanic := by
  constructor
  · intro plaintext fits
    have bounds := paddedSize_bounds plaintext.length
    have encrypted : Crypto.aesGcm256Encrypt crypto key nonce plaintext =
        .ok (crypto.encryptInPlace key nonce [] (padPlaintext plaintext)) :=
      Crypto.aesGcm256Encrypt_eq_ok.mpr ⟨fits, rfl⟩
    refine ⟨padPlaintext plaintext, _, paddedEncryptData_of_le fits, ?_, ?_, ?_,
      (aesGcm256Encrypt_eq ..).trans (congrArg returned encrypted), ?_⟩
    · rw [length_padPlaintext]
      exact paddingGranularity_dvd_paddedSize _
    · rw [length_padPlaintext]
      exact bounds.1
    · rw [length_padPlaintext]
      exact bounds.2
    · rw [aesGcm256Decrypt_eq, Crypto.aesGcm256Decrypt, opens]
      exact congrArg returned (unpadPlaintext_padPlaintext plaintext)
  · intro ciphertext
    rw [aesGcm256Decrypt_eq]
    cases Crypto.aesGcm256Decrypt crypto key nonce ciphertext with
    | ok | error => exact id

theorem zeros_inverted :
    ∃ ciphertext, aesGcm256Encrypt Primitives.transparent (Block.zero 32) (Block.zero 12)
        (List.replicate 64 0) = .ok ciphertext ∧
      aesGcm256Decrypt Primitives.transparent (Block.zero 32) (Block.zero 12) ciphertext =
        .ok (List.replicate 64 0) := by
  obtain ⟨_, ciphertext, -, -, -, -, encrypted, decrypted⟩ :=
    (padding_inverted _ Transparent.opensSealed (Block.zero 32) (Block.zero 12)).1
      (List.replicate 64 0) (by decide)
  exact ⟨ciphertext, encrypted, decrypted⟩

end Oak.Crypto.Padding

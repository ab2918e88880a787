import Mathlib.Data.Finset.Filter
import Mathlib.Data.Finset.Insert
import Oak.Crypto.Noise

namespace Oak.Crypto

open Oak.Data

/-! The traffic crypters of `noise_handshake/mod.rs`: padding, nonces, and the
ordered and unordered crypters. -/

def maxSequence : UInt32 := 16777216

structure Nonce where
  nonce : UInt32
deriving Repr, DecidableEq

variable {nonce : NonceBytes}

namespace Nonce

def encode (value : UInt32) : NonceBytes :=
  ⟨List.replicate 8 0 ++ toBeBytes value, by simp⟩

def nextNonce (counter : Nonce) : Except NoiseError NonceBytes × Nonce :=
  if counter.nonce > maxSequence then (.error .decryptFailed, counter)
  else (.ok (encode counter.nonce), ⟨counter.nonce + 1⟩)

def getNonceValue (nonce : NonceBytes) : Except NoiseError UInt32 :=
  if nonce.toList.take 8 = List.replicate 8 0 then .ok (fromBeBytes (nonce.toList.drop 8))
  else .error .invalidNonce

theorem getNonceValue_encode (value : UInt32) : getNonceValue (encode value) = .ok value := by
  have shape : (encode value).toList = List.replicate 8 0 ++ toBeBytes value := rfl
  have zeros : (encode value).toList.take 8 = List.replicate 8 0 := by simp [shape]
  have digits : (encode value).toList.drop 8 = toBeBytes value := by simp [shape]
  simp [getNonceValue, zeros, digits]

theorem getNonceValue_error {reason : NoiseError}
    (failed : getNonceValue nonce = .error reason) : reason = .invalidNonce := by
  unfold getNonceValue at failed
  split at failed
  · contradiction
  · exact (Except.error.inj failed).symm

theorem encode_getNonceValue {value : UInt32}
    (decoded : getNonceValue nonce = .ok value) : encode value = nonce := by
  unfold getNonceValue at decoded
  split at decoded
  · rename_i zeros
    have digits : toBeBytes value = nonce.toList.drop 8 := by
      rw [← Except.ok.inj decoded]
      exact toBeBytes_fromBeBytes (by simp)
    apply List.Vector.toList_injective
    change List.replicate 8 0 ++ toBeBytes value = nonce.toList
    rw [digits, ← zeros, List.take_append_drop]
  · contradiction

theorem encode_injective {first second : UInt32} (same : encode first = encode second) :
    first = second := by
  have values := congrArg getNonceValue same
  simpa only [getNonceValue_encode, Except.ok.injEq] using values

end Nonce

def paddingGranularity : Nat := 32

/-- The largest plaintext `aes_gcm_256_encrypt` accepts. -/
def maxPlaintext : Nat := 2 ^ 28

def paddedSize (size : Nat) : Nat :=
  (size + 1 + paddingGranularity - 1) / paddingGranularity * paddingGranularity

def padPlaintext (plaintext : Bytes) : Bytes :=
  let padded := paddedSize plaintext.length
  let numZeros := padded - plaintext.length - 1
  (plaintext ++ List.replicate (padded - plaintext.length) 0).set (padded - 1)
    (UInt8.ofNat numZeros)

def unpadPlaintext (padded : Bytes) : Except NoiseError Bytes :=
  match padded.getLast? with
  | none => .error .decryptionPadding
  | some last =>
    if last.toNat ≥ padded.length then .error .decryptionPadding
    else .ok (padded.take (padded.length - last.toNat - 1))

theorem paddedSize_bounds (size : Nat) : size < paddedSize size ∧ paddedSize size ≤ size + 32 := by
  simp only [paddedSize, paddingGranularity]
  omega

theorem padPlaintext_eq (plaintext : Bytes) : padPlaintext plaintext =
      plaintext ++ List.replicate (paddedSize plaintext.length - plaintext.length - 1) 0 ++
        [UInt8.ofNat (paddedSize plaintext.length - plaintext.length - 1)] := by
  have bounds := paddedSize_bounds plaintext.length
  have zeros : paddedSize plaintext.length - plaintext.length =
      paddedSize plaintext.length - plaintext.length - 1 + 1 := by omega
  have position : paddedSize plaintext.length - 1 = (plaintext ++ List.replicate
      (paddedSize plaintext.length - plaintext.length - 1) (0 : UInt8)).length := by
    simp
    omega
  simp only [padPlaintext]
  rw [zeros, List.replicate_succ', position]
  simp

theorem unpadPlaintext_padPlaintext (plaintext : Bytes) :
    unpadPlaintext (padPlaintext plaintext) = .ok plaintext := by
  have bounds := paddedSize_bounds plaintext.length
  generalize count : paddedSize plaintext.length - plaintext.length - 1 = zeros
  have small : (UInt8.ofNat zeros).toNat = zeros := by
    rw [UInt8.toNat_ofNat']
    omega
  have length : (plaintext ++ List.replicate zeros (0 : UInt8) ++ [UInt8.ofNat zeros]).length =
      plaintext.length + zeros + 1 := by
    simp
    omega
  have fits : ¬ zeros ≥ plaintext.length + zeros + 1 := by omega
  have kept : plaintext.length = plaintext.length + zeros + 1 - zeros - 1 := by omega
  rw [padPlaintext_eq, count]
  simp only [unpadPlaintext, List.getLast?_concat, length, small, fits, ↓reduceIte]
  rw [List.append_assoc, List.take_left' kept]

def aesGcm256Encrypt (crypto : Primitives) (key : Key) (nonce : NonceBytes)
    (plaintext : Bytes) : Except NoiseError Bytes :=
  if plaintext.length > maxPlaintext then .error (.dataTooLarge plaintext.length)
  else .ok (crypto.encryptInPlace key nonce [] (padPlaintext plaintext))

def aesGcm256Decrypt (crypto : Primitives) (key : Key) (nonce : NonceBytes)
    (ciphertext : Bytes) : Except NoiseError Bytes :=
  match crypto.decryptInPlace key nonce [] ciphertext with
  | none => .error .decryptFailed
  | some padded => unpadPlaintext padded

theorem aesGcm256Encrypt_eq_ok {crypto : Primitives} {key : Key}
    {plaintext ciphertext : Bytes} : aesGcm256Encrypt crypto key nonce plaintext = .ok ciphertext ↔
      plaintext.length ≤ maxPlaintext ∧
        crypto.encryptInPlace key nonce [] (padPlaintext plaintext) = ciphertext := by
  unfold aesGcm256Encrypt
  split
  · simp; omega
  · simp; omega

theorem aesGcm256Decrypt_encrypt {crypto : Primitives} (opens : crypto.OpensSealed) {key : Key} {plaintext ciphertext : Bytes}
    (encrypted : aesGcm256Encrypt crypto key nonce plaintext = .ok ciphertext) :
    aesGcm256Decrypt crypto key nonce ciphertext = .ok plaintext := by
  obtain ⟨_, rfl⟩ := aesGcm256Encrypt_eq_ok.mp encrypted
  simp only [aesGcm256Decrypt, opens key nonce, unpadPlaintext_padPlaintext]

structure OrderedCrypter where
  readKey : Key
  writeKey : Key
  readNonce : Nonce
  writeNonce : Nonce
deriving DecidableEq

namespace OrderedCrypter

def new (readKey writeKey : Key) : OrderedCrypter where
  readKey := readKey
  writeKey := writeKey
  readNonce := ⟨0⟩
  writeNonce := ⟨0⟩

variable (crypto : Primitives)

/-- The nonce is consumed before the size of the plaintext is checked. -/
def encrypt (crypter : OrderedCrypter) (plaintext : Bytes) :
    Except NoiseError Bytes × OrderedCrypter :=
  match crypter.writeNonce.nextNonce with
  | (.error reason, writeNonce) => (.error reason, { crypter with writeNonce })
  | (.ok nonce, writeNonce) =>
    (aesGcm256Encrypt crypto crypter.writeKey nonce plaintext, { crypter with writeNonce })

def decrypt (crypter : OrderedCrypter) (ciphertext : Bytes) :
    Except NoiseError Bytes × OrderedCrypter :=
  match crypter.readNonce.nextNonce with
  | (.error reason, readNonce) => (.error reason, { crypter with readNonce })
  | (.ok nonce, readNonce) =>
    (aesGcm256Decrypt crypto crypter.readKey nonce ciphertext, { crypter with readNonce })

end OrderedCrypter

structure UnorderedCrypter where
  readKey : Key
  writeKey : Key
  writeNonce : Nonce
  furthestReadNonce : UInt32
  windowSize : UInt32
  bufferedReadNonces : Finset UInt32
deriving DecidableEq

namespace UnorderedCrypter

def new (readKey writeKey : Key) (windowSize : UInt32) : UnorderedCrypter where
  readKey := readKey
  writeKey := writeKey
  writeNonce := ⟨1⟩
  furthestReadNonce := 0
  windowSize := windowSize
  bufferedReadNonces := ∅

/-- `u32` addition, which panics on overflow. -/
def checkedIncrement (value : UInt32) : Outcome NoiseError UInt32 :=
  if value.toNat + 1 < 2 ^ 32 then .ok (value + 1) else .panic "attempt to add with overflow"

def getLowestAcceptableReadNonce (crypter : UnorderedCrypter) : Outcome NoiseError UInt32 :=
  if crypter.furthestReadNonce > crypter.windowSize then
    checkedIncrement (crypter.furthestReadNonce - crypter.windowSize)
  else .ok 1

variable (crypto : Primitives)

def encrypt (crypter : UnorderedCrypter) (plaintext : Bytes) :
    Except NoiseError (Bytes × Bytes) × UnorderedCrypter :=
  match crypter.writeNonce.nextNonce with
  | (.error reason, writeNonce) => (.error reason, { crypter with writeNonce })
  | (.ok nonce, writeNonce) =>
    match aesGcm256Encrypt crypto crypter.writeKey nonce plaintext with
    | .error reason => (.error reason, { crypter with writeNonce })
    | .ok encryptedMessage => (.ok (encryptedMessage, nonce.toList), { crypter with writeNonce })

/-- The window part of `decrypt`: check a nonce against the window and record
it.  A panic leaves what was assigned before it. -/
def acceptNonce (crypter : UnorderedCrypter) (nonceValue : UInt32) :
    Outcome NoiseError Unit × UnorderedCrypter :=
  match crypter.getLowestAcceptableReadNonce with
  | .error fault => (.error fault, crypter)
  | .ok lowestAcceptableNonce =>
    if nonceValue < lowestAcceptableNonce then (.err .invalidNonce, crypter)
    else if nonceValue ≤ crypter.furthestReadNonce then
      if nonceValue ∈ crypter.bufferedReadNonces then (.err .replayedNonce, crypter)
      else
        (.ok (), { crypter with
          bufferedReadNonces := insert nonceValue crypter.bufferedReadNonces })
    else
      let advanced := { crypter with furthestReadNonce := nonceValue }
      match advanced.getLowestAcceptableReadNonce with
      | .error fault => (.error fault, advanced)
      | .ok newLowestAcceptableNonce =>
        (.ok (), { advanced with
          bufferedReadNonces := insert nonceValue
            (advanced.bufferedReadNonces.filter (newLowestAcceptableNonce ≤ ·)) })

/-- The window is updated before the ciphertext is opened. -/
def decrypt (crypter : UnorderedCrypter) (nonce : NonceBytes) (ciphertext : Bytes) :
    Outcome NoiseError Bytes × UnorderedCrypter :=
  match Nonce.getNonceValue nonce with
  | .error reason => (.err reason, crypter)
  | .ok nonceValue =>
    match crypter.acceptNonce nonceValue with
    | (.error fault, next) => (.error fault, next)
    | (.ok (), next) =>
      (Outcome.returned (aesGcm256Decrypt crypto next.readKey nonce ciphertext), next)

end UnorderedCrypter

end Oak.Crypto

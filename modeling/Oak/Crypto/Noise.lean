import Oak.Crypto.Primitives

namespace Oak.Crypto

open Oak.Data

/-! The symmetric state of a Noise handshake, from `noise.rs`. -/

/-- `noise_handshake::error::Error`. -/
inductive NoiseError where
  | dataTooLarge (size : Nat)
  | decryptFailed
  | decryptionPadding
  | ecdhFailed
  | emptyPlaintext
  | invalidHandshake
  | invalidNonce
  | invalidPrivateKey
  | invalidPublicKey
  | missingPeerPublicKey
  | replayedNonce
  | unknown (text : String)
deriving Repr, DecidableEq

/-- The derived `Debug` text of an error. -/
def NoiseError.debug : NoiseError → String
  | .dataTooLarge size => s!"DataTooLarge({size})"
  | .decryptFailed => "DecryptFailed"
  | .decryptionPadding => "DecryptionPadding"
  | .ecdhFailed => "EcdhFailed"
  | .emptyPlaintext => "EmptyPlaintext"
  | .invalidHandshake => "InvalidHandshake"
  | .invalidNonce => "InvalidNonce"
  | .invalidPrivateKey => "InvalidPrivateKey"
  | .invalidPublicKey => "InvalidPublicKey"
  | .missingPeerPublicKey => "MissingPeerPublicKey"
  | .replayedNonce => "ReplayedNonce"
  | .unknown text => s!"Unknown(\"{text}\")"

/-- The alternate `Debug` text, which puts a field on a line of its own. -/
def NoiseError.prettyDebug : NoiseError → String
  | .dataTooLarge size => s!"DataTooLarge(\n    {size},\n)"
  | .unknown text => s!"Unknown(\n    \"{text}\",\n)"
  | reason => reason.debug

/-- The handshake patterns `Noise::new` knows. -/
inductive NoisePattern where
  | nk
  | nn
  | kk
deriving Repr, DecidableEq

def NoisePattern.protocolName : NoisePattern → String
  | .nk => "Noise_NK_P256_AESGCM_SHA256"
  | .nn => "Noise_NN_P256_AESGCM_SHA256"
  | .kk => "Noise_KK_P256_AESGCM_SHA256"

structure Noise where
  chainingKey : Key
  h : Key
  symmetricKey : Key
  symmetricNonce : UInt32
deriving DecidableEq

def hkdf2 (crypto : Primitives) (chainingKey : Key) (ikm : Bytes) : Key × Key :=
  let output := crypto.hkdfExpand chainingKey.toList ikm [] 64
  (⟨output.toList.take 32, by simp⟩, ⟨output.toList.drop 32, by simp⟩)

namespace Noise

def chainingKeyIn (pattern : NoisePattern) : Key :=
  ⟨(pattern.protocolName.toUTF8.data.toList ++ List.replicate 32 0).take 32, by simp⟩

def new (pattern : NoisePattern) : Noise where
  chainingKey := chainingKeyIn pattern
  h := chainingKeyIn pattern
  symmetricKey := Block.zero 32
  symmetricNonce := 0

variable (crypto : Primitives)

def mixHash (noise : Noise) (inData : Bytes) : Noise :=
  { noise with h := crypto.sha256TwoPart noise.h.toList inData }

def initializeKey (noise : Noise) (key : Key) : Noise :=
  { noise with symmetricKey := key, symmetricNonce := 0 }

def mixKey (noise : Noise) (ikm : Bytes) : Noise :=
  let derivedKeys := hkdf2 crypto noise.chainingKey ikm
  { noise with chainingKey := derivedKeys.1 }.initializeKey derivedKeys.2

def mixHashPoint (noise : Noise) (point : Bytes) : Noise := noise.mixHash crypto point

/-- The counter goes into the first four bytes of the nonce. -/
def nonceBytes (counter : UInt32) : NonceBytes :=
  ⟨toBeBytes counter ++ List.replicate 8 0, by simp⟩

def nextNonce (noise : Noise) : NonceBytes × Noise :=
  (nonceBytes noise.symmetricNonce, { noise with symmetricNonce := noise.symmetricNonce + 1 })

def encryptAndHash (noise : Noise) (plaintext : Bytes) : Bytes × Noise :=
  let (nonce, next) := noise.nextNonce
  let encryptedData := crypto.encryptInPlace next.symmetricKey nonce next.h.toList plaintext
  (encryptedData, next.mixHash crypto encryptedData)

/-- The ciphertext is hashed before it is opened, so a failed call leaves the
state advanced. -/
def decryptAndHash (noise : Noise) (ciphertext : Bytes) : Except NoiseError Bytes × Noise :=
  let mixed := noise.mixHash crypto ciphertext
  let (nonce, next) := mixed.nextNonce
  match crypto.decryptInPlace next.symmetricKey nonce noise.h.toList ciphertext with
  | some plaintext => (.ok plaintext, next)
  | none => (.error .decryptFailed, next)

def handshakeHash (noise : Noise) : Key := noise.h

def trafficKeys (noise : Noise) : Key × Key := hkdf2 crypto noise.chainingKey []

/-- Decrypting what the same state encrypted gives the plaintext back and leaves
both sides in the same state. -/
theorem decryptAndHash_encryptAndHash {crypto : Primitives} (opens : crypto.OpensSealed)
    (noise : Noise) (plaintext : Bytes) :
    noise.decryptAndHash crypto (noise.encryptAndHash crypto plaintext).1 =
      (.ok plaintext, (noise.encryptAndHash crypto plaintext).2) := by
  simp only [decryptAndHash, encryptAndHash, nextNonce, mixHash, opens noise.symmetricKey]

end Noise

end Oak.Crypto

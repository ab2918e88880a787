import Oak.Data.Bytes
import Oak.Data.Outcome

namespace Oak.Crypto

open Oak.Data

/-! The cryptographic operations of `crypto_wrapper.rs` and `identity_key.rs`.

`Primitives` holds what those files take from other crates: SHA-256, HKDF,
AES-256-GCM and the P-256 group.  The functions of the two files are defined
over it.  The laws the source relies on are separate propositions, so that
every theorem names the ones it needs. -/

abbrev Key := Block 32

abbrev NonceBytes := Block 12

abbrev PublicKey := Block 65

/-- The text of an `anyhow::Error`. -/
abbrev AnyError := String

def p256Order : Nat := 0xFFFFFFFF00000000FFFFFFFFFFFFFFFFBCE6FAADA7179E84F3B9CAC2FC632551

structure Primitives where
  sha256 : Bytes → Block 32
  hkdfExpand : (salt ikm info : Bytes) → (length : Nat) → Block length
  encryptInPlace : Key → NonceBytes → (aad plaintext : Bytes) → Bytes
  decryptInPlace : Key → NonceBytes → (aad ciphertext : Bytes) → Option Bytes
  Point : Type
  mulByGenerator : Fin p256Order → Point
  mul : Point → Fin p256Order → Point
  toEncodedPoint : Point → Bytes
  fromEncodedPoint : PublicKey → Option Point
  xCoordinate : Point → Option (Block 32)

structure P256Scalar where
  value : Fin p256Order
deriving DecidableEq

namespace P256Scalar

/-- `Scalar::from_repr(bytes).unwrap()`. -/
def fromBytes (bytes : Block 32) : Outcome Empty P256Scalar :=
  if canonical : ofBigEndian bytes.toList < p256Order then .ok ⟨⟨_, canonical⟩⟩
  else .panic "called `Option::unwrap()` on a `None` value"

/-- The random bytes are an argument: `rand_bytes` draws them. -/
def generate (random : Block 32) : Outcome Empty P256Scalar := fromBytes random

def bytes (scalar : P256Scalar) : Block 32 :=
  ⟨bigEndian 32 scalar.value.val, bigEndian_length 32 _⟩

theorem fromBytes_bytes (scalar : P256Scalar) : fromBytes scalar.bytes = .ok scalar := by
  have bound : scalar.value.val < 256 ^ 32 :=
    scalar.value.isLt.trans (by decide)
  have decoded : ofBigEndian scalar.bytes.toList = scalar.value.val := ofBigEndian_bigEndian bound
  have canonical : ofBigEndian scalar.bytes.toList < p256Order := decoded ▸ scalar.value.isLt
  simp only [fromBytes, dif_pos canonical]
  congr

end P256Scalar

namespace Primitives

variable (crypto : Primitives)

def sha256TwoPart (first second : Bytes) : Block 32 := crypto.sha256 (first ++ second)

/-- The point at infinity has a one-byte encoding, which does not fit. -/
def computePublicKey (scalar : P256Scalar) : Outcome Empty PublicKey :=
  match Block.ofBytes? 65 (crypto.toEncodedPoint (crypto.mulByGenerator scalar.value)) with
  | some encoded => .ok encoded
  | none => .panic "called `Result::unwrap()` on an `Err` value: TryFromSliceError(())"

def p256ScalarMult (scalar : P256Scalar) (point : PublicKey) : Except Unit (Block 32) :=
  match crypto.fromEncodedPoint point with
  | none => .error ()
  | some affine =>
    match crypto.xCoordinate (crypto.mul affine scalar.value) with
    | none => .error ()
    | some x => .ok x

/-- Opening inverts sealing under the same key, nonce and associated data. -/
def OpensSealed : Prop :=
  ∀ key nonce aad plaintext,
    crypto.decryptInPlace key nonce aad (crypto.encryptInPlace key nonce aad plaintext) =
      some plaintext

/-- A sealed message opens under the nonce it was sealed with only.  The tag
masks a nonce-independent hash with the encryption of the nonce, so this holds
for full-length tags. -/
def NonceBound : Prop :=
  ∀ key nonce other aad plaintext opened,
    crypto.decryptInPlace key nonce aad (crypto.encryptInPlace key other aad plaintext) =
      some opened → nonce = other

/-- Diffie-Hellman between two key pairs is defined and commutes. -/
def DhCommutes : Prop :=
  ∀ first second firstPublic secondPublic,
    crypto.computePublicKey first = .ok firstPublic →
    crypto.computePublicKey second = .ok secondPublic →
    ∃ shared, crypto.p256ScalarMult first secondPublic = .ok shared ∧
      crypto.p256ScalarMult second firstPublic = .ok shared

end Primitives

structure IdentityKeyHandle where
  getPublicKey : Outcome AnyError Bytes
  deriveDhSecret : Bytes → Outcome AnyError Bytes

structure IdentityKey where
  privateKey : P256Scalar

namespace IdentityKey

variable (crypto : Primitives)

def fromBytes (bytes : Block 32) : Outcome Empty IdentityKey :=
  (P256Scalar.fromBytes bytes).map IdentityKey.mk

def getPublicKey (key : IdentityKey) : Outcome AnyError Bytes :=
  match crypto.computePublicKey key.privateKey with
  | .ok encoded => .ok encoded.toList
  | .error fault => .error (fault.map Empty.elim)

def deriveDhSecret (key : IdentityKey) (peerPublicKey : Bytes) : Outcome AnyError Bytes :=
  match Block.ofBytes? 65 peerPublicKey with
  | none => .err "invalid peer public key: TryFromSliceError(())"
  | some point =>
    match crypto.p256ScalarMult key.privateKey point with
    | .error _ => .err "error deriving the DH secret: ()"
    | .ok shared => .ok shared.toList

def handle (key : IdentityKey) : IdentityKeyHandle where
  getPublicKey := key.getPublicKey crypto
  deriveDhSecret := key.deriveDhSecret crypto

end IdentityKey

end Oak.Crypto

import Oak.Crypto.Handshake

namespace Oak.Crypto

open Oak.Data

/-! A transparent instance of the primitives.

It keeps nothing secret, but it satisfies the laws the development assumes of
the real ones, so those laws are consistent.  A sealed message shows its key,
nonce and associated data in front of the plaintext; the group is that of the
scalars themselves. -/

namespace Transparent

def digest (bytes : Bytes) : Block 32 := ⟨(bytes ++ List.replicate 32 0).take 32, by simp⟩

def header (key : Key) (nonce : NonceBytes) (aad : Bytes) : Bytes :=
  key.toList ++ nonce.toList ++ aad

def encodePoint (point : Fin p256Order) : PublicKey :=
  ⟨4 :: bigEndian 32 point.val ++ bigEndian 32 point.val, by simp⟩

def decodePoint (encoded : PublicKey) : Option (Fin p256Order) :=
  let value := ofBigEndian (encoded.toList.drop 33)
  if canonical : value < p256Order then some ⟨value, canonical⟩ else none

theorem decodePoint_encodePoint (point : Fin p256Order) :
    decodePoint (encodePoint point) = some point := by
  have bound : point.val < 256 ^ 32 := point.isLt.trans (by decide)
  have body : (encodePoint point).toList.drop 33 = bigEndian 32 point.val := by
    have width := bigEndian_length 32 point.val
    change (4 :: bigEndian 32 point.val ++ bigEndian 32 point.val).drop 33 = _
    rw [List.cons_append, List.drop_succ_cons, List.drop_left' width]
  have decoded : ofBigEndian ((encodePoint point).toList.drop 33) = point.val := by
    rw [body, ofBigEndian_bigEndian bound]
  simp [decodePoint, decoded]

end Transparent

open Transparent in
def Primitives.transparent : Primitives where
  sha256 := digest
  hkdfExpand salt ikm info length :=
    ⟨(salt ++ ikm ++ info ++ List.replicate length 0).take length, by simp; omega⟩
  encryptInPlace key nonce aad plaintext := header key nonce aad ++ plaintext
  decryptInPlace key nonce aad ciphertext :=
    if header key nonce aad <+: ciphertext then
      some (ciphertext.drop (header key nonce aad).length)
    else none
  Point := Fin p256Order
  mulByGenerator scalar := scalar
  mul point scalar := point * scalar
  toEncodedPoint point := (encodePoint point).toList
  fromEncodedPoint := decodePoint
  xCoordinate point := some ⟨bigEndian 32 point.val, bigEndian_length 32 _⟩

namespace Transparent

theorem opensSealed : Primitives.transparent.OpensSealed := by
  intro key nonce aad plaintext
  simp [Primitives.transparent]

theorem nonceBound : Primitives.transparent.NonceBound := by
  intro key nonce other aad plaintext opened unsealed
  simp only [Primitives.transparent] at unsealed
  split at unsealed
  · rename_i starts
    simp only [header, List.append_assoc, List.prefix_append_right_inj] at starts
    obtain ⟨rest, same⟩ := starts
    rw [List.append_assoc] at same
    exact List.Vector.toList_injective (List.append_inj_left same (by simp))
  · contradiction

theorem computePublicKey (scalar : P256Scalar) :
    Primitives.transparent.computePublicKey scalar = .ok (encodePoint scalar.value) := by
  simp [Primitives.computePublicKey, Primitives.transparent]

theorem dhCommutes : Primitives.transparent.DhCommutes := by
  intro first second firstPublic secondPublic firstPair secondPair
  rw [computePublicKey, Except.ok.injEq] at firstPair secondPair
  subst firstPair secondPair
  refine ⟨⟨bigEndian 32 (second.value * first.value).val, bigEndian_length 32 _⟩, ?_, ?_⟩
  · simp only [Primitives.p256ScalarMult, Primitives.transparent, decodePoint_encodePoint]
  · simp only [Primitives.p256ScalarMult, Primitives.transparent, decodePoint_encodePoint,
      Fin.mul_comm first.value second.value]

end Transparent

theorem five_lt_p256Order : 5 < p256Order := by decide

end Oak.Crypto

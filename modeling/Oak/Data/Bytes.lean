import Mathlib.Data.List.Induction
import Mathlib.Data.Vector.Basic

namespace Oak.Data

/-! Byte strings and the fixed-size byte arrays of the source.

A Rust `Vec<u8>` or `&[u8]` is a `Bytes`; a `[u8; n]` is a `Block n`, whose
length is part of the type.  `Block.ofBytes?` is the checked `try_into`. -/

abbrev Bytes := List UInt8

abbrev Block (size : Nat) := List.Vector UInt8 size

namespace Block

variable {size : Nat}

def ofBytes? (size : Nat) (bytes : Bytes) : Option (Block size) :=
  if exact : bytes.length = size then some ⟨bytes, exact⟩ else none

@[simp] theorem ofBytes?_toList (block : Block size) : ofBytes? size block.toList = some block := by
  unfold ofBytes?
  rw [dif_pos block.toList_length]
  rfl

theorem toList_of_ofBytes? {bytes : Bytes} {block : Block size}
    (converted : ofBytes? size bytes = some block) : block.toList = bytes := by
  unfold ofBytes? at converted
  split at converted
  · cases converted
    rfl
  · contradiction

def zero (size : Nat) : Block size := List.Vector.replicate size 0

end Block

/-- The `length` low-order bytes of a number, most significant byte first. -/
def bigEndian : Nat → Nat → Bytes
  | 0, _ => []
  | length + 1, value => bigEndian length (value / 256) ++ [UInt8.ofNat value]

def ofBigEndian (bytes : Bytes) : Nat :=
  bytes.foldl (fun value byte => value * 256 + byte.toNat) 0

@[simp] theorem bigEndian_length (length value : Nat) : (bigEndian length value).length = length := by
  induction length generalizing value with
  | zero => rfl
  | succ length ih => simp [bigEndian, ih]

theorem ofBigEndian_append_singleton (bytes : Bytes) (byte : UInt8) :
    ofBigEndian (bytes ++ [byte]) = ofBigEndian bytes * 256 + byte.toNat := by
  simp [ofBigEndian]

theorem ofBigEndian_bigEndian {length value : Nat} (bound : value < 256 ^ length) :
    ofBigEndian (bigEndian length value) = value := by
  induction length generalizing value with
  | zero => simp at bound; subst bound; rfl
  | succ length ih =>
    have smaller : value / 256 < 256 ^ length := by
      omega
    rw [bigEndian, ofBigEndian_append_singleton, ih smaller, UInt8.toNat_ofNat']
    omega

theorem ofBigEndian_lt (bytes : Bytes) : ofBigEndian bytes < 256 ^ bytes.length := by
  induction bytes using List.reverseRecOn with
  | nil => simp [ofBigEndian]
  | append_singleton bytes byte ih =>
    have digit := byte.toNat_lt
    rw [ofBigEndian_append_singleton, List.length_append, List.length_singleton]
    omega

theorem bigEndian_ofBigEndian (bytes : Bytes) :
    bigEndian bytes.length (ofBigEndian bytes) = bytes := by
  induction bytes using List.reverseRecOn with
  | nil => rfl
  | append_singleton bytes byte ih =>
    have digit := byte.toNat_lt
    have quotient : (ofBigEndian bytes * 256 + byte.toNat) / 256 = ofBigEndian bytes := by omega
    have last : UInt8.ofNat (ofBigEndian bytes * 256 + byte.toNat) = byte := by
      apply UInt8.toNat_inj.mp
      rw [UInt8.toNat_ofNat']
      omega
    rw [ofBigEndian_append_singleton, List.length_append, List.length_singleton, bigEndian,
      quotient, last, ih]

/-- The `length` low-order bytes of a number, least significant byte first. -/
def littleEndian : Nat → Nat → Bytes
  | 0, _ => []
  | length + 1, value => UInt8.ofNat value :: littleEndian length (value / 256)

def ofLittleEndian (bytes : Bytes) : Nat :=
  bytes.foldr (fun byte value => byte.toNat + 256 * value) 0

@[simp] theorem littleEndian_length (length value : Nat) :
    (littleEndian length value).length = length := by
  induction length generalizing value with
  | zero => rfl
  | succ length ih => simp [littleEndian, ih]

theorem ofLittleEndian_littleEndian {length value : Nat} (bound : value < 256 ^ length) :
    ofLittleEndian (littleEndian length value) = value := by
  induction length generalizing value with
  | zero => simp at bound; subst bound; rfl
  | succ length ih =>
    have smaller : value / 256 < 256 ^ length := by
      omega
    have rest := ih smaller
    simp only [ofLittleEndian] at rest
    rw [littleEndian, ofLittleEndian, List.foldr_cons, UInt8.toNat_ofNat']
    omega

theorem ofLittleEndian_lt (bytes : Bytes) : ofLittleEndian bytes < 256 ^ bytes.length := by
  induction bytes with
  | nil => simp [ofLittleEndian]
  | cons byte bytes ih =>
    have digit := byte.toNat_lt
    simp only [ofLittleEndian] at ih ⊢
    rw [List.foldr_cons, List.length_cons]
    omega

/-- `u32::to_be_bytes`. -/
def toBeBytes (value : UInt32) : Bytes := bigEndian 4 value.toNat

/-- `u32::from_be_bytes`; the source calls it on four bytes only. -/
def fromBeBytes (bytes : Bytes) : UInt32 := UInt32.ofNat (ofBigEndian bytes)

@[simp] theorem toBeBytes_length (value : UInt32) : (toBeBytes value).length = 4 :=
  bigEndian_length 4 _

@[simp] theorem fromBeBytes_toBeBytes (value : UInt32) : fromBeBytes (toBeBytes value) = value := by
  have decoded : ofBigEndian (toBeBytes value) = value.toNat :=
    ofBigEndian_bigEndian (by simpa using value.toNat_lt)
  rw [fromBeBytes, decoded, UInt32.ofNat_toNat]

theorem toBeBytes_fromBeBytes {bytes : Bytes} (four : bytes.length = 4) :
    toBeBytes (fromBeBytes bytes) = bytes := by
  have bound : ofBigEndian bytes < 2 ^ 32 := by
    have small := ofBigEndian_lt bytes
    rwa [four] at small
  rw [toBeBytes, fromBeBytes, UInt32.toNat_ofNat_of_lt' bound, ← four, bigEndian_ofBigEndian]

end Oak.Data

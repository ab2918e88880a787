import Mathlib.Data.String.Basic
import Oak.Data.BTreeMap
import Oak.Data.Bytes

namespace Oak.Data.Protobuf

/-! The part of the protobuf wire format that the sessions look at. -/

/-- The base-128 digits of a number, least significant first, with the
continuation bit on all but the last.  A `u64` has at most ten. -/
def encodeVarintDigits : Nat → Nat → Bytes
  | 0, _ => []
  | digits + 1, value =>
    if value < 128 then [UInt8.ofNat value]
    else UInt8.ofNat (value % 128 + 128) :: encodeVarintDigits digits (value / 128)

def encodeVarint (value : Nat) : Bytes := encodeVarintDigits 10 value

def encodeField (field : Nat) (body : Bytes) : Bytes :=
  encodeVarint (field * 8 + 2) ++ encodeVarint body.length ++ body

def encodeNonEmpty (field : Nat) (body : Bytes) : Bytes :=
  if body = [] then [] else encodeField field body

theorem le_encodeField_length (field : Nat) (body : Bytes) :
    body.length ≤ (encodeField field body).length := by
  simp only [encodeField, List.length_append]
  omega

theorem le_encodeNonEmpty_length (field : Nat) (body : Bytes) :
    body.length ≤ (encodeNonEmpty field body).length := by
  unfold encodeNonEmpty
  split
  · rename_i absent
    simp [absent]
  · exact le_encodeField_length field body

def encodeOptional (field : Nat) : Option Bytes → Bytes
  | none => []
  | some body => encodeField field body

def utf8 (text : String) : Bytes := text.toUTF8.data.toList

theorem utf8_injective {first second : String} (same : utf8 first = utf8 second) :
    first = second := by
  apply String.toByteArray_inj.mp
  exact ByteArray.ext (Array.toList_inj.mp same)

/-- `String::encode_to_vec`: a message with the text in field 1. -/
def encodeString (text : String) : Bytes := encodeNonEmpty 1 (utf8 text)

def encodeMap {α : Type} (field : Nat) (encodeValue : α → Bytes) (map : BTreeMap String α) : Bytes :=
  map.entries.flatMap fun entry =>
    encodeField field (encodeString entry.1 ++ encodeNonEmpty 2 (encodeValue entry.2))

end Oak.Data.Protobuf

import Oak.Data.Bytes
import Oak.Data.Text

namespace Oak.Data

/-! Base64 with the standard alphabet and canonical padding, and hexadecimal digits.

The decoder refuses missing or superfluous padding, characters outside the
alphabet, and a last symbol whose unused bits are not zero. -/

namespace Base64

def symbol (value : Nat) : Char :=
  if value < 26 then Char.ofNat (65 + value)
  else if value < 52 then Char.ofNat (97 + (value - 26))
  else if value < 62 then Char.ofNat (48 + (value - 52))
  else if value = 62 then '+' else '/'

def value? (char : Char) : Option Nat :=
  if 65 ≤ char.toNat ∧ char.toNat ≤ 90 then some (char.toNat - 65)
  else if 97 ≤ char.toNat ∧ char.toNat ≤ 122 then some (char.toNat - 97 + 26)
  else if 48 ≤ char.toNat ∧ char.toNat ≤ 57 then some (char.toNat - 48 + 52)
  else if char = '+' then some 62
  else if char = '/' then some 63
  else none

def encode : Bytes → Text
  | [] => []
  | [a] => [symbol (a.toNat / 4), symbol (a.toNat % 4 * 16), '=', '=']
  | [a, b] =>
    [symbol (a.toNat / 4), symbol (a.toNat % 4 * 16 + b.toNat / 16), symbol (b.toNat % 16 * 4), '=']
  | a :: b :: c :: rest =>
    symbol (a.toNat / 4) :: symbol (a.toNat % 4 * 16 + b.toNat / 16)
      :: symbol (b.toNat % 16 * 4 + c.toNat / 64) :: symbol (c.toNat % 64) :: encode rest

/-- The last four characters, if the fourth one is padding. -/
def decodePadded (first second third : Char) : Option Bytes := do
  let v0 ← value? first
  let v1 ← value? second
  if third = '=' then
    if v1 % 16 = 0 then some [UInt8.ofNat (v0 * 4 + v1 / 16)] else none
  else
    let v2 ← value? third
    if v2 % 4 = 0 then
      some [UInt8.ofNat (v0 * 4 + v1 / 16), UInt8.ofNat (v1 % 16 * 16 + v2 / 4)]
    else none

def decode : Text → Option Bytes
  | [] => some []
  | first :: second :: third :: fourth :: rest =>
    if rest = [] ∧ fourth = '=' then decodePadded first second third
    else do
      let v0 ← value? first
      let v1 ← value? second
      let v2 ← value? third
      let v3 ← value? fourth
      let bytes ← decode rest
      some (UInt8.ofNat (v0 * 4 + v1 / 16) :: UInt8.ofNat (v1 % 16 * 16 + v2 / 4)
        :: UInt8.ofNat (v2 % 4 * 64 + v3) :: bytes)
  | _ => none

variable {value : Nat}

theorem value?_symbol (small : value < 64) : value? (symbol value) = some value := by
  have all : ∀ value < 64, value? (symbol value) = some value := by decide
  exact all value small

theorem symbol_ne_pad (small : value < 64) : symbol value ≠ '=' := by
  intro pad
  have padded := value?_symbol small
  rw [pad] at padded
  exact absurd padded (by simp [value?])

theorem ofNat_eq (byte : UInt8) {number : Nat} (same : number = byte.toNat) :
    UInt8.ofNat number = byte := by
  rw [same, UInt8.ofNat_toNat]

theorem decode_encode (bytes : Bytes) : decode (encode bytes) = some bytes := by
  fun_induction encode bytes with
  | case1 => rfl
  | case2 a =>
    have bound := a.toNat_lt
    simp only [decode, decodePadded, and_self, if_true, Option.bind_eq_bind]
    rw [value?_symbol (by omega), value?_symbol (by omega)]
    simp only [Option.bind_some]
    rw [if_pos (by omega), ofNat_eq a (by omega)]
  | case3 a b =>
    have first := a.toNat_lt
    have second := b.toNat_lt
    have third : b.toNat % 16 * 4 < 64 := by omega
    simp only [decode, decodePadded, and_self, if_true, Option.bind_eq_bind,
      symbol_ne_pad third, if_false]
    rw [value?_symbol (by omega), value?_symbol (by omega), value?_symbol (by omega)]
    simp only [Option.bind_some]
    rw [if_pos (by omega), ofNat_eq a (by omega), ofNat_eq b (by omega)]
  | case4 a b c rest ih =>
    have first := a.toNat_lt
    have second := b.toNat_lt
    have third := c.toNat_lt
    have last : c.toNat % 64 < 64 := by omega
    simp only [decode, symbol_ne_pad last, and_false, if_false, Option.bind_eq_bind]
    rw [value?_symbol (by omega), value?_symbol (by omega), value?_symbol (by omega),
      value?_symbol (by omega), ih]
    simp only [Option.bind_some]
    rw [ofNat_eq a (by omega), ofNat_eq b (by omega), ofNat_eq c (by omega)]

def isSymbol (char : Char) : Bool := (value? char).isSome || char == '='

variable {char : Char} {bytes : Bytes} {first second third : Char}

theorem isSymbol_symbol (small : value < 64) : isSymbol (symbol value) = true := by
  simp [isSymbol, value?_symbol small]

theorem isSymbol_of_mem_encode : ∀ char ∈ encode bytes, isSymbol char = true := by
  fun_induction encode bytes with
  | case1 => simp
  | case2 a =>
    have first := a.toNat_lt
    simp (disch := omega) only [List.forall_mem_cons, isSymbol_symbol]
    simp [isSymbol]
  | case3 a b =>
    have first := a.toNat_lt
    have second := b.toNat_lt
    simp (disch := omega) only [List.forall_mem_cons, isSymbol_symbol]
    simp [isSymbol]
  | case4 a b c rest ih =>
    have first := a.toNat_lt
    have second := b.toNat_lt
    have third := c.toNat_lt
    simp (disch := omega) only [List.forall_mem_cons, isSymbol_symbol]
    simpa using ih

theorem symbol_of_value? (found : value? char = some value) : symbol value = char ∧ value < 64 := by
  rw [value?] at found
  split at found
  · cases found
    rw [symbol, if_pos (by omega), Nat.add_sub_cancel' (by omega), Char.ofNat_toNat]
    exact ⟨rfl, by omega⟩
  split at found
  · cases found
    rw [symbol, if_neg (by omega), if_pos (by omega), Nat.add_sub_cancel,
      Nat.add_sub_cancel' (by omega), Char.ofNat_toNat]
    exact ⟨rfl, by omega⟩
  split at found
  · cases found
    rw [symbol, if_neg (by omega), if_neg (by omega), if_pos (by omega), Nat.add_sub_cancel,
      Nat.add_sub_cancel' (by omega), Char.ofNat_toNat]
    exact ⟨rfl, by omega⟩
  split at found
  · next plus =>
      cases found
      exact ⟨plus.symm, by decide⟩
  split at found
  · next slash =>
      cases found
      exact ⟨slash.symm, by decide⟩
  · cases found

theorem toNat_ofNat {number : Nat} (small : number < 256) : (UInt8.ofNat number).toNat = number :=
  UInt8.toNat_ofNat_of_lt' small

theorem encode_of_decodePadded (decoded : decodePadded first second third = some bytes) :
    encode bytes = [first, second, third, '='] := by
  simp only [decodePadded, Option.bind_eq_bind, Option.bind_eq_some_iff] at decoded
  obtain ⟨v0, atFirst, v1, atSecond, rest⟩ := decoded
  obtain ⟨rfl, small0⟩ := symbol_of_value? atFirst
  obtain ⟨rfl, small1⟩ := symbol_of_value? atSecond
  split at rest
  · next pad =>
      split at rest
      · cases rest
        simp (disch := omega) only [encode, toNat_ofNat, pad]
        have part0 : (v0 * 4 + v1 / 16) / 4 = v0 := by omega
        have part1 : (v0 * 4 + v1 / 16) % 4 * 16 = v1 := by omega
        rw [part0, part1]
      · cases rest
  · simp only [Option.bind_eq_some_iff] at rest
    obtain ⟨v2, atThird, rest⟩ := rest
    obtain ⟨rfl, small2⟩ := symbol_of_value? atThird
    split at rest
    · cases rest
      simp (disch := omega) only [encode, toNat_ofNat]
      have part0 : (v0 * 4 + v1 / 16) / 4 = v0 := by omega
      have part1 : (v0 * 4 + v1 / 16) % 4 * 16 + (v1 % 16 * 16 + v2 / 4) / 16 = v1 := by omega
      have part2 : (v1 % 16 * 16 + v2 / 4) % 16 * 4 = v2 := by omega
      rw [part0, part1, part2]
    · cases rest

theorem encode_of_decode {text : Text} (decoded : decode text = some bytes) :
    encode bytes = text := by
  fun_induction decode text generalizing bytes with
  | case1 =>
    cases decoded
    rfl
  | case2 first second third fourth rest padded =>
    obtain ⟨rfl, rfl⟩ := padded
    exact encode_of_decodePadded decoded
  | case3 first second third fourth rest full ih =>
    simp only [Option.bind_eq_bind, Option.bind_eq_some_iff] at decoded
    obtain ⟨v0, found0, v1, found1, v2, found2, v3, found3, tail, decodedTail, made⟩ := decoded
    obtain ⟨rfl, small0⟩ := symbol_of_value? found0
    obtain ⟨rfl, small1⟩ := symbol_of_value? found1
    obtain ⟨rfl, small2⟩ := symbol_of_value? found2
    obtain ⟨rfl, small3⟩ := symbol_of_value? found3
    cases made
    simp (disch := omega) only [encode, toNat_ofNat, ih decodedTail]
    have part0 : (v0 * 4 + v1 / 16) / 4 = v0 := by omega
    have part1 : (v0 * 4 + v1 / 16) % 4 * 16 + (v1 % 16 * 16 + v2 / 4) / 16 = v1 := by omega
    have part2 : (v1 % 16 * 16 + v2 / 4) % 16 * 4 + (v2 % 4 * 64 + v3) / 64 = v2 := by omega
    have part3 : (v2 % 4 * 64 + v3) % 64 = v3 := by omega
    rw [part0, part1, part2, part3]
  | case4 => cases decoded

theorem encode_ne_nil (nonempty : bytes ≠ []) : encode bytes ≠ [] := by
  intro empty
  have decoded := decode_encode bytes
  rw [empty] at decoded
  exact nonempty (Option.some.inj decoded).symm

end Base64

namespace Hex

def value? (char : Char) : Option Nat :=
  if 48 ≤ char.toNat ∧ char.toNat ≤ 57 then some (char.toNat - 48)
  else if 97 ≤ char.toNat ∧ char.toNat ≤ 102 then some (char.toNat - 97 + 10)
  else if 65 ≤ char.toNat ∧ char.toNat ≤ 70 then some (char.toNat - 65 + 10)
  else none

/-- `hex::encode`: two lower-case digits for a byte. -/
def encode (bytes : Bytes) : Text :=
  bytes.flatMap fun byte => [Nat.digitChar (byte.toNat / 16), Nat.digitChar (byte.toNat % 16)]

def decode : Text → Option Bytes
  | [] => some []
  | high :: low :: rest => do
    let upper ← value? high
    let lower ← value? low
    let bytes ← decode rest
    some (UInt8.ofNat (upper * 16 + lower) :: bytes)
  | _ => none

end Hex

end Oak.Data

import Oak.Functions.LookupRuns

namespace Oak.Functions

open Oak.Data

/-! Two bounds that the lookup table relies on: a length fits in its prefix, and probing meets an
empty slot. -/

section Lengths

variable {data : Bytes} {index len first second : Nat}

theorem lenBytes_injective (short : first < 2 ^ 30) (other : second < 2 ^ 30)
    (same : lenBytes first = lenBytes second) : first = second := by
  have read : readLen (lenBytes first) 0 = .ok (first, (lenBytes first).length) :=
    readLen_lenBytes short List.prefix_rfl
  have readToo : readLen (lenBytes second) 0 = .ok (second, (lenBytes second).length) :=
    readLen_lenBytes other List.prefix_rfl
  rw [same, readToo] at read
  exact (Prod.mk.inj (Except.ok.inj read)).1.symm

/-- The bytes of a length that was written at the index. -/
def lenPrefix (index : Nat) (written : Bytes × Nat) : Bytes := (written.1.drop index).take written.2

theorem writeLen_short (short : len < 2 ^ 30) (room : index + indexSize ≤ data.length) :
    ∃ written, writeLen data index len = .ok written ∧
      readLen written.1 index = .ok (len, written.2) ∧ written.2 ≤ 4 ∧
      lenPrefix index written = lenBytes len := by
  have few : (lenBytes len).length ≤ 3 + 1 := lenBytes_length_le short
  rw [indexSize] at room
  have written := @overwrite_drop_start data (lenBytes len) index (by omega)
  refine ⟨_, writeLen_ok (by omega), ?_, few, ?_⟩
  · apply readLen_lenBytes short
    rw [written]
    exact List.prefix_append _ _
  · rw [lenPrefix, written, List.take_left]

/-- `insert` admits a key or a value of the length. -/
def Admits (allocatedEntries len : Nat) : Prop :=
  2 * indexSize + len < LookupHtbl.chunkSizeFor allocatedEntries

/-- Two bits count the further bytes of a length, so the codec covers what `insert` admits as long
as the chunks are not larger than 1GiB. -/
theorem length_prefix_codec_iff (allocatedEntries : Nat) :
    (∀ data index, index + indexSize ≤ data.length →
      (∀ len, Admits allocatedEntries len → ∃ written, writeLen data index len = .ok written ∧
        readLen written.1 index = .ok (len, written.2) ∧ written.2 ≤ 4) ∧
      ∀ first second, Admits allocatedEntries first → Admits allocatedEntries second →
        first ≠ second → (writeLen data index first).map (lenPrefix index) ≠
          (writeLen data index second).map (lenPrefix index)) ↔
    LookupHtbl.chunkSizeFor allocatedEntries ≤ 2 ^ 30 := by
  constructor
  · intro codec
    by_contra larger
    obtain ⟨bits, power⟩ := LookupHtbl.chunkSizeFor_power allocatedEntries
    have next : 2 ^ 31 ≤ 2 ^ bits := by
      rw [power, Nat.pow_le_pow_iff_right (by omega)] at larger
      exact Nat.pow_le_pow_right (by omega) (by omega)
    have admitted : Admits allocatedEntries (2 ^ 30) := by
      rw [Admits, power, indexSize]
      omega
    obtain ⟨written, wrote, -, few⟩ := (codec (List.replicate indexSize 0) 0 (by simp)).1 _ admitted
    rw [writeLen_ok (by rw [LookupHtbl.lenBytes_gibibyte]; decide),
      LookupHtbl.lenBytes_gibibyte] at wrote
    cases wrote
    exact absurd few (by decide)
  · intro small data index room
    constructor
    · intro len admitted
      rw [Admits] at admitted
      obtain ⟨written, wrote, read, few, -⟩ := writeLen_short (by omega : len < 2 ^ 30) room
      exact ⟨written, wrote, read, few⟩
    · intro first second admitted admittedToo different same
      rw [Admits] at admitted admittedToo
      have short : first < 2 ^ 30 := by omega
      have other : second < 2 ^ 30 := by omega
      obtain ⟨_, wrote, -, -, bytes⟩ := writeLen_short short room
      obtain ⟨_, wroteToo, -, -, bytesToo⟩ := writeLen_short other room
      rw [wrote, wroteToo, Except.map, Except.map, bytes, bytesToo] at same
      exact different (lenBytes_injective short other (Except.ok.inj same))

/-- A value of 1GiB takes five bytes for its length, and the first of them says that it is empty. -/
theorem gibibyte_prefix_reads_zero :
    Admits 1789569707 (2 ^ 30) ∧ ∃ written, writeLen (List.replicate 5 0) 0 (2 ^ 30) = .ok (written, 5) ∧
      readLen written 0 = .ok (0, 1) := by
  constructor
  · have least := (LookupHtbl.le_chunkSizeFor 1789569707).1
    rw [Admits, indexSize]
    omega
  · refine ⟨[0, 0, 0, 0, 64], ?_, rfl⟩
    rw [writeLen_ok (by rw [LookupHtbl.lenBytes_gibibyte]; decide), LookupHtbl.lenBytes_gibibyte]
    rfl

end Lengths

end Oak.Functions

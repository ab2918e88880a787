import Mathlib.Algebra.Ring.Nat
import Oak.Data.Anyhow
import Oak.Data.Bytes

namespace Oak.Kernel

open Oak.Data

/-! The serial channel of the restricted kernel over a virtio console
(`virtio_console.rs`), whatever buffers the device makes of the bytes. -/

namespace Console

def pageSize : Nat := 4096

/-- A used buffer of the receive queue; the driver asserts that the length is that of a page at
most. -/
abbrev Buffer := { bytes : Bytes // bytes.length ≤ pageSize }

def readBytes : Option Buffer → Bytes
  | some buffer => buffer.val
  | none => []

end Console

/-- The driver, with what the device answers from now on when it is asked for a used buffer. -/
structure Console where
  polls : List (Option Console.Buffer)
  /-- Nothing if it is empty: the rest of a buffer is stored only if there is one. -/
  pendingData : Bytes

namespace Console

/-- Each round is a `read_partial`: it copies what it can of the pending data, then of the next
answer.  It waits if the device has not given enough. -/
def readExact (len : Nat) (pendingData : Bytes) :
    List (Option Buffer) → Option (Bytes × Console)
  | [] =>
    if len ≤ pendingData.length then some (pendingData.take len, ⟨[], pendingData.drop len⟩)
    else none
  | poll :: polls =>
    if len ≤ pendingData.length then
      some (pendingData.take len, ⟨poll :: polls, pendingData.drop len⟩)
    else do
      let (rest, console) ← readExact (len - pendingData.length) (readBytes poll) polls
      return (pendingData ++ rest, console)

def readAll : List Nat → Console → Option (List Bytes × Console)
  | [], console => some ([], console)
  | len :: lens, console => do
    let (bytes, console) ← readExact len console.pendingData console.polls
    let (rest, console) ← readAll lens console
    return (bytes :: rest, console)

/-- The bytes that have not been delivered. -/
def stream (console : Console) : Bytes :=
  console.pendingData ++ console.polls.flatMap readBytes

theorem stream_take (len : Nat) (pendingData : Bytes) (polls : List (Option Buffer)) :
    stream ⟨polls, pendingData⟩ =
      pendingData.take len ++ stream ⟨polls, pendingData.drop len⟩ := by
  rw [stream, stream, ← List.append_assoc, List.take_append_drop]

theorem readExact_spec (len : Nat) (pendingData : Bytes) (polls : List (Option Buffer)) :
    (readExact len pendingData polls = none ∧ (stream ⟨polls, pendingData⟩).length < len) ∨
      ∃ bytes next, readExact len pendingData polls = some (bytes, next) ∧
        stream ⟨polls, pendingData⟩ = bytes ++ next.stream ∧ bytes.length = len := by
  fun_induction readExact len pendingData polls with
  | case1 len pendingData enough =>
    exact Or.inr ⟨_, _, rfl, stream_take len pendingData [], List.length_take_of_le enough⟩
  | case2 len pendingData few =>
    rw [stream, List.flatMap_nil, List.append_nil]
    exact Or.inl ⟨rfl, Nat.not_le.mp few⟩
  | case3 len pendingData poll polls enough =>
    exact Or.inr ⟨_, _, rfl, stream_take len pendingData _, List.length_take_of_le enough⟩
  | case4 len pendingData poll polls few ih =>
    have whole : stream ⟨poll :: polls, pendingData⟩ =
        pendingData ++ stream ⟨polls, readBytes poll⟩ := rfl
    rw [whole, List.length_append]
    rcases ih with ⟨waits, short⟩ | ⟨bytes, next, returned, delivered, length⟩
    · rw [waits]
      exact Or.inl ⟨rfl, by omega⟩
    · rw [returned, delivered]
      refine Or.inr ⟨_, next, rfl, (List.append_assoc _ _ _).symm, ?_⟩
      rw [List.length_append]
      omega

theorem readAll_spec (lens : List Nat) (console : Console) :
    (readAll lens console = none ∧ console.stream.length < lens.sum) ∨
      ∃ reads next, readAll lens console = some (reads, next) ∧
        console.stream = reads.flatten ++ next.stream ∧ reads.map List.length = lens := by
  induction lens generalizing console with
  | nil => exact Or.inr ⟨[], console, rfl, rfl, rfl⟩
  | cons len lens ih =>
    rw [readAll, List.sum_cons]
    rcases readExact_spec len console.pendingData console.polls with
      ⟨waits, few⟩ | ⟨bytes, next, returned, delivered, length⟩
    · exact Or.inl ⟨by rw [waits]; rfl, few.trans_le (Nat.le_add_right _ _)⟩
    · rw [returned, delivered, List.length_append]
      rcases ih next with ⟨waits, few⟩ | ⟨reads, last, later, rest, lengths⟩
      · exact Or.inl ⟨congrArg (· >>= _) waits, by omega⟩
      · refine Or.inr ⟨bytes :: reads, last, congrArg (· >>= _) later, ?_, ?_⟩
        · rw [rest, List.flatten_cons, List.append_assoc]
        · rw [List.map_cons, length, lengths]

/-- The loop with its `write_bytes`, and the buffers that were transmitted.  The device may answer
each one differently. -/
def writeAll (transmit : Nat → Bytes → Anyhow.Result Unit) (data : Bytes) (sent : List Bytes) :
    Anyhow.Result Unit × List Bytes :=
  if data = [] then (.ok (), sent)
  else
    let len := min data.length pageSize
    match transmit sent.length (data.take len) with
    | .error error => (.error error, sent)
    | .ok () => writeAll transmit (data.drop len) (sent ++ [data.take len])
termination_by data.length
decreasing_by
  have some : 0 < data.length := List.length_pos_iff.mpr ‹_›
  rw [List.length_drop, pageSize]
  omega

theorem writeAll_spec (transmit : Nat → Bytes → Anyhow.Result Unit) (data : Bytes)
    (sent : List Bytes) :
    ∃ outcome buffers, writeAll transmit data sent = (outcome, sent ++ buffers) ∧
      (∀ buffer ∈ buffers, buffer.length ≤ pageSize) ∧
      (outcome = .ok () ∧ buffers.flatten = data ∨ buffers.flatten <+: data ∧
        ∃ count buffer error, transmit count buffer = .error error ∧ outcome = .error error) := by
  fun_induction writeAll transmit data sent with
  | case1 sent =>
    exact ⟨_, [], by rw [List.append_nil], List.forall_mem_nil _, Or.inl ⟨rfl, rfl⟩⟩
  | case2 data sent some len error failed =>
    exact ⟨_, [], by rw [List.append_nil], List.forall_mem_nil _,
      Or.inr ⟨List.nil_prefix, _, _, error, failed, rfl⟩⟩
  | case3 data sent some len done ih =>
    obtain ⟨outcome, buffers, returned, bounded, ends⟩ := ih
    refine ⟨outcome, data.take len :: buffers, ?_, ?_, ?_⟩
    · rw [returned, List.append_assoc, List.singleton_append]
    · refine List.forall_mem_cons.mpr ⟨?_, bounded⟩
      exact (List.length_take_le _ _).trans (Nat.min_le_right _ _)
    · rw [List.flatten_cons]
      refine ends.imp (fun all => ⟨all.1, ?_⟩) fun part => ⟨?_, part.2⟩
      · rw [all.2, List.take_append_drop]
      · have whole := (List.prefix_append_right_inj (data.take len)).mpr part.1
        rwa [List.take_append_drop] at whole

end Console

end Oak.Kernel

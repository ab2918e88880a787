import Oak.Data.Anyhow
import Oak.Data.Bytes
import Oak.Data.Chunks
import Oak.Data.Process

namespace Oak.Channel.BasicFramed

open Oak.Data Oak.Data.Process Oak.Data.Interleaving

/-! The channel before it is handed to the application
(`oak_channel/src/basic_framed.rs`).

The sender states the size of the payload, sends it page by page and waits for
the size of each page to come back.  Both sides are programs over two pipes;
what a program does next is its last argument. -/

def maxSize : Nat := 4096

variable {ρ : Type}

/-- `read_chunk`. -/
def readChunk (size : Nat) (next : Anyhow.Result Bytes → Process UInt8 ρ) : Process UInt8 ρ :=
  if size < 2 ^ 32 then
    Process.readExact size fun chunk => writeAll (littleEndian 4 size) (next (.ok chunk))
  else next (Anyhow.bail "chunk too big")

/-- The loop of `receive_raw`, over the pieces of the buffer that are to be filled. -/
def receiveChunks (next : Anyhow.Result Bytes → Process UInt8 ρ) :
    List Bytes → Bytes → Process UInt8 ρ
  | [], payload => next (.ok payload)
  | chunk :: rest, payload =>
    readChunk chunk.length fun
      | .ok bytes => receiveChunks next rest (payload ++ bytes)
      | .error reason => next (.error reason)

def receiveRaw (next : Anyhow.Result Bytes → Process UInt8 ρ) : Process UInt8 ρ :=
  Process.readExact 4 fun buf =>
    receiveChunks next (chunks maxSize (List.replicate (ofLittleEndian buf) 0)) []

/-- The closure `write_chunk` in `send_raw`. -/
def writeChunk (chunk : Bytes) (next : Anyhow.Result Unit → Process UInt8 ρ) : Process UInt8 ρ :=
  writeAll chunk (Process.readExact 4 fun ack =>
    if ofLittleEndian ack ≠ chunk.length then next (Anyhow.bail "ack wasn't of correct length")
    else next (.ok ()))

def sendChunks (next : Anyhow.Result Unit → Process UInt8 ρ) : List Bytes → Process UInt8 ρ
  | [] => next (.ok ())
  | chunk :: rest =>
    writeChunk chunk fun
      | .ok () => sendChunks next rest
      | .error reason => next (.error reason)

/-- The size goes out as a number of 32 bits, whatever the size of the payload. -/
def sendRaw (payload : Bytes) (next : Anyhow.Result Unit → Process UInt8 ρ) : Process UInt8 ρ :=
  writeAll (littleEndian 4 payload.length) (sendChunks next (chunks maxSize payload))

def sendAll : List Bytes → Process UInt8 (Anyhow.Result Unit)
  | [] => .finish (.ok ())
  | payload :: rest =>
    sendRaw payload fun
      | .ok () => sendAll rest
      | .error reason => .finish (.error reason)

def receiveAll : Nat → List Bytes → Process UInt8 (Anyhow.Result (List Bytes))
  | 0, received => .finish (.ok received)
  | count + 1, received =>
    receiveRaw fun
      | .ok payload => receiveAll count (received ++ [payload])
      | .error reason => .finish (.error reason)

def start (payloads : List Bytes) :
    Pair (Process UInt8 (Anyhow.Result Unit)) (Process UInt8 (Anyhow.Result (List Bytes))) UInt8 :=
  ⟨sendAll payloads, receiveAll payloads.length [], [], []⟩

/-- Both sides have returned, the receiver with the payloads, and the pipes are empty. -/
def delivered (payloads : List Bytes) :
    Pair (Process UInt8 (Anyhow.Result Unit)) (Process UInt8 (Anyhow.Result (List Bytes))) UInt8 :=
  ⟨.finish (.ok ()), .finish (.ok payloads), [], []⟩

/-- Every schedule is part of a run that ends with the payloads delivered, and no schedule takes
more steps than such a run has. -/
def Delivers (payloads : List Bytes) : Prop :=
  ∃ total, ∀ schedule : List Side, ∃ remaining,
    stepsTaken Process.step (start payloads) schedule + remaining = total ∧
      Finishes Process.step remaining (execute Process.step (start payloads) schedule)
        (delivered payloads)

theorem delivers_iff_completes {payloads : List Bytes} :
    Delivers payloads ↔ Completes (start payloads) (delivered payloads) := by
  constructor
  · rintro ⟨total, every⟩
    obtain ⟨remaining, -, finishes⟩ := every []
    exact ⟨remaining, finishes⟩
  · rintro ⟨total, finishes⟩
    exact ⟨total, finishes.execute step_commutes⟩

theorem ofLittleEndian_u32 {value : Nat} (small : value < 2 ^ 32) :
    ofLittleEndian (littleEndian 4 value) = value :=
  ofLittleEndian_littleEndian (show value < 256 ^ 4 by omega)

variable {payload : Bytes}

section Exchange

variable {τ : Type} {final : Pair (Process UInt8 ρ) (Process UInt8 τ) UInt8}
  {sent : Anyhow.Result Unit → Process UInt8 ρ} {got : Anyhow.Result Bytes → Process UInt8 τ}

theorem Completes.chunk {chunk : Bytes} (small : chunk.length < 2 ^ 32)
    (rest : Completes ⟨sent (.ok ()), got (.ok chunk), [], []⟩ final) :
    Completes ⟨writeChunk chunk sent, readChunk chunk.length got, [], []⟩ final := by
  rw [readChunk, if_pos small]
  refine Completes.client_sends rfl (Completes.server_sends (littleEndian_length _ _) ?_)
  rwa [ofLittleEndian_u32 small, if_neg (not_not_intro rfl)]

theorem Completes.chunks {pieces : List Bytes} (small : ∀ chunk ∈ pieces, chunk.length < 2 ^ 32)
    {buffers : List Bytes} (same : buffers.map List.length = pieces.map List.length)
    (rest : Completes ⟨sent (.ok ()), got (.ok (payload ++ pieces.flatten)), [], []⟩ final) :
    Completes ⟨sendChunks sent pieces, receiveChunks got buffers payload, [], []⟩ final := by
  induction pieces generalizing buffers payload with
  | nil =>
    obtain rfl : buffers = [] := List.map_eq_nil_iff.mp same
    simpa [sendChunks, receiveChunks] using rest
  | cons chunk pieces ih =>
    obtain ⟨buffer, buffers, rfl, length, same⟩ := List.map_eq_cons_iff.mp same
    rw [List.forall_mem_cons] at small
    rw [receiveChunks, length]
    refine Completes.chunk small.1 (ih small.2 same ?_)
    simpa using rest

theorem Completes.raw (small : payload.length < 2 ^ 32)
    (rest : Completes ⟨sent (.ok ()), got (.ok payload), [], []⟩ final) :
    Completes ⟨sendRaw payload sent, receiveRaw got, [], []⟩ final := by
  refine Completes.client_sends (littleEndian_length _ _) ?_
  rw [ofLittleEndian_u32 small]
  refine Completes.chunks (fun chunk found => ?_) ?_ ?_
  · have page : chunk.length ≤ 4096 := (chunk_bounds (by decide) found).2
    omega
  · rw [← List.map_const', chunks_map]
    simp
  · simpa [flatten_chunks] using rest

end Exchange

theorem completes_all {payloads : List Bytes} (small : ∀ payload ∈ payloads, payload.length < 2 ^ 32)
    (received : List Bytes) :
    Completes ⟨sendAll payloads, receiveAll payloads.length received, [], []⟩
      (delivered (received ++ payloads)) := by
  induction payloads generalizing received with
  | nil =>
    rw [List.append_nil]
    exact completes_finish
  | cons payload rest ih =>
    rw [List.forall_mem_cons] at small
    refine Completes.raw small.1 ?_
    simpa using ih small.2 (received ++ [payload])

theorem ends_receiveChunks {holds : ρ → Prop} {next : Anyhow.Result Bytes → Process UInt8 ρ}
    (failed : ∀ reason, Ends holds (next (.error reason))) {buffers : List Bytes}
    (done : ∀ whole : Bytes, whole.length = payload.length + buffers.flatten.length →
      Ends holds (next (.ok whole))) : Ends holds (receiveChunks next buffers payload) := by
  induction buffers generalizing payload with
  | nil => exact done payload (by simp)
  | cons chunk rest ih =>
    rw [receiveChunks, readChunk]
    split
    · refine .readExact fun bytes exact => .writeAll (ih fun whole length => done whole ?_)
      rw [length, List.flatten_cons, List.length_append, List.length_append]
      omega
    · exact failed _

theorem ends_receiveAll (count : Nat) {received : List Bytes}
    (small : ∀ payload ∈ received, payload.length < 2 ^ 32) :
    Ends (fun result => ∀ payloads, result = .ok payloads →
      ∀ payload ∈ payloads, payload.length < 2 ^ 32) (receiveAll count received) := by
  induction count generalizing received with
  | zero =>
    refine .finish fun payloads same => ?_
    cases same
    exact small
  | succ count ih =>
    refine .readExact fun buf four => ends_receiveChunks ?_ ?_
    · exact fun reason => .finish nofun
    intro whole length
    refine ih fun payload found => ?_
    rcases List.mem_append.mp found with earlier | new
    · exact small payload earlier
    · rw [List.mem_singleton.mp new, length, flatten_chunks]
      have bound := ofLittleEndian_lt buf
      rw [four] at bound
      simpa using bound

/-- Exchanges succeed one after the other exactly if the sizes fit in the 32 bits they are sent in. -/
theorem delivers_iff (payloads : List Bytes) :
    Delivers payloads ↔ ∀ payload ∈ payloads, payload.length < 2 ^ 32 := by
  rw [delivers_iff_completes]
  constructor
  · intro completes
    exact (ends_receiveAll payloads.length (by simp)).server_result completes payloads rfl
  · intro small
    exact completes_all small []

/-- A payload of 4 GiB. -/
theorem large_payload_not_delivered : ¬ Delivers [List.replicate (2 ^ 32) 0] := by
  rw [delivers_iff_completes]
  intro completes
  have small := (ends_receiveAll 1 (by simp)).server_result completes _ rfl
  rw [List.forall_mem_singleton, List.length_replicate] at small
  exact absurd small (by decide)

end Oak.Channel.BasicFramed

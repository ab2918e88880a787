import Oak.Data.Bytes
import Oak.Data.StreamDecoder

namespace Oak.Tls

open Oak.Data

/-! The `rustls` connection as the source uses it.

The inbound half is a stream decoder: `read_tls` takes bytes of the slice it is
given, `process_new_packets` decodes the complete records among the bytes taken
so far, and the reader hands the decoded plaintext out.  The outbound half
seals plaintext into records and queues their bytes for `write_tls`.  What the
crate decides is left open in `Rustls`. -/

inductive IoError where
  | wouldBlock
  | other (message : String)
deriving DecidableEq, Repr

def IoError.display : IoError → String
  | wouldBlock => "operation would block"
  | other message => message

abbrev TlsError := String

structure Connection (κ ω : Type) where
  /-- All bytes that `read_tls` has taken. -/
  taken : Bytes
  /-- The bytes taken that no decoded record has used up. -/
  undecoded : Bytes
  inbound : κ
  /-- The error that the connection failed with. -/
  failure : Option TlsError
  /-- The decoded plaintext that the reader has not handed out. -/
  plaintext : Bytes
  outbound : ω
  /-- The bytes that wait for `write_tls`. -/
  sendable : Bytes
deriving DecidableEq, Repr

/-- What the crate decides.  `κ` is the state of the inbound half, `ω` that of
the outbound half. -/
structure Rustls (κ ω : Type) extends Decoder UInt8 UInt8 κ TlsError where
  /-- How much of a slice `read_tls` takes. -/
  readSize : Connection κ ω → Bytes → Except IoError Nat
  /-- How reading to the end of the plaintext ends. -/
  readEnd : κ → Except IoError Unit
  isHandshaking : κ → Bool
  /-- What the connection sends of its own accord after it has read records. -/
  reply : κ → ω → Bytes × ω
  /-- How much plaintext the writer has room for. -/
  writerRoom : Connection κ ω → Except IoError Nat
  /-- The records that plaintext is sealed into. -/
  sealFragments : ω → Bytes → Bytes × ω
  /-- How much of the queue `write_tls` writes. -/
  writeSize : Connection κ ω → Except IoError Nat

namespace Rustls

variable {κ ω : Type} (rustls : Rustls κ ω)

def readTls (connection : Connection κ ω) (slice : Bytes) : Except IoError Nat × Connection κ ω :=
  match rustls.readSize connection slice with
  | .error error => (.error error, connection)
  | .ok size =>
    let bytes := slice.take size
    (.ok bytes.length, { connection with
      taken := connection.taken ++ bytes
      undecoded := connection.undecoded ++ bytes })

def processNewPackets (connection : Connection κ ω) : Except TlsError Unit × Connection κ ω :=
  match connection.failure with
  | some failure => (.error failure, connection)
  | none =>
    let decoded := rustls.decode connection.inbound connection.undecoded
    let (bytes, outbound) := rustls.reply decoded.state connection.outbound
    let processed := { connection with
      undecoded := (rustls.framing.records connection.undecoded).2
      inbound := decoded.state
      failure := decoded.failure
      plaintext := connection.plaintext ++ decoded.output
      outbound
      sendable := connection.sendable ++ bytes }
    match decoded.failure with
    | some failure => (.error failure, processed)
    | none => (.ok (), processed)

/-- `reader().read_to_end`: the bytes that were read, and how reading ended. -/
def readToEnd (connection : Connection κ ω) : Bytes × Except IoError Unit × Connection κ ω :=
  (connection.plaintext, rustls.readEnd connection.inbound, { connection with plaintext := [] })

/-- `writer().write`. -/
def write (connection : Connection κ ω) (plaintext : Bytes) :
    Except IoError Nat × Connection κ ω :=
  match rustls.writerRoom connection with
  | .error error => (.error error, connection)
  | .ok 0 => (.ok 0, connection)
  | .ok room =>
    let fragment := plaintext.take room
    let (bytes, outbound) := rustls.sealFragments connection.outbound fragment
    (.ok fragment.length, { connection with
      outbound
      sendable := connection.sendable ++ bytes })

/-- `write_tls` into a vector: the bytes that were written. -/
def writeTls (connection : Connection κ ω) : Except IoError Bytes × Connection κ ω :=
  match rustls.writeSize connection with
  | .error error => (.error error, connection)
  | .ok size =>
    (.ok (connection.sendable.take size),
      { connection with sendable := connection.sendable.drop size })

def wantsWrite (connection : Connection κ ω) : Bool := !connection.sendable.isEmpty

variable {rustls} {connection next : Connection κ ω}

theorem eq_of_write_zero {plaintext : Bytes} (nonempty : plaintext ≠ [])
    (written : rustls.write connection plaintext = (.ok 0, next)) : next = connection := by
  unfold write at written
  split at written
  · simp at written
  · simp only [Prod.mk.injEq, true_and] at written
    exact written.symm
  · rename_i room someRoom _
    simp only [Prod.mk.injEq, Except.ok.injEq, List.length_take] at written
    have bytes := List.length_pos_iff.mpr nonempty
    have positive : room ≠ 0 := someRoom
    omega

theorem sendable_of_writeTls {bytes : Bytes}
    (written : rustls.writeTls connection = (.ok bytes, next)) :
    connection.sendable = bytes ++ next.sendable := by
  unfold writeTls at written
  split at written
  · simp at written
  · obtain ⟨rfl, rfl⟩ := written
    exact (List.take_append_drop _ _).symm

end Rustls

def lengthPrefixed : Framing UInt8 where
  split
    | [] => none
    | size :: rest =>
      if size.toNat ≤ rest.length then
        some (size :: rest.take size.toNat, rest.drop size.toNat)
      else none
  split_eq := by
    intro stream record rest cut
    split at cut
    · simp at cut
    · split at cut
      · cases cut
        rw [List.cons_append, List.take_append_drop]
      · simp at cut
  record_ne_nil := by
    intro stream record rest cut
    split at cut
    · simp at cut
    · split at cut
      · cases cut
        exact List.cons_ne_nil _ _
      · simp at cut
  split_append := by
    intro stream record rest later cut
    split at cut
    · simp at cut
    · rename_i size content
      split at cut
      · rename_i complete
        cases cut
        have stillComplete : size.toNat ≤ (content ++ later).length := by
          rw [List.length_append]
          omega
        simp only [List.cons_append, stillComplete, ↓reduceIte,
          List.take_append_of_le_length complete, List.drop_append_of_le_length complete]
      · simp at cut

/-- A connection that does not encrypt.  The inbound state counts the records
of the peer's handshake to come, and `limit` is the most that one call of
`read_tls` takes. -/
def Rustls.plain (limit : Nat) : Rustls Nat Unit where
  framing := lengthPrefixed
  accept
    | 0, record => (.ok record.tail, 0)
    | expected + 1, _ => (.ok [], expected)
  readSize := fun _ _ => .ok limit
  readEnd := fun _ => .error .wouldBlock
  isHandshaking := fun expected => expected != 0
  reply := fun _ _ => ([], ())
  writerRoom := fun _ => .ok 255
  sealFragments := fun _ fragment => (UInt8.ofNat fragment.length :: fragment, ())
  writeSize := fun connection => .ok connection.sendable.length

def Connection.plain (expected : Nat) : Connection Nat Unit where
  taken := []
  undecoded := []
  inbound := expected
  failure := none
  plaintext := []
  outbound := ()
  sendable := []

end Oak.Tls

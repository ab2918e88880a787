import Oak.Tls.Session

namespace Oak.Tls

open Oak.Data

/-! The inbound half of a connection against the stream of bytes it takes.

`InStep` relates a connection to an earlier one and to the bytes taken since
then: the connection has decoded the complete records among them, and the
reader has handed out their plaintext up to what still waits in the
connection. -/

variable {κ ω : Type}

/-- What is asked of `read_tls` and of the reader: some bytes of a slice are
taken, and reading ends for want of plaintext. -/
structure Reads (rustls : Rustls κ ω) : Prop where
  someBytes : ∀ connection slice, slice ≠ [] →
    ∃ size, rustls.readSize connection slice = .ok size ∧ 0 < size
  endsOpen : ∀ state, rustls.readEnd state = .ok () ∨ rustls.readEnd state = .error .wouldBlock

/-- The records of a stream are accepted from a state on. -/
def Accepted (rustls : Rustls κ ω) (start : κ) (stream : Bytes) : Prop :=
  (rustls.decode start stream).failure = none

instance (rustls : Rustls κ ω) (start : κ) (stream : Bytes) :
    Decidable (Accepted rustls start stream) :=
  inferInstanceAs (Decidable ((rustls.decode start stream).failure = none))

structure InStep (rustls : Rustls κ ω) (base : Connection κ ω) (bytes : Bytes)
    (connection : Connection κ ω) (handedOut : Bytes) : Prop where
  running : connection.failure = none
  taken : connection.taken = base.taken ++ bytes
  accepted : Accepted rustls base.inbound (base.undecoded ++ bytes)
  inbound : connection.inbound = (rustls.decode base.inbound (base.undecoded ++ bytes)).state
  undecoded : connection.undecoded = (rustls.framing.records (base.undecoded ++ bytes)).2
  output : handedOut ++ connection.plaintext =
    (rustls.decode base.inbound (base.undecoded ++ bytes)).output

variable {rustls : Rustls κ ω} {base connection : Connection κ ω} {bytes handedOut : Bytes}

theorem InStep.start (running : connection.failure = none) (drained : connection.plaintext = [])
    (waiting : rustls.framing.records connection.undecoded = ([], connection.undecoded)) :
    InStep rustls connection [] connection [] := by
  have nothing : rustls.decode connection.inbound (connection.undecoded ++ []) =
      { output := [], failure := none, state := connection.inbound } := by
    rw [List.append_nil, Decoder.decode, waiting]
    rfl
  refine ⟨running, (List.append_nil _).symm, ?_, ?_, ?_, ?_⟩
  · rw [Accepted, nothing]
  · rw [nothing]
  · rw [List.append_nil, waiting]
  · rw [nothing, drained]
    rfl

section

variable (inStep : InStep rustls base bytes connection handedOut)

include inStep

theorem InStep.process (more : Bytes) :
    (Accepted rustls base.inbound (base.undecoded ++ (bytes ++ more)) ∧
      ∃ next, rustls.processNewPackets { connection with
          taken := connection.taken ++ more
          undecoded := connection.undecoded ++ more } = (.ok (), next) ∧
        InStep rustls base (bytes ++ more) next handedOut ∧
        next.plaintext = connection.plaintext ++
          (rustls.decode connection.inbound (connection.undecoded ++ more)).output) ∨
    (¬ Accepted rustls base.inbound (base.undecoded ++ (bytes ++ more)) ∧
      ∃ error next, rustls.processNewPackets { connection with
          taken := connection.taken ++ more
          undecoded := connection.undecoded ++ more } = (.error error, next)) := by
  have whole : rustls.decode base.inbound (base.undecoded ++ bytes ++ more) = _ :=
    Decoder.decode_append inStep.accepted
  rw [← inStep.inbound, ← inStep.undecoded, ← inStep.output, List.append_assoc] at whole
  let decoded := rustls.decode connection.inbound (connection.undecoded ++ more)
  have failure : (rustls.decode base.inbound (base.undecoded ++ (bytes ++ more))).failure =
      decoded.failure := by
    rw [whole]
    rfl
  cases outcome : decoded.failure with
  | some error =>
    refine .inr ⟨?_, error, ?_⟩
    · rw [Accepted, failure, outcome]
      simp
    · simp only [Rustls.processNewPackets, inStep.running]
      rw [outcome]
      exact ⟨_, rfl⟩
  | none =>
    have accepted : Accepted rustls base.inbound (base.undecoded ++ (bytes ++ more)) :=
      failure.trans outcome
    refine .inl ⟨accepted, {
      taken := connection.taken ++ more
      undecoded := (rustls.framing.records (connection.undecoded ++ more)).2
      inbound := decoded.state
      failure := none
      plaintext := connection.plaintext ++ decoded.output
      outbound := (rustls.reply decoded.state connection.outbound).2
      sendable := connection.sendable ++ (rustls.reply decoded.state connection.outbound).1 },
      ?_, ⟨rfl, ?_, accepted, ?_, ?_, ?_⟩, rfl⟩
    · simp only [Rustls.processNewPackets, inStep.running, decoded] at outcome ⊢
      simp only [outcome]
    · rw [inStep.taken, List.append_assoc]
    · rw [whole]
      rfl
    · rw [← List.append_assoc, Framing.records_append (base.undecoded ++ bytes) more,
        ← inStep.undecoded]
    · rw [whole, Decoded.prepend, List.append_assoc]

theorem InStep.handOut :
    InStep rustls base bytes { connection with plaintext := [] }
      (handedOut ++ connection.plaintext) :=
  { inStep with output := by rw [List.append_nil]; exact inStep.output }

theorem InStep.withSendable
    (sendable : Bytes) : InStep rustls base bytes { connection with sendable } handedOut :=
  { inStep with }

end

theorem readTls_ok {slice : Bytes} {size : Nat} {next : Connection κ ω}
    (read : rustls.readTls connection slice = (.ok size, next)) : (slice.take size).length = size ∧
      next = { connection with
        taken := connection.taken ++ slice.take size
        undecoded := connection.undecoded ++ slice.take size } := by
  unfold Rustls.readTls at read
  split at read
  · cases read
  · next count _ =>
    cases read
    have same : slice.take (slice.take count).length = slice.take count := by
      rw [List.length_take, ← List.take_take, List.take_length]
    rw [same]
    exact ⟨rfl, rfl⟩

theorem drainPlaintext_ok {session next : OakSessionTls κ ω} {result output : Bytes}
    (drained : session.drainPlaintext rustls result = (.ok output, next)) :
    output = result ++ session.connection.plaintext ∧
      next = ⟨{ session.connection with plaintext := [] }⟩ := by
  unfold OakSessionTls.drainPlaintext Rustls.readToEnd at drained
  cases ending : rustls.readEnd session.connection.inbound with
  | ok _ =>
    rw [ending] at drained
    cases drained
    exact ⟨rfl, rfl⟩
  | error error =>
    rw [ending] at drained
    cases error with
    | wouldBlock =>
      cases drained
      exact ⟨rfl, rfl⟩
    | other message => cases drained

theorem drainPlaintext_connection (rustls : Rustls κ ω) (session : OakSessionTls κ ω) (result : Bytes) :
    (session.drainPlaintext rustls result).2.connection =
      { session.connection with plaintext := [] } := by
  unfold OakSessionTls.drainPlaintext Rustls.readToEnd
  cases rustls.readEnd session.connection.inbound with
  | ok _ => rfl
  | error error =>
    cases error with
    | wouldBlock | other => rfl

theorem Reads.drainPlaintext (reads : Reads rustls) (connection : Connection κ ω) (result : Bytes) :
    OakSessionTls.drainPlaintext rustls ⟨connection⟩ result =
      (.ok (result ++ connection.plaintext), ⟨{ connection with plaintext := [] }⟩) := by
  unfold OakSessionTls.drainPlaintext Rustls.readToEnd
  cases reads.endsOpen connection.inbound with
  | inl closed => rw [closed]
  | inr blocked => rw [blocked]

theorem Reads.readTls (reads : Reads rustls) (connection : Connection κ ω) {slice : Bytes}
    (nonempty : slice ≠ []) :
    ∃ size, size < slice.length ∧ rustls.readTls connection slice = (.ok (size + 1), {
      connection with
        taken := connection.taken ++ slice.take (size + 1)
        undecoded := connection.undecoded ++ slice.take (size + 1) }) := by
  obtain ⟨size, read, positive⟩ := reads.someBytes connection slice nonempty
  have some := List.length_pos_iff.mpr nonempty
  have same : slice.take (min size slice.length) = slice.take size := by
    rw [← List.take_take, List.take_length]
  refine ⟨min size slice.length - 1, by omega, ?_⟩
  have counted : min size slice.length - 1 + 1 = min size slice.length := by omega
  simp [Rustls.readTls, read, counted]

variable {session : OakSessionTls κ ω} {frames : Bytes} {next : OakSessionTls κ ω}

theorem InStep.of_decryptRound (inStep : InStep rustls base bytes session.connection handedOut) {plaintext rest result : Bytes}
    (round : session.decryptRound rustls frames plaintext = (.ok (rest, result), next)) :
    ∃ first output, frames = first ++ rest ∧ first ≠ [] ∧ result = plaintext ++ output ∧
      InStep rustls base (bytes ++ first) next.connection (handedOut ++ output) ∧
      next.connection.plaintext = [] := by
  unfold OakSessionTls.decryptRound at round
  split at round
  · cases round
  · cases round
  · next size connection positive read =>
    obtain ⟨counted, rfl⟩ := readTls_ok read
    have some : frames.take size ≠ [] := by
      intro empty
      rw [empty] at counted
      exact positive counted.symm
    rcases inStep.process (frames.take size) with
      ⟨_, processed, process, processedInStep, _⟩ | ⟨_, error, failed, process⟩
    · simp only [process] at round
      split at round
      · cases round
      · next drained =>
        obtain ⟨rfl, rfl⟩ := drainPlaintext_ok drained
        cases round
        exact ⟨_, _, (List.take_append_drop size frames).symm, some, rfl, processedInStep.handOut, rfl⟩
    · simp only [process] at round
      cases round

/-- The loop of `decrypt`, whatever the crate reads: if it succeeds, it has taken
all frames and returned their plaintext. -/
theorem InStep.of_decryptRounds (inStep : InStep rustls base bytes session.connection handedOut)
    (drained : session.connection.plaintext = []) {plaintext result : Bytes} {rounds : Nat}
    (enough : frames.length ≤ rounds)
    (decrypted : OakSessionTls.decryptRounds rustls rounds session frames plaintext =
      (.ok result, next)) : ∃ output, result = plaintext ++ output ∧
      InStep rustls base (bytes ++ frames) next.connection (handedOut ++ output) ∧
      next.connection.plaintext = [] := by
  induction rounds generalizing session frames plaintext bytes handedOut with
  | zero =>
    obtain rfl := List.eq_nil_of_length_eq_zero (Nat.le_zero.mp enough)
    cases decrypted
    exact ⟨[], by simp, by simpa using inStep, drained⟩
  | succ rounds ih =>
    unfold OakSessionTls.decryptRounds at decrypted
    split at decrypted
    · next empty =>
      obtain rfl := List.isEmpty_iff.mp empty
      cases decrypted
      exact ⟨[], by simp, by simpa using inStep, drained⟩
    · split at decrypted
      · cases decrypted
      · next rest soFar middle round =>
        obtain ⟨first, output, cut, some, rfl, middleInStep, middleDrained⟩ :=
          inStep.of_decryptRound round
        have fewer : rest.length ≤ rounds := by
          have positive := List.length_pos_iff.mpr some
          have whole := congrArg List.length cut
          rw [List.length_append] at whole
          omega
        obtain ⟨more, rfl, nextInStep, nextDrained⟩ :=
          ih middleInStep middleDrained fewer decrypted
        rw [List.append_assoc, ← cut, List.append_assoc] at nextInStep
        exact ⟨output ++ more, by rw [List.append_assoc], nextInStep, nextDrained⟩

section

variable (reads : Reads rustls) (inStep : InStep rustls base bytes session.connection handedOut)
  {next : OakSessionTls κ ω} {error : SessionError} {plaintext : Bytes}

include reads inStep

theorem InStep.refused_decryptRound (nonempty : frames ≠ [])
    (failed : session.decryptRound rustls frames plaintext = (.error error, next)) :
    ¬ Accepted rustls base.inbound (base.undecoded ++ (bytes ++ frames)) := by
  obtain ⟨size, -, read⟩ := reads.readTls session.connection nonempty
  rcases inStep.process (frames.take (size + 1)) with ⟨_, processed, process, _⟩ | ⟨refused, -⟩
  · simp [OakSessionTls.decryptRound, read, process, reads.drainPlaintext] at failed
  · intro accepted
    rw [← List.take_append_drop (size + 1) frames, ← List.append_assoc, ← List.append_assoc,
      List.append_assoc base.undecoded] at accepted
    exact refused (Decoder.decode_failure accepted)

theorem InStep.refused_decryptRounds {rounds : Nat}
    (failed : OakSessionTls.decryptRounds rustls rounds session frames plaintext =
      (.error error, next)) :
    ¬ Accepted rustls base.inbound (base.undecoded ++ (bytes ++ frames)) := by
  induction rounds generalizing session frames plaintext bytes handedOut with
  | zero => cases failed
  | succ rounds ih =>
    unfold OakSessionTls.decryptRounds at failed
    split at failed
    · cases failed
    · next nonempty =>
      split at failed
      · next round =>
        exact inStep.refused_decryptRound reads (by simpa using nonempty) round
      · next round =>
        obtain ⟨first, output, cut, -, -, middleInStep, -⟩ := inStep.of_decryptRound round
        have refused := ih middleInStep failed
        rwa [List.append_assoc, ← cut] at refused

/-- The loop of `decrypt` takes all frames and returns their plaintext, if their
records are accepted, and fails otherwise. -/
theorem InStep.decryptRounds (drained : session.connection.plaintext = []) {rounds : Nat}
    (enough : frames.length ≤ rounds) (plaintext : Bytes) :
    (Accepted rustls base.inbound (base.undecoded ++ (bytes ++ frames)) ∧
      ∃ output next, OakSessionTls.decryptRounds rustls rounds session frames plaintext =
          (.ok (plaintext ++ output), ⟨next⟩) ∧
        InStep rustls base (bytes ++ frames) next (handedOut ++ output) ∧ next.plaintext = []) ∨
    (¬ Accepted rustls base.inbound (base.undecoded ++ (bytes ++ frames)) ∧
      ∃ error next, OakSessionTls.decryptRounds rustls rounds session frames plaintext =
        (.error error, next)) := by
  cases decrypted : OakSessionTls.decryptRounds rustls rounds session frames plaintext with
  | mk outcome next =>
    cases outcome with
    | error error => exact .inr ⟨inStep.refused_decryptRounds reads decrypted, error, next, rfl⟩
    | ok result =>
      obtain ⟨output, rfl, nextInStep, nextDrained⟩ :=
        inStep.of_decryptRounds drained enough decrypted
      exact .inl ⟨nextInStep.accepted, output, next.connection, rfl, nextInStep, nextDrained⟩

end

end Oak.Tls

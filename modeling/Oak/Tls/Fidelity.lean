import Oak.Tls.Inbound

namespace Oak.Tls.Fidelity

open Oak.Data

/-! What a new session returns of the stream that the peer sends.

The frames of the stream go through the handshake first and then, one after
the other, through `decrypt`. -/

variable {κ ω ε : Type} {rustls : Rustls κ ω} {base connection : Connection κ ω}
  {bytes handedOut : Bytes}

/-- The results of `decrypt` on one frame after the other. -/
def decryptAll (rustls : Rustls κ ω) (session : OakSessionTls κ ω) :
    List Bytes → Except SessionError (List Bytes) × OakSessionTls κ ω
  | [] => (.ok [], session)
  | frame :: rest =>
    match session.decrypt rustls frame with
    | (.error error, session) => (.error error, session)
    | (.ok plaintext, session) =>
      match decryptAll rustls session rest with
      | (.error error, session) => (.error error, session)
      | (.ok later, session) => (.ok (plaintext :: later), session)

theorem decryptAll_inStep (reads : Reads rustls) {session : OakSessionTls κ ω}
    (inStep : InStep rustls base bytes session.connection handedOut)
    (drained : session.connection.plaintext = []) {frames : List Bytes}
    (accepted : Accepted rustls base.inbound (base.undecoded ++ (bytes ++ frames.flatten))) :
    ∃ results next, decryptAll rustls session frames = (.ok results, next) ∧
      InStep rustls base (bytes ++ frames.flatten) next.connection (handedOut ++ results.flatten) ∧
      next.connection.plaintext = [] := by
  induction frames generalizing session handedOut bytes with
  | nil => exact ⟨[], session, rfl, by simpa using inStep, drained⟩
  | cons frame rest ih =>
    rw [List.flatten_cons, ← List.append_assoc bytes] at accepted ⊢
    rcases inStep.decryptRounds reads drained (le_refl frame.length) [] with
      ⟨_, output, middle, decrypted, middleInStep, middleDrained⟩ | ⟨refused, _⟩
    · obtain ⟨results, next, later, nextInStep, nextDrained⟩ :=
        ih middleInStep middleDrained accepted
      refine ⟨output :: results, next, ?_, ?_, nextDrained⟩
      · rw [List.nil_append] at decrypted
        simp only [decryptAll, OakSessionTls.decrypt, decrypted, later]
      · rwa [List.flatten_cons, ← List.append_assoc handedOut]
    · rw [← List.append_assoc] at accepted
      exact absurd (Decoder.decode_failure accepted) refused

section Counting

theorem readTls_size {next : Connection κ ω} {slice : Bytes} {size : Nat}
    (read : rustls.readTls connection slice = (.ok size, next)) :
    next.taken.length = connection.taken.length + size ∧ size ≤ slice.length := by
  obtain ⟨counted, rfl⟩ := readTls_ok read
  exact ⟨by rw [List.length_append, counted], counted ▸ List.length_take_le' _ _⟩

theorem processNewPackets_taken (rustls : Rustls κ ω) (connection : Connection κ ω) :
    (rustls.processNewPackets connection).2.taken = connection.taken := by
  unfold Rustls.processNewPackets
  split
  · rfl
  · simp only
    split <;> rfl

variable {session next : OakSessionTls κ ω}

theorem decryptRound_taken {frames plaintext left output : Bytes}
    (round : session.decryptRound rustls frames plaintext = (.ok (left, output), next)) :
    next.connection.taken.length + left.length =
      session.connection.taken.length + frames.length := by
  unfold OakSessionTls.decryptRound at round
  split at round
  · simp at round
  · simp at round
  · rename_i size connection _ read
    obtain ⟨grown, fits⟩ := readTls_size read
    have kept := processNewPackets_taken rustls connection
    split at round
    · simp at round
    · rename_i processed process
      rw [process] at kept
      have same := drainPlaintext_connection rustls ⟨processed⟩ plaintext
      split at round
      · simp at round
      · rename_i drain
        rw [drain] at same
        cases round
        rw [List.length_drop, same, kept]
        omega

theorem decryptRounds_taken {rounds : Nat} {frames plaintext output : Bytes}
    (decrypted : OakSessionTls.decryptRounds rustls rounds session frames plaintext =
      (.ok output, next)) :
    next.connection.taken.length ≤ session.connection.taken.length + frames.length := by
  induction rounds generalizing session frames plaintext with
  | zero =>
    cases decrypted
    exact Nat.le_add_right _ _
  | succ rounds ih =>
    unfold OakSessionTls.decryptRounds at decrypted
    split at decrypted
    · cases decrypted
      exact Nat.le_add_right _ _
    · split at decrypted
      · simp at decrypted
      · rename_i round
        have counted := decryptRound_taken round
        have rest := ih decrypted
        omega

theorem decryptAll_taken {frames results : List Bytes}
    (decrypted : decryptAll rustls session frames = (.ok results, next)) :
    next.connection.taken.length ≤ session.connection.taken.length + frames.flatten.length := by
  induction frames generalizing session results with
  | nil =>
    cases decrypted
    exact Nat.le_add_right _ _
  | cons frame rest ih =>
    unfold decryptAll at decrypted
    split at decrypted
    · simp at decrypted
    · rename_i first
      have bound := decryptRounds_taken first
      split at decrypted
      · simp at decrypted
      · rename_i later
        cases decrypted
        have rest := ih later
        rw [List.flatten_cons, List.length_append]
        omega

end Counting

section Handshake

variable {sender : Bytes → Except ε Unit} {ending : Except ε Unit}
  {initializer : OakSessionTlsInitializer κ ω} {session : OakSessionTls κ ω}
  {initialData : Bytes} {frames rest : List Bytes}

def handshakePuts (rustls : Rustls κ ω) (sender : Bytes → Except ε Unit)
    (initializer : OakSessionTlsInitializer κ ω) (frames : List Bytes) :
    List (Connection κ ω × Bytes) :=
  if initializer.isReady rustls then []
  else
    match initializer.flush rustls sender with
    | .error _ => []
    | .ok initializer =>
      if initializer.isReady rustls then []
      else
        match frames with
        | [] => []
        | frame :: rest =>
          (initializer.connection, frame) ::
            match initializer.putTlsFrame rustls frame with
            | (.error _, _) => []
            | (.ok _, next) => handshakePuts rustls sender next rest

theorem flush_sendable {flushed : OakSessionTlsInitializer κ ω}
    (flushing : initializer.flush rustls sender = .ok flushed) :
    ∃ sendable, flushed.connection = { initializer.connection with sendable } := by
  unfold OakSessionTlsInitializer.flush OakSessionTlsInitializer.getTlsFrame Rustls.writeTls
    at flushing
  cases size : rustls.writeSize initializer.connection with
  | error error => simp [size] at flushing
  | ok count =>
    simp only [size] at flushing
    split at flushing
    · cases flushing
      exact ⟨_, rfl⟩
    · split at flushing
      · simp at flushing
      · cases flushing
        exact ⟨_, rfl⟩

theorem finish_eq (reads : Reads rustls) {last : OakSessionTlsInitializer κ ω}
    (finished : (last.finish rustls frames : Except (HandshakeError ε) _) =
      .ok (session, initialData, rest)) :
    session.connection = { last.connection with plaintext := [] } ∧
      initialData = last.connection.plaintext ∧ rest = frames := by
  unfold OakSessionTlsInitializer.finish OakSessionTlsInitializer.getOpenSession at finished
  rw [reads.drainPlaintext] at finished
  split at finished
  · simp at finished
  · rename_i opened
    split at opened
    · cases opened
      cases finished
      exact ⟨rfl, rfl, rfl⟩
    · simp at opened

/-- The ways in which a handshake is completed: it opens the session, or it
puts a frame and goes on. -/
theorem handshake_cases (reads : Reads rustls)
    (completed : initializer.handshake rustls sender ending frames =
      .ok (session, initialData, rest)) :
    ∃ sendable, (handshakePuts rustls sender initializer frames = [] ∧
      session.connection = { initializer.connection with sendable, plaintext := [] } ∧
      initialData = initializer.connection.plaintext ∧ rest = frames) ∨
    ∃ (flushed next : OakSessionTlsInitializer κ ω) (frame : Bytes) (later : List Bytes) (dropped : _),
      frames = frame :: later ∧
      flushed.connection = { initializer.connection with sendable } ∧
      flushed.putTlsFrame rustls frame = (.ok dropped, next) ∧
      handshakePuts rustls sender initializer frames =
        (flushed.connection, frame) :: handshakePuts rustls sender next later ∧
      next.handshake rustls sender ending later = .ok (session, initialData, rest) := by
  rw [OakSessionTlsInitializer.handshake] at completed
  rw [handshakePuts]
  by_cases ready : initializer.isReady rustls
  · rw [if_pos ready] at completed ⊢
    exact ⟨_, .inl ⟨rfl, finish_eq reads completed⟩⟩
  · rw [if_neg ready] at completed ⊢
    cases flushing : initializer.flush rustls sender with
    | error error => simp [flushing] at completed
    | ok flushed =>
      obtain ⟨sendable, flushedEq⟩ := flush_sendable flushing
      have finished (finishes : (flushed.finish rustls frames : Except (HandshakeError ε) _) =
          .ok (session, initialData, rest)) := flushedEq ▸ finish_eq reads finishes
      simp only [flushing] at completed ⊢
      by_cases nowReady : flushed.isReady rustls
      · rw [if_pos nowReady] at completed ⊢
        exact ⟨sendable, .inl ⟨rfl, finished completed⟩⟩
      · rw [if_neg nowReady] at completed ⊢
        cases frames with
        | nil =>
          cases ending with
          | error error => simp at completed
          | ok _ => exact ⟨sendable, .inl ⟨rfl, finished completed⟩⟩
        | cons frame later =>
          simp only at completed ⊢
          cases put : flushed.putTlsFrame rustls frame with
          | mk result next =>
            cases result with
            | error error => simp [put] at completed
            | ok dropped =>
              simp only [put] at completed
              exact ⟨sendable, .inr ⟨flushed, next, frame, later, dropped, rfl, flushedEq, put, rfl,
                completed⟩⟩

/-- `read_tls` takes the whole frame in one call. -/
def TakenWhole (rustls : Rustls κ ω) (put : Connection κ ω × Bytes) : Prop :=
  (rustls.readTls put.1 put.2).1 = .ok put.2.length

instance (rustls : Rustls κ ω) (put : Connection κ ω × Bytes) :
    Decidable (TakenWhole rustls put) :=
  inferInstanceAs (Decidable ((rustls.readTls put.1 put.2).1 = .ok put.2.length))

def completedBy (rustls : Rustls κ ω) (put : Connection κ ω × Bytes) : Bytes :=
  (rustls.decode put.1.inbound (put.1.undecoded ++ put.2)).output

section

variable (reads : Reads rustls) (inStep : InStep rustls base bytes initializer.connection handedOut)
    (drained : initializer.connection.plaintext = [])

include reads inStep drained

theorem putTlsFrame_inStep {frame : Bytes} (nonempty : frame ≠ [])
    (whole : TakenWhole rustls (initializer.connection, frame))
    (accepted : Accepted rustls base.inbound (base.undecoded ++ (bytes ++ frame))) :
    ∃ next : OakSessionTlsInitializer κ ω, initializer.putTlsFrame rustls frame =
        (.ok (completedBy rustls (initializer.connection, frame)), next) ∧
      InStep rustls base (bytes ++ frame) next.connection
        (handedOut ++ completedBy rustls (initializer.connection, frame)) ∧
      next.connection.plaintext = [] := by
  obtain ⟨size, short, read⟩ := reads.readTls initializer.connection nonempty
  have all : size + 1 = frame.length := by
    unfold TakenWhole at whole
    rw [read] at whole
    exact Except.ok.inj whole
  rw [all, List.take_length] at read
  rcases inStep.process frame with ⟨_, processed, process, processedInStep, decoded⟩ | ⟨refused, _⟩
  · rw [drained, List.nil_append] at decoded
    refine ⟨⟨{ processed with plaintext := [] }⟩, ?_, ?_, rfl⟩
    · rw [← all] at read
      simp only [OakSessionTlsInitializer.putTlsFrame, read, process, Rustls.readToEnd, decoded,
        completedBy]
    · have handed := processedInStep.handOut
      rwa [decoded] at handed
  · exact absurd accepted refused

/-- A handshake whose frames are all taken whole has read what it was sent, and
has dropped the application data that the frames completed. -/
theorem handshake_inStep (nonempty : ∀ frame ∈ frames, frame ≠ [])
    (accepted : Accepted rustls base.inbound (base.undecoded ++ (bytes ++ frames.flatten)))
    (whole : ∀ put ∈ handshakePuts rustls sender initializer frames, TakenWhole rustls put)
    (completed : initializer.handshake rustls sender ending frames =
      .ok (session, initialData, rest)) :
    ∃ read, initialData = [] ∧ read ++ rest.flatten = bytes ++ frames.flatten ∧
      InStep rustls base read session.connection (handedOut ++
        (handshakePuts rustls sender initializer frames).flatMap (completedBy rustls)) ∧
      session.connection.plaintext = [] := by
  induction size : frames.length using Nat.strongRecOn generalizing initializer handedOut bytes frames
    with | ind _ ih
  obtain ⟨sendable, ⟨none, opened, initial, rfl⟩ |
    ⟨flushed, next, frame, later, dropped, rfl, flushedEq, put, puts, goesOn⟩⟩ :=
      handshake_cases reads completed
  · have handed := (inStep.withSendable sendable).handOut
    rw [drained] at handed initial
    exact ⟨bytes, initial, rfl, by simpa [none, opened] using handed, by rw [opened]⟩
  · have flushedInStep := inStep.withSendable sendable
    rw [← flushedEq] at flushedInStep
    rw [List.flatten_cons, ← List.append_assoc bytes] at accepted ⊢
    rw [puts] at whole ⊢
    have soFar : Accepted rustls base.inbound (base.undecoded ++ (bytes ++ frame)) := by
      rw [← List.append_assoc base.undecoded] at accepted
      exact Decoder.decode_failure accepted
    obtain ⟨after, putEq, afterInStep, afterDrained⟩ :=
      putTlsFrame_inStep reads flushedInStep (by rw [flushedEq]; exact drained)
        (nonempty _ List.mem_cons_self) (whole _ List.mem_cons_self) soFar
    cases putEq.symm.trans put
    obtain ⟨read, initial, total, opened, empty⟩ := ih later.length (by simp [← size]) afterInStep afterDrained
      (fun frame member => nonempty frame (List.mem_cons_of_mem _ member)) accepted
      (fun put member => whole put (List.mem_cons_of_mem _ member)) goesOn rfl
    refine ⟨read, initial, total, ?_, empty⟩
    rwa [List.flatMap_cons, ← List.append_assoc handedOut]

end

theorem putTlsFrame_taken {next : OakSessionTlsInitializer κ ω} {frame dropped : Bytes}
    (put : initializer.putTlsFrame rustls frame = (.ok dropped, next)) :
    ∃ size, (rustls.readTls initializer.connection frame).1 = .ok size ∧ size ≤ frame.length ∧
      next.connection.taken.length = initializer.connection.taken.length + size := by
  unfold OakSessionTlsInitializer.putTlsFrame at put
  split at put
  · simp at put
  · simp at put
  · rename_i size connection _ read
    obtain ⟨grown, fits⟩ := readTls_size read
    have kept := processNewPackets_taken rustls connection
    split at put
    · simp at put
    · rename_i process
      rw [process] at kept
      cases put
      refine ⟨size, by rw [read], fits, ?_⟩
      rw [← grown, ← kept]

/-- A handshake takes no more than the frames it puts, and no less only if it
takes each of them whole. -/
theorem handshake_taken (reads : Reads rustls)
    (completed : initializer.handshake rustls sender ending frames =
      .ok (session, initialData, rest)) : session.connection.taken.length + rest.flatten.length ≤
        initializer.connection.taken.length + frames.flatten.length ∧
      (initializer.connection.taken.length + frames.flatten.length ≤
          session.connection.taken.length + rest.flatten.length →
        ∀ put ∈ handshakePuts rustls sender initializer frames, TakenWhole rustls put) := by
  induction count : frames.length using Nat.strongRecOn generalizing initializer frames with | ind _ ih
  obtain ⟨sendable, ⟨none, opened, _, rfl⟩ |
    ⟨flushed, next, frame, later, dropped, rfl, flushedEq, put, puts, goesOn⟩⟩ :=
      handshake_cases reads completed
  · rw [opened, none]
    exact ⟨Nat.le_refl _, fun _ => List.forall_mem_nil _⟩
  · obtain ⟨size, read, fits, grown⟩ := putTlsFrame_taken put
    have sameTaken : flushed.connection.taken = initializer.connection.taken := by rw [flushedEq]
    rw [sameTaken] at grown
    obtain ⟨bound, whole⟩ := ih later.length (by simp [← count]) goesOn rfl
    rw [puts, List.flatten_cons, List.length_append, List.forall_mem_cons]
    refine ⟨by omega, fun enough => ⟨?_, whole (by omega)⟩⟩
    have all : size = frame.length := by omega
    rw [all] at read
    exact read

end Handshake

structure Fresh (connection : Connection κ ω) : Prop where
  taken : connection.taken = []
  undecoded : connection.undecoded = []
  running : connection.failure = none
  plaintext : connection.plaintext = []

theorem Fresh.inStep (fresh : Fresh connection) : InStep rustls connection [] connection [] :=
  .start fresh.running fresh.plaintext (by rw [fresh.undecoded]; rfl)

/-- The bytes taken and the plaintext returned, by the handshake and by
`decrypt` on the remaining frames, if no call fails. -/
def returned (rustls : Rustls κ ω) (sender : Bytes → Except ε Unit) (ending : Except ε Unit)
    (initializer : OakSessionTlsInitializer κ ω) (frames : List Bytes) : Option (Bytes × Bytes) :=
  match newInitializedSession rustls (.ok initializer) sender ending frames with
  | .error _ => none
  | .ok (session, initialData, rest) =>
    match decryptAll rustls session rest with
    | (.error _, _) => none
    | (.ok results, final) => some (final.connection.taken, initialData ++ results.flatten)

/-- Every byte of the stream is taken, and the plaintext returned is that of
the application records of the stream. -/
def Faithful (rustls : Rustls κ ω) (sender : Bytes → Except ε Unit) (ending : Except ε Unit)
    (initializer : OakSessionTlsInitializer κ ω) (frames : List Bytes) : Prop :=
  returned rustls sender ending initializer frames = some (frames.flatten,
    (rustls.decode initializer.connection.inbound frames.flatten).output)

instance (rustls : Rustls κ ω) (sender : Bytes → Except ε Unit) (ending : Except ε Unit)
    (initializer : OakSessionTlsInitializer κ ω) (frames : List Bytes) :
    Decidable (Faithful rustls sender ending initializer frames) :=
  inferInstanceAs (Decidable (returned rustls sender ending initializer frames = some _))

def readingWhole (rustls : Rustls κ ω) : Rustls κ ω :=
  { rustls with readSize := fun _ slice => .ok slice.length }

/-- The frames of a peer's stream: its records are accepted, and its handshake
completes when the frames are read whole. -/
structure PeerStream (rustls : Rustls κ ω) (sender : Bytes → Except ε Unit)
    (ending : Except ε Unit) (initializer : OakSessionTlsInitializer κ ω) (frames : List Bytes) :
    Prop where
  fresh : Fresh initializer.connection
  nonempty : ∀ frame ∈ frames, frame ≠ []
  accepted : Accepted rustls initializer.connection.inbound frames.flatten
  completes : ∃ opened, newInitializedSession (readingWhole rustls) (.ok initializer) sender
    ending frames = .ok opened

section Completed

variable {sender : Bytes → Except ε Unit} {ending : Except ε Unit}
  {initializer : OakSessionTlsInitializer κ ω} {frames rest : List Bytes}
  {session : OakSessionTls κ ω} {initialData : Bytes}

theorem readTls_whole {frame : Bytes} (whole : TakenWhole rustls (connection, frame)) :
    rustls.readTls connection frame = (readingWhole rustls).readTls connection frame := by
  unfold TakenWhole at whole
  unfold Rustls.readTls readingWhole at *
  cases read : rustls.readSize connection frame with
  | error error => simp [read] at whole
  | ok size =>
    simp only [read, Except.ok.injEq, List.length_take] at whole
    have all : frame.take size = frame := List.take_of_length_le (by omega)
    simp [all]

theorem putTlsFrame_whole {frame : Bytes}
    (whole : TakenWhole rustls (initializer.connection, frame)) :
    initializer.putTlsFrame (readingWhole rustls) frame = initializer.putTlsFrame rustls frame := by
  unfold OakSessionTlsInitializer.putTlsFrame
  rw [readTls_whole whole]
  rfl

/-- A handshake that takes its frames whole is that of a connection which reads
every slice whole. -/
theorem handshake_whole
    (whole : ∀ put ∈ handshakePuts rustls sender initializer frames, TakenWhole rustls put) :
    initializer.handshake rustls sender ending frames =
      initializer.handshake (readingWhole rustls) sender ending frames := by
  induction frames generalizing initializer with
  | nil =>
    rw [OakSessionTlsInitializer.handshake, OakSessionTlsInitializer.handshake]
    rfl
  | cons frame rest ih =>
    have sameReady (some : OakSessionTlsInitializer κ ω) :
        some.isReady (readingWhole rustls) = some.isReady rustls := rfl
    have sameFlush : initializer.flush (readingWhole rustls) sender =
        initializer.flush rustls sender := rfl
    rw [handshakePuts] at whole
    rw [OakSessionTlsInitializer.handshake, OakSessionTlsInitializer.handshake, sameFlush,
      sameReady]
    by_cases ready : initializer.isReady rustls
    · rw [if_pos ready, if_pos ready]
      rfl
    · rw [if_neg ready] at whole
      rw [if_neg ready, if_neg ready]
      cases flushing : initializer.flush rustls sender with
      | error error => rfl
      | ok flushed =>
        simp only [flushing, sameReady] at whole ⊢
        by_cases nowReady : flushed.isReady rustls
        · rw [if_pos nowReady, if_pos nowReady]
          rfl
        · rw [if_neg nowReady] at whole
          rw [if_neg nowReady, if_neg nowReady, putTlsFrame_whole (whole _ List.mem_cons_self)]
          cases put : flushed.putTlsFrame rustls frame with
          | mk result next =>
            cases result with
            | error error => rfl
            | ok dropped =>
              simp only [put] at whole
              exact ih fun put member => whole put (List.mem_cons_of_mem _ member)

/-- After a handshake whose frames are all taken whole, all plaintext is
returned that the handshake has not dropped. -/
theorem PeerStream.returned (reads : Reads rustls)
    (stream : PeerStream rustls sender ending initializer frames)
    (whole : ∀ put ∈ handshakePuts rustls sender initializer frames, TakenWhole rustls put)
    (completed : initializer.handshake rustls sender ending frames =
      .ok (session, initialData, rest)) :
    ∃ plaintext, Fidelity.returned rustls sender ending initializer frames =
        some (frames.flatten, plaintext) ∧
      (handshakePuts rustls sender initializer frames).flatMap (completedBy rustls) ++ plaintext =
        (rustls.decode initializer.connection.inbound frames.flatten).output := by
  have accepted : Accepted rustls initializer.connection.inbound
      (initializer.connection.undecoded ++ ([] ++ frames.flatten)) := by
    rw [stream.fresh.undecoded]
    exact stream.accepted
  obtain ⟨read, rfl, total, opened, drained⟩ := handshake_inStep reads stream.fresh.inStep
    stream.fresh.plaintext stream.nonempty accepted whole completed
  obtain ⟨results, final, decrypted, finalInStep, finalDrained⟩ :=
    decryptAll_inStep reads opened drained (by rwa [total])
  rw [total] at finalInStep
  refine ⟨results.flatten, ?_, ?_⟩
  · have taken := finalInStep.taken
    rw [stream.fresh.taken] at taken
    simp [Fidelity.returned, newInitializedSession, completed, decrypted, taken]
  · have output := finalInStep.output
    rwa [finalDrained, List.append_nil, stream.fresh.undecoded] at output

theorem whole_of_faithful (reads : Reads rustls) (fresh : Fresh initializer.connection)
    (faithful : Faithful rustls sender ending initializer frames) :
    (∃ opened, initializer.handshake rustls sender ending frames = .ok opened) ∧
      ∀ put ∈ handshakePuts rustls sender initializer frames, TakenWhole rustls put := by
  unfold Faithful Fidelity.returned newInitializedSession at faithful
  split at faithful
  · simp at faithful
  · rename_i session initialData rest completed
    refine ⟨⟨_, completed⟩, ?_⟩
    split at faithful
    · simp at faithful
    · rename_i decrypted
      have bound := decryptAll_taken decrypted
      simp only [Option.some.injEq, Prod.mk.injEq] at faithful
      rw [faithful.1] at bound
      apply (handshake_taken reads completed).2
      rwa [fresh.taken, List.length_nil, Nat.zero_add]

/-- The plaintext of a peer's stream is returned if and only if every frame of
the handshake is taken whole and completes no application data. -/
theorem faithful_iff (reads : Reads rustls)
    (stream : PeerStream rustls sender ending initializer frames) :
    Faithful rustls sender ending initializer frames ↔
      ∀ put ∈ handshakePuts rustls sender initializer frames,
        TakenWhole rustls put ∧ completedBy rustls put = [] := by
  constructor
  · intro faithful
    obtain ⟨⟨opened, completed⟩, whole⟩ := whole_of_faithful reads stream.fresh faithful
    obtain ⟨plaintext, again, total⟩ := stream.returned reads whole completed
    have same := Option.some.inj (faithful.symm.trans again)
    rw [Prod.mk.injEq, ← total] at same
    have nothing := List.append_left_eq_self.mp same.2
    intro put member
    exact ⟨whole put member, List.flatMap_eq_nil_iff.mp nothing put member⟩
  · intro quiet
    have whole := fun put member => (quiet put member).1
    obtain ⟨opened, completed⟩ := stream.completes
    obtain ⟨plaintext, again, total⟩ :=
      stream.returned reads whole ((handshake_whole whole).trans completed)
    rw [List.flatMap_eq_nil_iff.mpr (fun put member => (quiet put member).2),
      List.nil_append] at total
    rw [Faithful, again, total]

end Completed

section Plain

theorem plain_reads (limit : Nat) : Reads (Rustls.plain (limit + 1)) where
  someBytes := fun _ _ _ => ⟨limit + 1, rfl, Nat.succ_pos limit⟩
  endsOpen := fun _ => .inr rfl

def accepting (_ : Bytes) : Except Unit Unit := .ok ()

def waiting : OakSessionTlsInitializer Nat Unit := ⟨Connection.plain 1⟩

theorem waiting_fresh : Fresh waiting.connection := ⟨rfl, rfl, rfl, rfl⟩

theorem separate_frames_faithful :
    Faithful (Rustls.plain 4096) accepting (.ok ()) waiting [[1, 0], [2, 120, 121]] :=
  (faithful_iff (plain_reads 4095) ⟨waiting_fresh, by decide, by decide, ⟨_, rfl⟩⟩).mpr (by decide)

/-- Application data in the last frame of the handshake is dropped, and so is
the part of a frame that `read_tls` leaves. -/
theorem bundled_data_lost :
    (PeerStream (Rustls.plain 4096) accepting (.ok ()) waiting [[1, 0, 2, 120, 121]] ∧
      ¬ Faithful (Rustls.plain 4096) accepting (.ok ()) waiting [[1, 0, 2, 120, 121]]) ∧
    (PeerStream (Rustls.plain 2) accepting (.ok ()) waiting [[1, 0, 2, 120, 121]] ∧
      ¬ Faithful (Rustls.plain 2) accepting (.ok ()) waiting [[1, 0, 2, 120, 121]]) :=
  ⟨⟨⟨waiting_fresh, by decide, by decide, ⟨_, rfl⟩⟩, by decide⟩,
    ⟨waiting_fresh, by decide, by decide, ⟨_, rfl⟩⟩, by decide⟩

end Plain

end Oak.Tls.Fidelity

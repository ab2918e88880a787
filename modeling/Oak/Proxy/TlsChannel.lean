import Oak.Proxy.Channel
import Oak.Tls.Inbound

namespace Oak.Proxy

open Oak.Data Oak.Crypto Oak.Tls

/-! The channel of two TLS sessions.

What the record layer of the crate guarantees is `RecordLayer`: the bytes that
a connection queues are those of sealed records, and a connection counts the
records it opens.  A stream of records may be cut into frames anywhere. -/

def recordBytes (log : List SealedRecord) : Bytes := log.flatMap SealedRecord.record

@[simp] theorem recordBytes_append (first second : List SealedRecord) :
    recordBytes (first ++ second) = recordBytes first ++ recordBytes second :=
  List.flatMap_append

@[simp] theorem carried_append (first second : List SealedRecord) :
    carried (first ++ second) = carried first ++ carried second :=
  List.flatMap_append

/-- `sealedBy` are the records that the outbound half has sealed since the
handshake, and `opened` counts the records that the inbound half has opened. -/
structure RecordLayer {κ ω : Type} (rustls : Rustls κ ω) where
  sealedBy : ω → List SealedRecord
  opened : κ → Nat
  sealFragments_sealed : ∀ outbound plaintext, ∃ new,
    sealedBy (rustls.sealFragments outbound plaintext).2 = sealedBy outbound ++ new ∧
      (rustls.sealFragments outbound plaintext).1 = recordBytes new ∧ carried new = plaintext
  reply_sealed : ∀ inbound outbound, ∃ new,
    sealedBy (rustls.reply inbound outbound).2 = sealedBy outbound ++ new ∧
      (rustls.reply inbound outbound).1 = recordBytes new ∧ carried new = []
  accept_opened : ∀ {state record plaintext next},
    rustls.accept state record = (.ok plaintext, next) → opened next = opened state + 1

variable {κ ω : Type} {rustls : Rustls κ ω}

section Outbound

variable {layer : RecordLayer rustls} {before middle after : Connection κ ω}

/-- Since then the connection has sealed these records and written these bytes. -/
structure Queued (layer : RecordLayer rustls) (before after : Connection κ ω)
    (new : List SealedRecord) (written : Bytes) : Prop where
  records : layer.sealedBy after.outbound = layer.sealedBy before.outbound ++ new
  bytes : before.sendable ++ recordBytes new = written ++ after.sendable

theorem Queued.refl (layer : RecordLayer rustls) (connection : Connection κ ω) :
    Queued layer connection connection [] [] :=
  ⟨(List.append_nil _).symm, List.append_nil _⟩

theorem Queued.trans {first second : List SealedRecord} {written more : Bytes}
    (one : Queued layer before middle first written) (two : Queued layer middle after second more) :
    Queued layer before after (first ++ second) (written ++ more) := by
  refine ⟨by rw [two.records, one.records, List.append_assoc], ?_⟩
  rw [recordBytes_append, ← List.append_assoc, one.bytes, List.append_assoc, two.bytes,
    List.append_assoc]

theorem Queued.processNewPackets (layer : RecordLayer rustls) (connection : Connection κ ω) :
    ∃ new, Queued layer connection (rustls.processNewPackets connection).2 new [] ∧
      carried new = [] := by
  unfold Rustls.processNewPackets
  split
  · exact ⟨[], Queued.refl layer connection, rfl⟩
  · obtain ⟨new, records, bytes, nothing⟩ := layer.reply_sealed
      (rustls.decode connection.inbound connection.undecoded).state connection.outbound
    simp only
    split
    · exact ⟨new, ⟨records, by rw [bytes]; rfl⟩, nothing⟩
    · exact ⟨new, ⟨records, by rw [bytes]; rfl⟩, nothing⟩

theorem Queued.decryptRound (layer : RecordLayer rustls) (session : OakSessionTls κ ω)
    (frames plaintext : Bytes) : ∃ new, Queued layer session.connection
        (session.decryptRound rustls frames plaintext).2.connection new [] ∧ carried new = [] := by
  unfold OakSessionTls.decryptRound Rustls.readTls
  cases rustls.readSize session.connection frames with
  | error error => exact ⟨[], Queued.refl layer session.connection, rfl⟩
  | ok size =>
    simp only
    cases (frames.take size).length with
    | zero => exact ⟨[], ⟨(List.append_nil _).symm, List.append_nil _⟩, rfl⟩
    | succ count =>
      obtain ⟨new, queued, nothing⟩ := Queued.processNewPackets layer
        { session.connection with
          taken := session.connection.taken ++ frames.take size
          undecoded := session.connection.undecoded ++ frames.take size }
      refine ⟨new, ?_, nothing⟩
      simp only
      split
      · rename_i failed
        rw [failed] at queued
        exact ⟨queued.records, queued.bytes⟩
      · rename_i connection processed
        rw [processed] at queued
        have drained := drainPlaintext_connection rustls ⟨connection⟩ plaintext
        split
        · rename_i session read
          rw [read] at drained
          exact ⟨drained ▸ queued.records, drained ▸ queued.bytes⟩
        · rename_i plaintext session read
          rw [read] at drained
          exact ⟨drained ▸ queued.records, drained ▸ queued.bytes⟩

theorem Queued.decryptRounds (layer : RecordLayer rustls) (rounds : Nat)
    (session : OakSessionTls κ ω) (frames plaintext : Bytes) :
    ∃ new, Queued layer session.connection
        (OakSessionTls.decryptRounds rustls rounds session frames plaintext).2.connection new [] ∧
      carried new = [] := by
  induction rounds generalizing session frames plaintext with
  | zero => exact ⟨[], Queued.refl layer session.connection, rfl⟩
  | succ rounds ih =>
    unfold OakSessionTls.decryptRounds
    split
    · exact ⟨[], Queued.refl layer session.connection, rfl⟩
    · obtain ⟨first, queued, nothing⟩ := Queued.decryptRound layer session frames plaintext
      split
      · rename_i failed
        rw [failed] at queued
        exact ⟨first, queued, nothing⟩
      · rename_i rest soFar middle round
        rw [round] at queued
        obtain ⟨second, queuedLater, nothingLater⟩ := ih middle rest soFar
        exact ⟨first ++ second, queued.trans queuedLater, by simp [nothing, nothingLater]⟩

/-- The connection has sealed this plaintext and written these bytes; its inbound
half is as it was. -/
def Seals (layer : RecordLayer rustls) (before after : Connection κ ω) (plaintext written : Bytes) :
    Prop :=
  after = { before with outbound := after.outbound, sendable := after.sendable } ∧
    ∃ new, Queued layer before after new written ∧ carried new = plaintext

theorem Seals.refl (layer : RecordLayer rustls) (connection : Connection κ ω) :
    Seals layer connection connection [] [] :=
  ⟨rfl, [], Queued.refl layer connection, rfl⟩

variable {plaintext : Bytes}

theorem Seals.trans {written later more : Bytes} (one : Seals layer before middle plaintext written)
    (two : Seals layer middle after later more) :
    Seals layer before after (plaintext ++ later) (written ++ more) := by
  obtain ⟨same, new, queued, rfl⟩ := one
  obtain ⟨stillSame, newer, queuedLater, rfl⟩ := two
  exact ⟨by rw [stillSame, same], new ++ newer, queued.trans queuedLater, carried_append _ _⟩

theorem Seals.of_writeTls (layer : RecordLayer rustls) {bytes : Bytes}
    (written : rustls.writeTls before = (.ok bytes, after)) : Seals layer before after [] bytes := by
  unfold Rustls.writeTls at written
  split at written
  · simp at written
  · obtain ⟨rfl, rfl⟩ := written
    refine ⟨rfl, [], ⟨(List.append_nil _).symm, ?_⟩, rfl⟩
    exact (List.append_nil _).trans (List.take_append_drop _ before.sendable).symm

theorem Seals.of_writeTls_error (layer : RecordLayer rustls) {error : IoError}
    (failed : rustls.writeTls before = (.error error, after)) : Seals layer before after [] [] := by
  unfold Rustls.writeTls at failed
  split at failed
  · cases failed
    exact Seals.refl layer before
  · simp at failed

theorem Seals.of_write (layer : RecordLayer rustls) {size : Nat}
    (written : rustls.write before plaintext = (.ok size, after)) :
    Seals layer before after (plaintext.take size) [] := by
  unfold Rustls.write at written
  split at written
  · simp at written
  · cases written
    exact Seals.refl layer before
  · rename_i room _ _
    obtain ⟨new, records, bytes, same⟩ :=
      layer.sealFragments_sealed before.outbound (plaintext.take room)
    simp only [List.length_take] at written
    obtain ⟨rfl, rfl⟩ := written
    refine ⟨rfl, new, ⟨records, by rw [← bytes]; rfl⟩, ?_⟩
    rw [same, ← List.take_take, List.take_length]

theorem Seals.of_write_error (layer : RecordLayer rustls) {error : IoError}
    (failed : rustls.write before plaintext = (.error error, after)) :
    Seals layer before after [] [] := by
  unfold Rustls.write at failed
  split at failed
  · cases failed
    exact Seals.refl layer before
  · simp at failed
  · simp at failed

/-- What the loop of `encrypt` seals is the plaintext, or a part of it if it fails. -/
theorem Seals.encryptRounds (layer : RecordLayer rustls) (session : OakSessionTls κ ω)
    (plaintext result : Bytes) : ∃ part written, Seals layer session.connection
        (OakSessionTls.encryptRounds rustls session plaintext result).2.connection part written ∧
      part <+: plaintext ∧
      ∀ out, (OakSessionTls.encryptRounds rustls session plaintext result).1 = .ok out →
        part = plaintext ∧ out = result ++ written := by
  fun_induction OakSessionTls.encryptRounds rustls session plaintext result with
  | case1 session plaintext result empty error connection failed =>
    exact ⟨[], [], Seals.of_writeTls_error layer failed, List.nil_prefix,
      fun out ok => by simp at ok⟩
  | case2 session plaintext result empty bytes connection flushed =>
    refine ⟨[], bytes, Seals.of_writeTls layer flushed, List.nil_prefix, ?_⟩
    intro out ok
    exact ⟨(List.isEmpty_iff.mp empty).symm, (Except.ok.inj ok).symm⟩
  | case3 session plaintext result some error connection failed =>
    exact ⟨[], [], Seals.of_write_error layer failed, List.nil_prefix,
      fun out ok => by simp at ok⟩
  | case4 session plaintext result some size connection written error last failed =>
    exact ⟨_, _, (Seals.of_write layer written).trans (Seals.of_writeTls_error layer failed),
      by rw [List.append_nil]; exact List.take_prefix _ _, fun out ok => by simp at ok⟩
  | case5 session plaintext result some connection bytes middle flushed error last failed written =>
    exact ⟨_, _, ((Seals.of_write layer written).trans (Seals.of_writeTls layer flushed)).trans
      (Seals.of_writeTls_error layer failed), List.nil_prefix, fun out ok => by simp at ok⟩
  | case6 session plaintext result some connection bytes middle flushed more last drained full
      written =>
      exact ⟨_, _, ((Seals.of_write layer written).trans (Seals.of_writeTls layer flushed)).trans
        (Seals.of_writeTls layer drained), List.nil_prefix, fun out ok => by simp at ok⟩
  | case7 session plaintext result some connection bytes middle flushed more last drained notFull
      written ih =>
      obtain ⟨part, later, seals, within, complete⟩ := ih
      have soFar := ((Seals.of_write layer written).trans (Seals.of_writeTls layer flushed)).trans
        (Seals.of_writeTls layer drained)
      refine ⟨_, _, soFar.trans seals, within, ?_⟩
      intro out ok
      obtain ⟨rfl, rfl⟩ := complete out ok
      exact ⟨rfl, by simp⟩
  | case8 session plaintext result some size connection written bytes middle flushed progress ih =>
    obtain ⟨part, later, seals, within, complete⟩ := ih
    have soFar := (Seals.of_write layer written).trans (Seals.of_writeTls layer flushed)
    refine ⟨_, _, soFar.trans seals, ?_, ?_⟩
    · rw [List.append_nil]
      exact (List.prefix_append_right_inj _).mpr within |>.trans
        (by rw [List.take_append_drop])
    · intro out ok
      obtain ⟨rfl, rfl⟩ := complete out ok
      exact ⟨by rw [List.append_nil, List.take_append_drop], by simp⟩

end Outbound

section Inbound

/-- Every record that is opened is the record of the log that it is counted as. -/
def Genuine (layer : RecordLayer rustls) (log : List SealedRecord) : κ → List Bytes → Prop
  | _, [] => True
  | state, record :: rest => ∀ plaintext next, rustls.accept state record = (.ok plaintext, next) →
      log[layer.opened state]? = some ⟨record, plaintext⟩ ∧ Genuine layer log next rest

variable {layer : RecordLayer rustls} {log : List SealedRecord}

theorem Genuine.acceptAll {state : κ} {records : List Bytes}
    (genuine : Genuine layer log state records) (within : layer.opened state ≤ log.length)
    (accepted : (rustls.acceptAll state records).failure = none) :
    layer.opened (rustls.acceptAll state records).state ≤ log.length ∧
      ∃ new, log.take (layer.opened (rustls.acceptAll state records).state) =
          log.take (layer.opened state) ++ new ∧ recordBytes new = records.flatten ∧
        carried new = (rustls.acceptAll state records).output := by
  induction records generalizing state with
  | nil => exact ⟨within, [], (List.append_nil _).symm, rfl, rfl⟩
  | cons record rest ih =>
    cases read : rustls.accept state record with
    | mk result next =>
      cases result with
      | error failure => simp [Decoder.acceptAll, read] at accepted
      | ok plaintext =>
        simp only [Decoder.acceptAll, read] at accepted ⊢
        obtain ⟨found, genuineRest⟩ := genuine plaintext next read
        obtain ⟨short, _⟩ := List.getElem?_eq_some_iff.mp found
        have counted := layer.accept_opened read
        obtain ⟨bound, new, extended, bytes, output⟩ :=
          ih genuineRest (by omega) accepted
        refine ⟨bound, ⟨record, plaintext⟩ :: new, ?_, ?_, ?_⟩
        · rw [Decoded.prepend, extended, counted, List.take_add_one, found, List.append_assoc]
          rfl
        · rw [List.flatten_cons, ← bytes]
          rfl
        · rw [Decoded.prepend, ← output]
          rfl

/-- The connection has opened the records it counts and waits for the rest of
the next one. -/
structure TlsReceiving (layer : RecordLayer rustls) (base : Bytes) (proxy : TlsProxySession κ ω)
    (accepted : List Bytes) (written : Bytes) (log : List SealedRecord) : Prop where
  running : proxy.session.connection.failure = none
  drained : proxy.session.connection.plaintext = []
  waiting : rustls.framing.split proxy.session.connection.undecoded = none
  opened : layer.opened proxy.session.connection.inbound ≤ log.length
  inOrder : base ++ accepted.flatten =
    recordBytes (log.take (layer.opened proxy.session.connection.inbound)) ++
      proxy.session.connection.undecoded
  read : written ++ proxy.plaintextBuffer.flatten =
    carried (log.take (layer.opened proxy.session.connection.inbound))

variable {base written : Bytes} {proxy : TlsProxySession κ ω} {accepted : List Bytes}

section

variable (receiving : TlsReceiving layer base proxy accepted written log)

include receiving

theorem TlsReceiving.mono {later : List SealedRecord} (grown : log <+: later) :
    TlsReceiving layer base proxy accepted written later := by
  obtain ⟨new, rfl⟩ := grown
  have same : (log ++ new).take (layer.opened proxy.session.connection.inbound) =
      log.take (layer.opened proxy.session.connection.inbound) :=
    List.take_append_of_le_length receiving.opened
  refine { receiving with opened := ?_, inOrder := ?_, read := ?_ }
  · rw [List.length_append]
    exact receiving.opened.trans (Nat.le_add_right _ _)
  · rw [same]
    exact receiving.inOrder
  · rw [same]
    exact receiving.read

theorem TlsReceiving.written_prefix : written <+: carried log := by
  have part : carried (log.take (layer.opened proxy.session.connection.inbound)) <+: carried log :=
    (List.take_prefix _ log).flatMap _
  rw [← receiving.read] at part
  exact (List.prefix_append _ _).trans part

theorem TlsReceiving.putIncoming
    {data : Bytes} (genuine : Genuine layer log proxy.session.connection.inbound
      (rustls.framing.records (proxy.session.connection.undecoded ++ data)).1)
    (accept : (proxy.putIncoming rustls data).1 = .ok ()) :
    TlsReceiving layer base (proxy.putIncoming rustls data).2 (accepted ++ [data]) written log := by
  unfold TlsProxySession.putIncoming at accept ⊢
  cases decrypted : proxy.session.decrypt rustls data with
  | mk result next =>
    cases result with
    | error error => simp [decrypted, Outcome.err] at accept
    | ok plaintext =>
      have start := InStep.start receiving.running receiving.drained
        (Framing.records_of_none receiving.waiting)
      obtain ⟨_, rfl, inStep, drained⟩ :=
        start.of_decryptRounds receiving.drained Nat.le.refl decrypted
      simp only [List.nil_append] at inStep ⊢
      obtain ⟨bound, new, extended, bytes, carries⟩ :=
        genuine.acceptAll receiving.opened inStep.accepted
      have produced : carried new = plaintext := by
        rw [carries, ← List.append_nil plaintext, ← drained]
        exact inStep.output.symm
      have counted : layer.opened next.connection.inbound = layer.opened
          (rustls.decode proxy.session.connection.inbound
            (proxy.session.connection.undecoded ++ data)).state := by
        rw [inStep.inbound]
      refine ⟨inStep.running, drained, ?_, ?_, ?_, ?_⟩
      · rw [inStep.undecoded]
        exact Framing.split_rest _ _
      · rw [counted]
        exact bound
      · rw [counted, Decoder.decode, extended, recordBytes_append, bytes, List.append_assoc,
          inStep.undecoded, Framing.records_flatten, ← List.append_assoc, ← receiving.inOrder]
        simp
      · rw [counted, Decoder.decode, extended, carried_append, produced, ← receiving.read]
        cases plaintext with
        | nil | cons => simp

theorem TlsReceiving.kept {next : TlsProxySession κ ω} {plaintext sent : Bytes}
    (seals : Seals layer proxy.session.connection next.session.connection plaintext sent)
    (same : next.plaintextBuffer = proxy.plaintextBuffer) :
    TlsReceiving layer base next accepted written log := by
  have inbound := seals.1
  obtain ⟨⟨connection⟩, outgoing, buffer⟩ := next
  dsimp only at inbound same
  rw [same, inbound]
  exact { receiving with }

end

end Inbound

section Sending

/-- All chunks are sealed; the bytes that the receiver had taken before, the
frames handed out and the bytes that wait are those of the sealed records. -/
structure TlsFlowing (layer : RecordLayer rustls) (base : Bytes) (proxy : TlsProxySession κ ω)
    (chunks frames : List Bytes) : Prop where
  complete : carried (layer.sealedBy proxy.session.connection.outbound) = chunks.flatten
  inOrder : base ++ frames.flatten ++ proxy.outgoingBuffer.flatten ++
      proxy.session.connection.sendable =
    recordBytes (layer.sealedBy proxy.session.connection.outbound)
  nonempty : ∀ frame ∈ frames ++ proxy.outgoingBuffer, frame ≠ []

variable {layer : RecordLayer rustls} {base : Bytes} {proxy : TlsProxySession κ ω}
  {chunks frames : List Bytes}

section

variable (flowing : TlsFlowing layer base proxy chunks frames)

include flowing

theorem TlsFlowing.putIncoming
    (data : Bytes) : TlsFlowing layer base (proxy.putIncoming rustls data).2 chunks frames ∧
      layer.sealedBy proxy.session.connection.outbound <+:
        layer.sealedBy (proxy.putIncoming rustls data).2.session.connection.outbound ∧
      (proxy.putIncoming rustls data).2.outgoingBuffer = proxy.outgoingBuffer := by
  obtain ⟨new, queued, nothing⟩ := Queued.decryptRounds layer data.length proxy.session data []
  have after (next : TlsProxySession κ ω) (buffer : next.outgoingBuffer = proxy.outgoingBuffer)
      (session : next.session =
        (OakSessionTls.decryptRounds rustls data.length proxy.session data []).2) :
      TlsFlowing layer base next chunks frames ∧
        layer.sealedBy proxy.session.connection.outbound <+:
          layer.sealedBy next.session.connection.outbound ∧
        next.outgoingBuffer = proxy.outgoingBuffer := by
    refine ⟨⟨?_, ?_, ?_⟩, ?_, buffer⟩
    · rw [session, queued.records, carried_append, nothing, List.append_nil]
      exact flowing.complete
    · have bytes := queued.bytes
      rw [List.nil_append] at bytes
      rw [session, queued.records, recordBytes_append, buffer, ← bytes, ← flowing.inOrder]
      simp
    · rw [buffer]
      exact flowing.nonempty
    · rw [session, queued.records]
      exact List.prefix_append _ _
  unfold TlsProxySession.putIncoming OakSessionTls.decrypt
  split
  · rename_i failed
    exact after _ rfl (by rw [failed])
  · rename_i decrypted
    exact after _ rfl (by rw [decrypted])

theorem TlsFlowing.putPlaintext {chunk : Bytes} :
    carried (layer.sealedBy (proxy.putPlaintext rustls chunk).2.session.connection.outbound) <+:
        (chunks ++ [chunk]).flatten ∧ layer.sealedBy proxy.session.connection.outbound <+:
        layer.sealedBy (proxy.putPlaintext rustls chunk).2.session.connection.outbound ∧
      ((proxy.putPlaintext rustls chunk).1 = .ok () →
        TlsFlowing layer base (proxy.putPlaintext rustls chunk).2 (chunks ++ [chunk]) frames) := by
  obtain ⟨part, written, ⟨_, new, queued, rfl⟩, within, whole⟩ :=
    Seals.encryptRounds layer proxy.session chunk []
  unfold TlsProxySession.putPlaintext OakSessionTls.encrypt
  cases encrypted : OakSessionTls.encryptRounds rustls proxy.session chunk [] with
  | mk result next =>
    rw [encrypted] at queued whole
    have carries : carried (layer.sealedBy next.connection.outbound) =
        chunks.flatten ++ carried new := by
      rw [queued.records, carried_append, flowing.complete]
    have grown : layer.sealedBy proxy.session.connection.outbound <+:
        layer.sealedBy next.connection.outbound := by
      rw [queued.records]
      exact List.prefix_append _ _
    have carriedPart : carried (layer.sealedBy next.connection.outbound) <+:
        (chunks ++ [chunk]).flatten := by
      rw [carries, List.flatten_append]
      exact (List.prefix_append_right_inj _).mpr (by simpa using within)
    cases result with
    | error error => exact ⟨carriedPart, grown, fun accepted => by simp [Outcome.err] at accepted⟩
    | ok out =>
      obtain ⟨all, rfl⟩ := whole out rfl
      refine ⟨carriedPart, grown, fun _ => ⟨?_, ?_, ?_⟩⟩
      · rw [carries, all]
        simp
      · have bytes := queued.bytes
        rw [queued.records, recordBytes_append, ← flowing.inOrder, List.append_assoc _ _
          (recordBytes new), bytes]
        cases out with
        | nil | cons => simp
      · intro frame member
        cases out with
        | nil => exact flowing.nonempty frame (by simpa using member)
        | cons byte rest =>
          simp only [List.isEmpty_cons, Bool.false_eq_true, ↓reduceIte, ← List.append_assoc,
            List.mem_append, List.mem_singleton] at member
          rcases member with before | rfl
          · exact flowing.nonempty frame (List.mem_append.mpr before)
          · exact List.cons_ne_nil _ _

theorem TlsFlowing.getOutgoing :
    TlsFlowing layer base proxy.getOutgoing.2 chunks
      (frames ++ proxy.outgoingBuffer.head?.toList) := by
  have same : proxy.outgoingBuffer.head?.toList ++ proxy.outgoingBuffer.tail =
      proxy.outgoingBuffer := by
    cases proxy.outgoingBuffer with
    | nil | cons => rfl
  refine ⟨flowing.complete, ?_, ?_⟩
  · have moved : proxy.outgoingBuffer.head?.toList.flatten ++ proxy.outgoingBuffer.tail.flatten =
        proxy.outgoingBuffer.flatten := by
      rw [← List.flatten_append, same]
    have inOrder := flowing.inOrder
    rw [← moved] at inOrder
    simpa [TlsProxySession.getOutgoing] using inOrder
  · intro frame member
    apply flowing.nonempty frame
    rw [← same, ← List.append_assoc]
    exact member

end

end Sending

section Channel

variable {κ ω κ' ω' : Type} {sends : Rustls κ ω} {receives : Rustls κ' ω'}

/-- The receiver's framing cuts sealed records off as they are. -/
def CutsRecords (layer : RecordLayer sends) (framing : Framing UInt8) : Prop :=
  ∀ outbound, ∀ sealed ∈ layer.sealedBy outbound, ∀ later,
    framing.split (sealed.record ++ later) = some (sealed.record, later)

theorem take_all {framing : Framing UInt8} {log : List SealedRecord} {count : Nat}
    {undecoded : Bytes} (cuts : ∀ sealed ∈ log, ∀ later,
      framing.split (sealed.record ++ later) = some (sealed.record, later))
    (waiting : framing.split undecoded = none)
    (arrived : recordBytes (log.take count) ++ undecoded = recordBytes log) :
    log.take count = log := by
  have whole := List.take_append_drop count log
  cases left : log.drop count with
  | nil =>
    rw [left, List.append_nil] at whole
    exact whole
  | cons sealed rest =>
    have member : sealed ∈ log := by
      rw [← whole, left]
      simp
    have bytes : recordBytes log =
        recordBytes (log.take count) ++ (sealed.record ++ recordBytes rest) := by
      have split := congrArg recordBytes whole
      rw [recordBytes_append, left] at split
      exact split.symm
    rw [bytes, List.append_cancel_left_eq] at arrived
    rw [arrived, cuts sealed member] at waiting
    simp at waiting

/-- The channel between two TLS sessions; `base` are the bytes of the sender's
records that the receiver had taken before. -/
def Channel.tls (sender : RecordLayer sends) (receiver : RecordLayer receives)
    (cuts : CutsRecords sender receives.framing) (base : Bytes) :
    Channel (ProxySession.tls sends) (ProxySession.tls receives) where
  log := fun proxy _ => sender.sealedBy proxy.session.connection.outbound
  Logged := fun _ => True
  Sealing := fun proxy chunks =>
    carried (sender.sealedBy proxy.session.connection.outbound) <+: chunks.flatten
  Flowing := TlsFlowing sender base
  Drained := fun proxy => proxy.outgoingBuffer = []
  Flushed := fun proxy => proxy.session.connection.sendable = []
  Receiving := TlsReceiving receiver base
  Idle := fun proxy => proxy.plaintextBuffer = []
  Unforged := fun proxy log data => Genuine receiver log proxy.session.connection.inbound
    (receives.framing.records (proxy.session.connection.undecoded ++ data)).1
  sealing_of_flowing := by
    intro proxy chunks frames flowing
    rw [flowing.complete]
  logged := fun _ => trivial
  carried_prefix := fun sealing => sealing
  frame_ne_nil := by
    intro proxy chunks frames flowing frame member
    exact flowing.nonempty frame (List.mem_append_left _ member)
  putPlaintext_sealing := by
    intro proxy chunks frames chunk flowing _ _
    exact ⟨flowing.putPlaintext.1, flowing.putPlaintext.2.1⟩
  putPlaintext_flowing := by
    intro proxy chunks frames chunk flowing _ _ accepted
    exact flowing.putPlaintext.2.2 accepted
  getOutgoing_sealing := by
    intro proxy chunks frames flowing
    refine ⟨?_, List.prefix_rfl⟩
    have complete := flowing.getOutgoing.complete
    simp only [ProxySession.tls]
    rw [complete]
  getOutgoing_flowing := by
    intro proxy chunks frames frame flowing found
    have taken := flowing.getOutgoing
    have first : proxy.outgoingBuffer.head? = some frame := Except.ok.inj found
    rw [first] at taken
    exact taken
  getOutgoing_drained := by
    intro proxy chunks frames flowing found
    have taken := flowing.getOutgoing
    have first : proxy.outgoingBuffer.head? = none := Except.ok.inj found
    rw [first, Option.toList_none, List.append_nil] at taken
    refine ⟨taken, ?_⟩
    have empty := List.head?_eq_none_iff.mp first
    simp [ProxySession.tls, TlsProxySession.getOutgoing, empty]
  putIncoming_flowing := by
    intro proxy chunks frames data flowing
    exact ⟨(flowing.putIncoming data).1, (flowing.putIncoming data).2.1⟩
  putIncoming_drained := by
    intro proxy data drained
    simp only [ProxySession.tls, TlsProxySession.putIncoming]
    split
    · exact drained
    · exact drained
  getPlaintext_flowing := by
    intro proxy chunks frames flowing
    exact ⟨⟨flowing.complete, flowing.inOrder, flowing.nonempty⟩, List.prefix_rfl⟩
  getPlaintext_drained := fun drained => drained
  receiving_mono := fun receiving grown => receiving.mono grown
  written_prefix := fun receiving => receiving.written_prefix
  putIncoming_receiving := by
    intro proxy accepted written log data receiving _ _ genuine accept
    exact receiving.putIncoming genuine accept
  getPlaintext_receiving := by
    intro proxy accepted written log plaintext receiving found
    have first : proxy.plaintextBuffer.head? = some plaintext := Except.ok.inj found
    have read := receiving.read
    rw [List.eq_cons_of_mem_head? first, List.flatten_cons, ← List.append_assoc] at read
    exact { receiving with read }
  getPlaintext_idle := by
    intro proxy accepted written log receiving found
    have empty := List.head?_eq_none_iff.mp (Except.ok.inj found)
    have read := receiving.read
    rw [empty] at read
    refine ⟨{ receiving with read := ?_ }, ?_⟩
    · simpa [ProxySession.tls, TlsProxySession.getPlaintext, empty] using read
    · simp [ProxySession.tls, TlsProxySession.getPlaintext, empty]
  putPlaintext_receiving := by
    intro proxy accepted written log chunk receiving idle
    obtain ⟨part, sent, seals, _⟩ := Seals.encryptRounds receiver proxy.session chunk []
    simp only [ProxySession.tls, TlsProxySession.putPlaintext, OakSessionTls.encrypt]
    split
    · rename_i failed
      rw [failed] at seals
      exact ⟨receiving.kept seals rfl, idle⟩
    · rename_i encrypted
      rw [encrypted] at seals
      exact ⟨receiving.kept seals rfl, idle⟩
  getOutgoing_receiving := by
    intro proxy accepted written log receiving idle
    exact ⟨{ receiving with }, idle⟩
  complete := by
    intro sending chunks frames receiving written flowing drained flushed received idle
    have sent := flowing.inOrder
    rw [drained, flushed, List.flatten_nil, List.append_nil, List.append_nil, received.inOrder]
      at sent
    have read := received.read
    rw [idle, List.flatten_nil, List.append_nil,
      take_all (cuts sending.session.connection.outbound) received.waiting sent] at read
    exact read.trans flowing.complete

end Channel

end Oak.Proxy

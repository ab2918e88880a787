import Oak.Proxy.Channel
import Oak.Session.ApplicationData

namespace Oak.Proxy

open Oak.Data Oak.Crypto Oak.Session Oak.Session.ApplicationData

/-! The channel of two Noise sessions with the ordered encryptor.

Every chunk is one record, sealed under the nonce that counts it.  The receiver
opens a message under its own counter, so what opens is the next record. -/

variable {crypto : Primitives}

def encryptedMessage (ciphertext : Bytes) : SessionMessage :=
  ⟨some (.encrypted { ciphertext, associatedData := none, nonce := none })⟩

def noiseRecord (crypto : Primitives) (key : Key) (index : Nat) (chunk : Bytes) : SealedRecord where
  record := crypto.encryptInPlace key (Nonce.encode (UInt32.ofNat index)) [] (padPlaintext chunk)
  plaintext := chunk

def noiseLog (crypto : Primitives) (key : Key) (chunks : List Bytes) : List SealedRecord :=
  chunks.mapIdx (noiseRecord crypto key)

@[simp] theorem noiseLog_length (key : Key) (chunks : List Bytes) :
    (noiseLog crypto key chunks).length = chunks.length :=
  List.length_mapIdx

theorem noiseLog_concat (key : Key) (chunks : List Bytes) (chunk : Bytes) :
    noiseLog crypto key (chunks ++ [chunk]) =
      noiseLog crypto key chunks ++ [noiseRecord crypto key chunks.length chunk] :=
  List.mapIdx_concat

theorem carried_noiseLog (key : Key) (chunks : List Bytes) :
    carried (noiseLog crypto key chunks) = chunks.flatten := by
  induction chunks using List.reverseRecOn with
  | nil => rfl
  | append_singleton chunks chunk ih =>
    rw [noiseLog_concat, carried, List.flatMap_append, ← carried, ih]
    simp [noiseRecord]

/-- A ciphertext opens only under a nonce of the log, as the record it counts. -/
def Unopened (crypto : Primitives) (key : Key) (log : List SealedRecord) (ciphertext : Bytes) :
    Prop :=
  ∀ nonce padded, crypto.decryptInPlace key nonce [] ciphertext = some padded →
    ∃ index sealed, log[index]? = some sealed ∧ nonce = Nonce.encode (UInt32.ofNat index) ∧
      sealed.record = ciphertext

/-- What a ciphertext opens to is the plaintext of the record that its nonce counts. -/
def OpensLogged (crypto : Primitives) (key : Key) (log : List SealedRecord) (ciphertext : Bytes) :
    Prop :=
  ∀ (counter : UInt32) plaintext,
    aesGcm256Decrypt crypto key (Nonce.encode counter) ciphertext = .ok plaintext →
    ∃ sealed, log[counter.toNat]? = some sealed ∧ sealed.plaintext = plaintext

/-- Few enough records for a counter, each sealed under its index. -/
structure NoiseLogged (crypto : Primitives) (key : Key) (log : List SealedRecord) : Prop where
  counted : log.length < 2 ^ 32
  sealedAt : ∀ index sealed, log[index]? = some sealed →
    sealed = noiseRecord crypto key index sealed.plaintext

variable {key : Key}

theorem Unopened.of_logged (bound : crypto.NonceBound) {log : List SealedRecord} {index : Nat}
    {chunk : Bytes} (found : log[index]? = some (noiseRecord crypto key index chunk)) :
    Unopened crypto key log (noiseRecord crypto key index chunk).record := by
  intro nonce padded opened
  exact ⟨index, _, found, bound _ _ _ _ _ _ opened, rfl⟩

theorem OpensLogged.of_unopened (opens : crypto.OpensSealed) {log : List SealedRecord}
    (logged : NoiseLogged crypto key log) {ciphertext : Bytes}
    (unforged : Unopened crypto key log ciphertext) : OpensLogged crypto key log ciphertext := by
  intro counter plaintext opened
  unfold aesGcm256Decrypt at opened
  cases unsealed : crypto.decryptInPlace key (Nonce.encode counter) [] ciphertext with
  | none => simp [unsealed] at opened
  | some padded =>
    obtain ⟨index, sealed, found, nonce, rfl⟩ := unforged _ _ unsealed
    obtain ⟨short, _⟩ := List.getElem?_eq_some_iff.mp found
    have small : index < 2 ^ 32 := short.trans logged.counted
    have same : counter = UInt32.ofNat index := Nonce.encode_injective nonce
    have position : counter.toNat = index := by rw [same, UInt32.toNat_ofNat_of_lt' small]
    have shape : sealed.record = crypto.encryptInPlace key (Nonce.encode counter) []
        (padPlaintext sealed.plaintext) := by
      rw [same]
      exact congrArg SealedRecord.record (logged.sealedAt index sealed found)
    rw [shape, opens] at unsealed
    cases unsealed
    rw [shape, opens] at opened
    simp only [unpadPlaintext_padPlaintext, Except.ok.injEq] at opened
    exact ⟨sealed, by rw [position]; exact found, opened⟩

theorem OpensLogged.mono {log later : List SealedRecord} {ciphertext : Bytes}
    (opens : OpensLogged crypto key log ciphertext) (grown : log <+: later) :
    OpensLogged crypto key later ciphertext := by
  intro counter plaintext opened
  obtain ⟨sealed, found, same⟩ := opens counter plaintext opened
  obtain ⟨new, rfl⟩ := grown
  obtain ⟨short, _⟩ := List.getElem?_eq_some_iff.mp found
  exact ⟨sealed, by rw [List.getElem?_append_left short]; exact found, same⟩

theorem noiseLogged (key : Key) {chunks : List Bytes} (counted : chunks.length < 2 ^ 32) :
    NoiseLogged crypto key (noiseLog crypto key chunks) := by
  refine ⟨by simpa using counted, ?_⟩
  intro index sealed found
  simp only [noiseLog, List.getElem?_mapIdx, Option.map_eq_some_iff] at found
  obtain ⟨chunk, _, rfl⟩ := found
  rfl

section Halves

variable {η : Type} {session : Endpoint η (OrderedChannelEncryptor crypto)}

theorem senderOf_readFrom (isOpen : session.step.IsOpen) (name : String) :
    senderOf (session.readFrom name).2 = senderOf session := by
  obtain ⟨⟨crypter⟩, attestationState, handshakeState, outgoing, incoming, rfl⟩ := eq_opened isOpen
  simp only [Endpoint.readFrom, Encryptor.decrypt, OrderedChannelEncryptor.decrypt,
    OrderedCrypter.decrypt]
  split
  · rfl
  · rcases crypter.readNonce.nextNonce with ⟨reason | nonce, readNonce⟩
    · rfl
    · dsimp only
      cases aesGcm256Decrypt crypto crypter.readKey nonce _ <;> rfl
  · rfl

theorem receiverOf_write (isOpen : session.step.IsOpen) (plaintext : PlaintextMessage) :
    receiverOf (session.write plaintext).2 = receiverOf session := by
  obtain ⟨⟨crypter⟩, attestationState, handshakeState, outgoing, incoming, rfl⟩ := eq_opened isOpen
  simp only [Endpoint.write, Encryptor.encrypt, OrderedChannelEncryptor.encrypt,
    OrderedCrypter.encrypt]
  split
  · rcases crypter.writeNonce.nextNonce with ⟨reason | nonce, writeNonce⟩
    · rfl
    · dsimp only
      cases aesGcm256Encrypt crypto crypter.writeKey nonce _ <;> rfl
  · rfl

variable {proxy : NoiseProxySession η (OrderedChannelEncryptor crypto)}

section

variable (engine : Engine η (OrderedChannelEncryptor crypto))

include engine

theorem putIncoming_halves (input : Codec)
    {receiver : Receiver} (receiving : receiverOf proxy.session = some receiver) (data : Bytes) :
    senderOf (proxy.putIncoming engine input data).2.session = senderOf proxy.session ∧
      ((proxy.putIncoming engine input data).1 = .ok () →
        ∃ message, input.decode data = .ok ⟨some (.encrypted message)⟩ ∧
          receiverOf (proxy.putIncoming engine input data).2.session =
            some { receiver with
              incoming := receiver.incoming ++ [⟨some (.encrypted message)⟩] }) := by
  unfold NoiseProxySession.putIncoming
  cases decoded : input.decode data with
  | error reason => exact ⟨rfl, fun accepted => by simp [Outcome.err] at accepted⟩
  | ok message =>
    by_cases encrypted : ∃ payload, message = ⟨some (.encrypted payload)⟩
    · obtain ⟨payload, rfl⟩ := encrypted
      simp only [engine.put_encrypted payload proxy.isOpen]
      rcases pushIncoming_halves receiving ⟨some (.encrypted payload)⟩ with
        ⟨_, next, pushed, kept, received⟩ | refused
      · rw [pushed]
        exact ⟨kept, fun _ => ⟨payload, rfl, received⟩⟩
      · rw [refused]
        exact ⟨rfl, fun accepted => by simp [Outcome.err, Except.map] at accepted⟩
    · obtain ⟨reason, refused⟩ := engine.put_other proxy.isOpen fun payload same =>
        encrypted ⟨payload, same⟩
      simp only [refused]
      exact ⟨trivial, fun accepted => by simp [Outcome.err, Except.map] at accepted⟩

theorem senderOf_putIncoming (input : Codec)
    (proxy : NoiseProxySession η (OrderedChannelEncryptor crypto)) (data : Bytes) :
    senderOf (proxy.putIncoming engine input data).2.session = senderOf proxy.session := by
  obtain ⟨receiver, receiving⟩ : ∃ receiver, receiverOf proxy.session = some receiver := by
    obtain ⟨_, _, _, _, _, same⟩ := eq_opened proxy.isOpen
    rw [same]
    exact ⟨_, rfl⟩
  exact (putIncoming_halves engine input receiving data).1

theorem getPlaintext_some {plaintext : Bytes}
    (found : (proxy.getPlaintext engine).1 = .ok (some plaintext)) : ∃ message : PlaintextMessage,
      (proxy.session.readFrom engine.inputName).1 = .ok (some message) ∧
        message.plaintext = plaintext := by
  obtain ⟨answer, read, mapped⟩ := except_map_eq_ok.mp found
  obtain ⟨message, rfl, same⟩ := Option.map_eq_some_iff.mp mapped
  exact ⟨message, read, same⟩

theorem getPlaintext_none (found : (proxy.getPlaintext engine).1 = .ok none) :
    (proxy.session.readFrom engine.inputName).1 = .ok none := by
  obtain ⟨answer, read, mapped⟩ := except_map_eq_ok.mp found
  rw [read, Option.map_eq_none_iff.mp mapped]

end

theorem getOutgoing_session (engine : Engine η (OrderedChannelEncryptor crypto)) (output : Codec)
    (proxy : NoiseProxySession η (OrderedChannelEncryptor crypto)) :
    (proxy.getOutgoing engine output).2.session = proxy.session.popOutgoing.2 :=
  congrArg Prod.snd (engine.get_open proxy.isOpen)

theorem getOutgoing_frame (engine : Engine η (OrderedChannelEncryptor crypto)) (output : Codec)
    {sender : Sender} (sending : senderOf proxy.session = some sender) :
    (proxy.getOutgoing engine output).1 = .ok (sender.outgoing.head?.map output.encode) := by
  have result : (engine.getOutgoingMessage proxy.session).1 = .ok sender.outgoing.head? := by
    rw [engine.get_open proxy.isOpen]
    exact (popOutgoing_halves sending).1
  simp only [NoiseProxySession.getOutgoing, result]
  rfl

end Halves

section Sending

variable {η : Type}

def noiseSealed (key : Key) (session : Endpoint η (OrderedChannelEncryptor crypto))
    (chunks : List Bytes) : List SealedRecord :=
  match senderOf session with
  | none => []
  | some sender => noiseLog crypto key (chunks.take sender.counter.toNat)

/-- All chunks are sealed; the frames handed out and the messages that wait
are the sealed records, in order. -/
structure NoiseFlowing (wire : Codec) (key : Key)
    (session : Endpoint η (OrderedChannelEncryptor crypto)) (sender : Sender)
    (chunks frames : List Bytes) : Prop where
  sending : senderOf session = some sender
  sameKey : sender.key = key
  counted : sender.counter.toNat = chunks.length
  inOrder : frames ++ sender.outgoing.map wire.encode =
    (noiseLog crypto key chunks).map fun sealed => wire.encode (encryptedMessage sealed.record)

variable {wire : Codec} {key : Key} {session next : Endpoint η (OrderedChannelEncryptor crypto)}
  {sender : Sender} {chunks frames : List Bytes}

theorem NoiseFlowing.log (flowing : NoiseFlowing wire key session sender chunks frames) :
    noiseSealed key session chunks = noiseLog crypto key chunks := by
  simp [noiseSealed, flowing.sending, flowing.counted]

theorem noiseSealed_of_sender (same : senderOf next = senderOf session) :
    noiseSealed key next chunks = noiseSealed key session chunks := by
  rw [noiseSealed, noiseSealed, same]

theorem NoiseFlowing.kept (flowing : NoiseFlowing wire key session sender chunks frames)
    (same : senderOf next = senderOf session) : NoiseFlowing wire key next sender chunks frames :=
  { flowing with sending := same.trans flowing.sending }

theorem NoiseFlowing.frame_ne_nil (flowing : NoiseFlowing wire key session sender chunks frames) :
    ∀ frame ∈ frames, frame ≠ [] := by
  intro frame member
  have logged : frame ∈ (noiseLog crypto key chunks).map fun sealed =>
      wire.encode (encryptedMessage sealed.record) := by
    rw [← flowing.inOrder]
    exact List.mem_append_left _ member
  obtain ⟨sealed, _, rfl⟩ := List.mem_map.mp logged
  exact wire.encode_ne_nil _

theorem noiseSealed_logged (key : Key) (session : Endpoint η (OrderedChannelEncryptor crypto))
    (chunks : List Bytes) : NoiseLogged crypto key (noiseSealed key session chunks) := by
  unfold noiseSealed
  split
  · exact ⟨by simp, fun index sealed found => by simp at found⟩
  · rename_i sender _
    apply noiseLogged
    have bound := sender.counter.toNat_lt
    have shorter := List.length_take_le sender.counter.toNat chunks
    omega

theorem noiseSealed_carried (key : Key) (session : Endpoint η (OrderedChannelEncryptor crypto))
    (chunks : List Bytes) : carried (noiseSealed key session chunks) <+: chunks.flatten := by
  unfold noiseSealed
  split
  · exact List.nil_prefix
  · rw [carried_noiseLog]
    exact (List.take_prefix _ chunks).flatten

theorem NoiseFlowing.write (flowing : NoiseFlowing wire key session sender chunks frames)
    {chunk : Bytes} (short : chunk.length ≤ plaintextBufferSize) :
    noiseSealed key session chunks <+:
        noiseSealed key (session.write ⟨chunk⟩).2 (chunks ++ [chunk]) ∧
      ((session.write ⟨chunk⟩).1 = .ok () →
        ∃ after, NoiseFlowing wire key (session.write ⟨chunk⟩).2 after (chunks ++ [chunk])
          frames) := by
  have step := write_step session (short.trans (by decide : plaintextBufferSize ≤ maxPlaintext))
  rw [flowing.log]
  generalize session.write ⟨chunk⟩ = result at step
  cases step with
  | accepted sending' sends' room counting next sent kept =>
    rw [flowing.sending, Option.some.injEq] at sends'
    subst sends'
    have counted : (sender.counter + 1).toNat = (chunks ++ [chunk]).length := by
      rw [OrderedCrypter.succ_toNat counting, flowing.counted, List.length_append,
        List.length_singleton]
    have index : UInt32.ofNat chunks.length = sender.counter := by
      rw [← flowing.counted, UInt32.ofNat_toNat]
    obtain ⟨after, flowingAfter⟩ :
        ∃ after, NoiseFlowing wire key next after (chunks ++ [chunk]) frames := by
      refine ⟨_, sent, flowing.sameKey, counted, ?_⟩
      have record : (noiseLog crypto key (chunks ++ [chunk])).map
            (fun sealed => wire.encode (encryptedMessage sealed.record)) =
          frames ++ sender.outgoing.map wire.encode ++
            [wire.encode (encryptedMessage (noiseRecord crypto key chunks.length chunk).record)] := by
        rw [noiseLog_concat, List.map_append, flowing.inOrder]
        rfl
      rw [record]
      simp [noiseRecord, encryptedMessage, index, flowing.sameKey]
    refine ⟨?_, fun _ => ⟨after, flowingAfter⟩⟩
    rw [flowingAfter.log, noiseLog_concat]
    exact List.prefix_append _ _
  | refused reason next unsent kept =>
    refine ⟨?_, fun accepted => by simp [Outcome.err] at accepted⟩
    simp [noiseSealed, unsent, flowing.sending, flowing.counted]

theorem NoiseFlowing.popOutgoing (flowing : NoiseFlowing wire key session sender chunks frames) :
    NoiseFlowing wire key session.popOutgoing.2 { sender with outgoing := sender.outgoing.tail }
      chunks (frames ++ (sender.outgoing.head?.map wire.encode).toList) := by
  obtain ⟨_, sent, _⟩ := popOutgoing_halves flowing.sending
  refine ⟨sent, flowing.sameKey, flowing.counted, ?_⟩
  rw [← flowing.inOrder]
  cases sender.outgoing with
  | nil | cons => simp

end Sending

section Receiving

variable {θ : Type}

/-- The session has opened as many records as it counts, and it can open the
messages that wait only as records of the log. -/
structure NoiseReceiving (key : Key) (session : Endpoint θ (OrderedChannelEncryptor crypto))
    (receiver : Receiver) (accepted : List Bytes) (written : Bytes) (log : List SealedRecord) :
    Prop where
  receiving : receiverOf session = some receiver
  sameKey : receiver.key = key
  counted : receiver.counter.toNat + receiver.incoming.length = accepted.length
  opened : receiver.counter.toNat ≤ log.length
  read : written = carried (log.take receiver.counter.toNat)
  waiting : ∀ message ∈ receiver.incoming, ∃ encrypted,
    message = ⟨some (.encrypted encrypted)⟩ ∧ OpensLogged crypto key log encrypted.ciphertext

variable {key : Key} {session next : Endpoint θ (OrderedChannelEncryptor crypto)}
  {receiver : Receiver} {accepted : List Bytes} {written : Bytes} {log : List SealedRecord}

section

variable (receiving : NoiseReceiving key session receiver accepted written log)

include receiving

theorem NoiseReceiving.kept (same : receiverOf next = receiverOf session) :
    NoiseReceiving key next receiver accepted written log :=
  { receiving with receiving := same.trans receiving.receiving }

theorem NoiseReceiving.mono {later : List SealedRecord} (grown : log <+: later) :
    NoiseReceiving key session receiver accepted written later := by
  refine { receiving with
    opened := receiving.opened.trans grown.length_le, read := ?_, waiting := ?_ }
  · obtain ⟨new, rfl⟩ := grown
    rw [List.take_append_of_le_length receiving.opened]
    exact receiving.read
  · intro message member
    obtain ⟨encrypted, same, opens⟩ := receiving.waiting message member
    exact ⟨encrypted, same, opens.mono grown⟩

theorem NoiseReceiving.written_prefix : written <+: carried log := by
  rw [receiving.read]
  exact (List.take_prefix _ log).flatMap _

theorem NoiseReceiving.readFrom (name : String) :
    (∀ plaintext : PlaintextMessage, (session.readFrom name).1 = .ok (some plaintext) →
      ∃ after, NoiseReceiving key (session.readFrom name).2 after accepted
        (written ++ plaintext.plaintext) log) ∧
    ((session.readFrom name).1 = .ok none → receiver.incoming = []) := by
  cases arrived : receiver.incoming with
  | nil =>
    rw [readFrom_idle name receiving.receiving arrived]
    simp
  | cons message rest =>
    obtain ⟨encrypted, rfl, opens⟩ := receiving.waiting message (by simp [arrived])
    by_cases counting : receiver.counter ≤ maxSequence
    · obtain ⟨next, result, _, received⟩ :=
        readFrom_encrypted name receiving.receiving arrived counting
      rw [result, receiving.sameKey]
      cases opened : aesGcm256Decrypt crypto key (Nonce.encode receiver.counter)
          encrypted.ciphertext with
      | error reason => simp [Outcome.err]
      | ok bytes =>
        refine ⟨fun plaintext found => ?_, by simp⟩
        simp only [Except.ok.injEq, Option.some.injEq] at found
        obtain ⟨sealed, logged, same⟩ := opens _ _ opened
        obtain ⟨short, at'⟩ := List.getElem?_eq_some_iff.mp logged
        have counted := receiving.counted
        rw [arrived, List.length_cons] at counted
        refine ⟨_, received, receiving.sameKey, ?_, ?_, ?_, ?_⟩
        · rw [OrderedCrypter.succ_toNat counting]
          simp only
          omega
        · rw [OrderedCrypter.succ_toNat counting]
          exact short
        · rw [OrderedCrypter.succ_toNat counting, List.take_add_one, logged, carried,
            List.flatMap_append, ← carried, ← receiving.read]
          simp [same, ← found]
        · intro message member
          exact receiving.waiting message (by simp [arrived, member])
    · obtain ⟨fault, failed⟩ := readFrom_exhausted name receiving.receiving arrived
        (UInt32.not_le.mp counting)
      simp [failed]

end

end Receiving

section Channel

variable {η θ : Type} (sends : Engine η (OrderedChannelEncryptor crypto))
  (receives : Engine θ (OrderedChannelEncryptor crypto)) (sendsInput wire receivesOutput : Codec)

def Channel.noise (opens : crypto.OpensSealed) (key : Key) :
    Channel (ProxySession.noise sends sendsInput wire)
      (ProxySession.noise receives wire receivesOutput) where
  log := fun proxy chunks => noiseSealed key proxy.session chunks
  Logged := NoiseLogged crypto key
  Sealing := fun _ _ => True
  Flowing := fun proxy chunks frames =>
    ∃ sender, NoiseFlowing wire key proxy.session sender chunks frames
  Drained := fun proxy => ∃ sender, senderOf proxy.session = some sender ∧ sender.outgoing = []
  Flushed := fun _ => True
  Receiving := fun proxy accepted written log =>
    ∃ receiver, NoiseReceiving key proxy.session receiver accepted written log
  Idle := fun proxy => ∃ receiver, receiverOf proxy.session = some receiver ∧ receiver.incoming = []
  Unforged := fun _ log data => ∀ message, wire.decode data = .ok ⟨some (.encrypted message)⟩ →
    Unopened crypto key log message.ciphertext
  sealing_of_flowing := fun _ => trivial
  logged := by
    intro proxy chunks _
    exact noiseSealed_logged key proxy.session chunks
  carried_prefix := by
    intro proxy chunks _
    exact noiseSealed_carried key proxy.session chunks
  frame_ne_nil := by
    rintro proxy chunks frames ⟨sender, flowing⟩
    exact flowing.frame_ne_nil
  putPlaintext_sealing := by
    rintro proxy chunks frames chunk ⟨sender, flowing⟩ _ short
    exact ⟨trivial, (flowing.write short).1⟩
  putPlaintext_flowing := by
    rintro proxy chunks frames chunk ⟨sender, flowing⟩ _ short accepted
    exact (flowing.write short).2 accepted
  getOutgoing_sealing := by
    rintro proxy chunks frames ⟨sender, flowing⟩
    refine ⟨trivial, ?_⟩
    simp only [ProxySession.noise, getOutgoing_session]
    rw [flowing.popOutgoing.log, flowing.log]
  getOutgoing_flowing := by
    rintro proxy chunks frames frame ⟨sender, flowing⟩ found
    simp only [ProxySession.noise, getOutgoing_session, getOutgoing_frame sends wire
      flowing.sending, Except.ok.injEq] at found ⊢
    have popped := flowing.popOutgoing
    rw [found] at popped
    exact ⟨_, popped⟩
  getOutgoing_drained := by
    rintro proxy chunks frames ⟨sender, flowing⟩ found
    simp only [ProxySession.noise, getOutgoing_session, getOutgoing_frame sends wire
      flowing.sending, Except.ok.injEq] at found ⊢
    have popped := flowing.popOutgoing
    rw [found] at popped
    have empty : sender.outgoing.tail = [] := by
      cases waiting : sender.outgoing with
      | nil => rfl
      | cons message rest => simp [waiting] at found
    exact ⟨⟨_, by simpa using popped⟩, _, popped.sending, empty⟩
  putIncoming_flowing := by
    rintro proxy chunks frames data ⟨sender, flowing⟩
    have same := senderOf_putIncoming sends sendsInput proxy data
    exact ⟨⟨sender, flowing.kept same⟩, (noiseSealed_of_sender same).symm ▸ List.prefix_rfl⟩
  putIncoming_drained := by
    rintro proxy data ⟨sender, sending, empty⟩
    exact ⟨sender, (senderOf_putIncoming sends sendsInput proxy data).trans sending, empty⟩
  getPlaintext_flowing := by
    rintro proxy chunks frames ⟨sender, flowing⟩
    have same := senderOf_readFrom proxy.isOpen sends.inputName
    exact ⟨⟨sender, flowing.kept same⟩, (noiseSealed_of_sender same).symm ▸ List.prefix_rfl⟩
  getPlaintext_drained := by
    rintro proxy ⟨sender, sending, empty⟩
    exact ⟨sender, (senderOf_readFrom proxy.isOpen sends.inputName).trans sending, empty⟩
  receiving_mono := by
    rintro proxy accepted written log later ⟨receiver, receiving⟩ grown
    exact ⟨receiver, receiving.mono grown⟩
  written_prefix := by
    rintro proxy accepted written log ⟨receiver, receiving⟩
    exact receiving.written_prefix
  putIncoming_receiving := by
    rintro proxy accepted written log data ⟨receiver, receiving⟩ _ logged unforged accept
    obtain ⟨message, decoded, received⟩ :=
      (putIncoming_halves receives wire receiving.receiving data).2 accept
    have opened := OpensLogged.of_unopened opens logged (unforged message decoded)
    refine ⟨_, received, receiving.sameKey, ?_, receiving.opened, receiving.read, ?_⟩
    · have counted := receiving.counted
      simp only [List.length_append, List.length_singleton]
      omega
    · intro waiting member
      rcases List.mem_append.mp member with before | last
      · exact receiving.waiting waiting before
      · exact ⟨message, List.mem_singleton.mp last, opened⟩
  getPlaintext_receiving := by
    rintro proxy accepted written log plaintext ⟨receiver, receiving⟩ found
    obtain ⟨message, read, rfl⟩ := getPlaintext_some receives found
    exact (receiving.readFrom receives.inputName).1 message read
  getPlaintext_idle := by
    rintro proxy accepted written log ⟨receiver, receiving⟩ found
    have read := getPlaintext_none receives found
    have empty := (receiving.readFrom receives.inputName).2 read
    have same : receiverOf (proxy.session.readFrom receives.inputName).2 =
        receiverOf proxy.session := by
      rw [readFrom_idle receives.inputName receiving.receiving empty]
    exact ⟨⟨receiver, receiving.kept same⟩, receiver, same.trans receiving.receiving, empty⟩
  putPlaintext_receiving := by
    rintro proxy accepted written log chunk ⟨receiver, receiving⟩ ⟨idle, isIdle, empty⟩
    have same := receiverOf_write proxy.isOpen ⟨chunk⟩
    exact ⟨⟨receiver, receiving.kept same⟩, idle, same.trans isIdle, empty⟩
  getOutgoing_receiving := by
    rintro proxy accepted written log ⟨receiver, receiving⟩ ⟨idle, isIdle, empty⟩
    have same : receiverOf (proxy.getOutgoing receives receivesOutput).2.session =
        receiverOf proxy.session := by
      rw [getOutgoing_session]
      rfl
    exact ⟨⟨receiver, receiving.kept same⟩, idle, same.trans isIdle, empty⟩
  complete := by
    rintro sending chunks frames receiving written ⟨sender, flowing⟩ ⟨_, same, drained⟩ _
      ⟨receiver, received⟩ ⟨_, sameReceiver, idle⟩
    rw [flowing.sending, Option.some.injEq] at same
    rw [received.receiving, Option.some.injEq] at sameReceiver
    subst same sameReceiver
    have frameCount := congrArg List.length flowing.inOrder
    simp only [drained, List.map_nil, List.append_nil, List.length_map, noiseLog_length]
      at frameCount
    have counted := received.counted
    rw [idle, List.length_nil, Nat.add_zero, frameCount] at counted
    have all : (noiseLog crypto key chunks).take receiver.counter.toNat =
        noiseLog crypto key chunks := by
      apply List.take_of_length_le
      rw [noiseLog_length, counted]
    rw [received.read, flowing.log, all, carried_noiseLog]

end Channel

end Oak.Proxy

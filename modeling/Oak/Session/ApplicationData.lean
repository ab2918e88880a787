import Oak.Data.Interleaving
import Oak.Session.Encryptors
import Oak.Session.Pipe

namespace Oak.Session.ApplicationData

open Oak.Data Oak.Crypto
open Oak.Data.Interleaving (Side)

/-! Application data between two open sessions with the ordered encryptor.

Every call on either session is a move of the pipe of one direction and leaves
the pipe of the other direction as it was. -/

variable {crypto : Primitives} {flying : List SessionMessage}
  {session : ClientSession (OrderedChannelEncryptor crypto)} {message : SessionMessage}
  {rest : List SessionMessage}

section Endpoints

variable {η : Type}

def senderOf (endpoint : Endpoint η (OrderedChannelEncryptor crypto)) : Option Sender :=
  match endpoint.step with
  | .opened encryptor _ _ => some {
      key := encryptor.crypter.writeKey
      counter := encryptor.crypter.writeNonce.nonce
      outgoing := endpoint.outgoing }
  | _ => none

def receiverOf (endpoint : Endpoint η (OrderedChannelEncryptor crypto)) : Option Receiver :=
  match endpoint.step with
  | .opened encryptor _ _ => some {
      key := encryptor.crypter.readKey
      counter := encryptor.crypter.readNonce.nonce
      incoming := endpoint.incoming }
  | _ => none

variable {endpoint : Endpoint η (OrderedChannelEncryptor crypto)} {sender : Sender}

theorem opened_of_sender (sending : senderOf endpoint = some sender) :
    ∃ crypter attestationState handshakeState outgoing incoming,
      endpoint = ⟨.opened ⟨crypter⟩ attestationState handshakeState, outgoing, incoming⟩ ∧
      sender = ⟨crypter.writeKey, crypter.writeNonce.nonce, outgoing⟩ := by
  obtain ⟨step, outgoing, incoming⟩ := endpoint
  cases step with
  | opened encryptor attestationState handshakeState =>
    exact ⟨encryptor.crypter, attestationState, handshakeState, outgoing, incoming, rfl,
      (Option.some.inj sending).symm⟩
  | attestation | handshake | error | invalid => simp [senderOf] at sending

variable {receiver : Receiver}

theorem opened_of_receiver (receiving : receiverOf endpoint = some receiver) :
    ∃ crypter attestationState handshakeState outgoing incoming,
      endpoint = ⟨.opened ⟨crypter⟩ attestationState handshakeState, outgoing, incoming⟩ ∧
      receiver = ⟨crypter.readKey, crypter.readNonce.nonce, incoming⟩ := by
  obtain ⟨step, outgoing, incoming⟩ := endpoint
  cases step with
  | opened encryptor attestationState handshakeState =>
    exact ⟨encryptor.crypter, attestationState, handshakeState, outgoing, incoming, rfl,
      (Option.some.inj receiving).symm⟩
  | attestation | handshake | error | invalid => simp [receiverOf] at receiving

/-- What `write` does with a plaintext of admissible size. -/
inductive WriteStep (endpoint : Endpoint η (OrderedChannelEncryptor crypto)) (plaintext : Bytes) :
    Outcome AnyError Unit × Endpoint η (OrderedChannelEncryptor crypto) → Prop where
  | accepted (sender : Sender) (sending : senderOf endpoint = some sender)
      (room : sender.outgoing.length < defaultMaxMessageQueueLen)
      (counting : sender.counter ≤ maxSequence)
      (next : Endpoint η (OrderedChannelEncryptor crypto))
      (sent : senderOf next = some { sender with
        counter := sender.counter + 1
        outgoing := sender.outgoing ++ [⟨some (.encrypted {
          ciphertext := crypto.encryptInPlace sender.key (Nonce.encode sender.counter) []
            (padPlaintext plaintext)
          associatedData := none
          nonce := none })⟩] })
      (kept : receiverOf next = receiverOf endpoint) :
      WriteStep endpoint plaintext (.ok (), next)
  | refused (reason : AnyError) (next : Endpoint η (OrderedChannelEncryptor crypto))
      (unsent : senderOf next = senderOf endpoint)
      (kept : receiverOf next = receiverOf endpoint) :
      WriteStep endpoint plaintext (.err reason, next)

theorem write_step (endpoint : Endpoint η (OrderedChannelEncryptor crypto)) {plaintext : Bytes}
    (fitting : plaintext.length ≤ maxPlaintext) :
    WriteStep endpoint plaintext (endpoint.write ⟨plaintext⟩) := by
  obtain ⟨step, outgoing, incoming⟩ := endpoint
  cases step with
  | opened encryptor attestationState handshakeState =>
    obtain ⟨crypter⟩ := encryptor
    simp only [Endpoint.write]
    split
    · rename_i room
      by_cases counting : crypter.writeNonce.nonce ≤ maxSequence
      · have notOversize : ¬ OrderedCrypter.Oversize plaintext := Nat.not_lt.mpr fitting
        simp only [Encryptor.encrypt, OrderedChannelEncryptor.encrypt, Payload.ofPlaintext,
          OrderedCrypter.encrypt_of_le crypto counting,
          OrderedCrypter.aesGcm256Encrypt_fitting notOversize]
        exact .accepted _ rfl room counting _ rfl rfl
      · have exhausted := UInt32.not_le.mp counting
        simp only [Encryptor.encrypt, OrderedChannelEncryptor.encrypt,
          OrderedCrypter.encrypt_exhausted crypto exhausted]
        exact .refused _ _ rfl rfl
    · exact .refused _ _ rfl rfl
  | attestation | handshake | error | invalid => exact .refused _ _ rfl rfl

section

variable (name : String) (receiving : receiverOf endpoint = some receiver)

include name receiving

/-- What `read` does with an encrypted message at the head of the queue. -/
theorem readFrom_encrypted {message : EncryptedMessage}
    (arrived : receiver.incoming = ⟨some (.encrypted message)⟩ :: rest)
    (counting : receiver.counter ≤ maxSequence) :
    ∃ next,
      endpoint.readFrom name =
        (match aesGcm256Decrypt crypto receiver.key (Nonce.encode receiver.counter)
            message.ciphertext with
          | .ok plaintext => .ok (some ⟨plaintext⟩)
          | .error reason => .err ("decrypting plaintext: " ++ encryptionError reason), next) ∧
      senderOf next = senderOf endpoint ∧
      receiverOf next = some { receiver with counter := receiver.counter + 1, incoming := rest } := by
  obtain ⟨crypter, attestationState, handshakeState, outgoing, incoming, rfl, rfl⟩ :=
    opened_of_receiver receiving
  subst arrived
  simp only [Endpoint.readFrom, Encryptor.decrypt, OrderedChannelEncryptor.decrypt,
    Payload.ofEncrypted, OrderedCrypter.decrypt_of_le crypto counting]
  cases aesGcm256Decrypt crypto crypter.readKey (Nonce.encode crypter.readNonce.nonce)
      message.ciphertext with
  | ok | error => exact ⟨_, rfl, rfl, rfl⟩

theorem readFrom_exhausted {message : EncryptedMessage}
    (arrived : receiver.incoming = ⟨some (.encrypted message)⟩ :: rest)
    (exhausted : maxSequence < receiver.counter) :
    ∃ fault, (endpoint.readFrom name).1 = .error fault := by
  obtain ⟨crypter, attestationState, handshakeState, outgoing, incoming, rfl, rfl⟩ :=
    opened_of_receiver receiving
  subst arrived
  simp only [Endpoint.readFrom, Encryptor.decrypt, OrderedChannelEncryptor.decrypt,
    OrderedCrypter.decrypt_exhausted crypto exhausted]
  exact ⟨_, rfl⟩

theorem readFrom_idle
    (idle : receiver.incoming = []) : endpoint.readFrom name = (.ok none, endpoint) := by
  obtain ⟨_, _, _, _, _, rfl, rfl⟩ := opened_of_receiver receiving
  subst idle
  rfl

end

theorem popOutgoing_halves (sending : senderOf endpoint = some sender) :
    endpoint.popOutgoing.1 = .ok sender.outgoing.head? ∧
      senderOf endpoint.popOutgoing.2 =
        some { sender with outgoing := sender.outgoing.tail } ∧
      receiverOf endpoint.popOutgoing.2 = receiverOf endpoint := by
  obtain ⟨_, _, _, _, _, rfl, rfl⟩ := opened_of_sender sending
  exact ⟨rfl, rfl, rfl⟩

theorem pushIncoming_halves (receiving : receiverOf endpoint = some receiver)
    (message : SessionMessage) :
    (receiver.incoming.length < defaultMaxMessageQueueLen ∧
        ∃ next, endpoint.pushIncoming message = (.ok (some ()), next) ∧
          senderOf next = senderOf endpoint ∧
          receiverOf next = some { receiver with incoming := receiver.incoming ++ [message] }) ∨
      endpoint.pushIncoming message = (.err "Message queue limit exceeded", endpoint) := by
  obtain ⟨_, _, _, _, _, rfl, rfl⟩ := opened_of_receiver receiving
  simp only [Endpoint.pushIncoming]
  split
  · rename_i room
    exact .inl ⟨room, _, rfl, rfl, rfl⟩
  · exact .inr rfl

theorem client_getOutgoingMessage (sending : senderOf session = some sender) (random : Block 32) :
    ClientSession.getOutgoingMessage crypto session random = session.popOutgoing := by
  obtain ⟨_, _, _, _, _, rfl, rfl⟩ := opened_of_sender sending
  rfl

theorem server_getOutgoingMessage {session : ServerSession (OrderedChannelEncryptor crypto)}
    (sending : senderOf session = some sender) (random : Block 32) :
    ServerSession.getOutgoingMessage crypto session random = session.popOutgoing := by
  obtain ⟨_, _, _, _, _, rfl, rfl⟩ := opened_of_sender sending
  rfl

theorem client_putIncomingMessage (receiving : receiverOf session = some receiver) (message : EncryptedMessage)
    (random : Block 32) :
    ClientSession.putIncomingMessage crypto session ⟨some (.encrypted message)⟩ random =
      session.pushIncoming ⟨some (.encrypted message)⟩ := by
  obtain ⟨_, _, _, _, _, rfl, rfl⟩ := opened_of_receiver receiving
  rfl

theorem server_putIncomingMessage {session : ServerSession (OrderedChannelEncryptor crypto)}
    (receiving : receiverOf session = some receiver) (message : EncryptedMessage)
    (random : Block 32) :
    ServerSession.putIncomingMessage crypto session ⟨some (.encrypted message)⟩ random =
      session.pushIncoming ⟨some (.encrypted message)⟩ := by
  obtain ⟨_, _, _, _, _, rfl, rfl⟩ := opened_of_receiver receiving
  rfl

end Endpoints

section Directions

variable {η θ : Type}

def Direction (sender : Endpoint η (OrderedChannelEncryptor crypto))
    (inFlight : List SessionMessage) (receiver : Endpoint θ (OrderedChannelEncryptor crypto))
    (written readBack : List Bytes) (noDrops : Prop) : Prop :=
  ∃ sending receiving indices,
    senderOf sender = some sending ∧ receiverOf receiver = some receiving ∧
    Carries crypto sending inFlight receiving written readBack indices ∧
    (noDrops → Lossless receiving written readBack indices)

namespace Direction

variable {sender : Endpoint η (OrderedChannelEncryptor crypto)} {inFlight : List SessionMessage}
  {receiver : Endpoint θ (OrderedChannelEncryptor crypto)} {written readBack : List Bytes}
  {noDrops : Prop}

section

variable (direction : Direction sender inFlight receiver written readBack noDrops)

include direction

theorem transfer {nextSender : Endpoint η (OrderedChannelEncryptor crypto)}
    {nextReceiver : Endpoint θ (OrderedChannelEncryptor crypto)}
    {nextWritten nextRead : List Bytes} {stillNoDrops : Prop}
    (sameSender : senderOf nextSender = senderOf sender)
    (sameReceiver : receiverOf nextReceiver = receiverOf receiver)
    (sameWritten : nextWritten = written) (sameRead : nextRead = readBack)
    (weaker : stillNoDrops → noDrops) :
    Direction nextSender inFlight nextReceiver nextWritten nextRead stillNoDrops := by
  obtain ⟨sending, receiving, indices, sends, receives, carries, lossless⟩ := direction
  subst sameWritten sameRead
  exact ⟨sending, receiving, indices, sameSender.trans sends, sameReceiver.trans receives, carries,
    fun stillNone => lossless (weaker stillNone)⟩

theorem sending : ∃ sending, senderOf sender = some sending := by
  obtain ⟨sending, _, _, sends, _⟩ := direction
  exact ⟨sending, sends⟩

theorem receiving : ∃ receiving, receiverOf receiver = some receiving := by
  obtain ⟨_, receiving, _, _, receives, _⟩ := direction
  exact ⟨receiving, receives⟩

end

def acceptedWrite (plaintext : Bytes) : Outcome AnyError Unit → List Bytes
  | .ok () => [plaintext]
  | .error _ => []

theorem write (direction : Direction sender inFlight receiver written readBack noDrops)
    {plaintext : Bytes} (fitting : plaintext.length ≤ maxPlaintext) :
    Direction (sender.write ⟨plaintext⟩).2 inFlight receiver
        (written ++ acceptedWrite plaintext (sender.write ⟨plaintext⟩).1) readBack noDrops ∧
      receiverOf (sender.write ⟨plaintext⟩).2 = receiverOf sender := by
  obtain ⟨sending, receiving, indices, sends, receives, carries, lossless⟩ := direction
  have step := write_step sender fitting
  generalize sender.write ⟨plaintext⟩ = result at step
  cases step with
  | accepted sending' sends' room counting next sent kept =>
    rw [sends, Option.some.injEq] at sends'
    subst sends'
    have index : Nonce.encode sending.counter =
        Nonce.encode (UInt32.ofNat written.length) := by
      rw [← carries.counter, UInt32.ofNat_toNat]
    have message : sealedMessage crypto sending.key (written ++ [plaintext]) written.length =
        ⟨some (.encrypted {
          ciphertext := crypto.encryptInPlace sending.key (Nonce.encode sending.counter) []
            (padPlaintext plaintext)
          associatedData := none
          nonce := none })⟩ := by
      simp [sealedMessage, index]
    rw [← message] at sent
    exact ⟨⟨_, receiving, indices ++ [written.length], sent, receives,
      carries.write room counting plaintext,
      fun noDrop => (lossless noDrop).write carries.readBack_length_le plaintext⟩, kept⟩
  | refused reason next unsent kept =>
    simp only [Outcome.err, acceptedWrite, List.append_nil]
    exact ⟨⟨sending, receiving, indices, unsent.trans sends, receives, carries, lossless⟩, kept⟩

def takenMessage : Outcome AnyError (Option SessionMessage) → List SessionMessage
  | .ok message => message.toList
  | .error _ => []

theorem take (direction : Direction sender inFlight receiver written readBack noDrops) :
    Direction sender.popOutgoing.2 (inFlight ++ takenMessage sender.popOutgoing.1) receiver written
        readBack noDrops ∧ receiverOf sender.popOutgoing.2 = receiverOf sender := by
  obtain ⟨sending, receiving, indices, sends, receives, carries, lossless⟩ := direction
  obtain ⟨result, sent, kept⟩ := popOutgoing_halves sends
  have same : receiving.incoming ++ (inFlight ++ takenMessage sender.popOutgoing.1) ++
      sending.outgoing.tail = receiving.incoming ++ inFlight ++ sending.outgoing := by
    rw [result]
    cases sending.outgoing with
    | nil | cons => simp [takenMessage]
  have shorter : sending.outgoing.tail.length ≤ defaultMaxMessageQueueLen := by
    rw [List.length_tail]
    exact (Nat.sub_le _ _).trans carries.outgoingLimit
  exact ⟨⟨_, receiving, indices, sent, receives, carries.move same shorter carries.incomingLimit,
    lossless⟩, kept⟩

theorem flying_encrypted (direction : Direction sender (message :: flying) receiver written readBack noDrops) :
    ∃ encrypted, message = ⟨some (.encrypted encrypted)⟩ := by
  obtain ⟨sending, receiving, indices, sends, receives, carries, lossless⟩ := direction
  have member : message ∈ indices.map (sealedMessage crypto sending.key written) := by
    rw [← carries.inPipe]
    simp
  obtain ⟨index, _, same⟩ := List.mem_map.mp member
  exact ⟨_, same.symm⟩

theorem deliver (direction : Direction sender (message :: flying) receiver written readBack noDrops) :
    (∃ next, receiver.pushIncoming message = (.ok (some ()), next) ∧
        Direction sender flying next written readBack noDrops ∧ senderOf next = senderOf receiver) ∨
      ∃ reason, receiver.pushIncoming message = (.err reason, receiver) ∧
        Direction sender flying receiver written readBack False := by
  obtain ⟨sending, receiving, indices, sends, receives, carries, lossless⟩ := direction
  rcases pushIncoming_halves receives message with ⟨room, next, pushed, kept, received⟩ | refused
  · have longer : (receiving.incoming ++ [message]).length ≤ defaultMaxMessageQueueLen := by
      rw [List.length_append]
      exact room
    have same : receiving.incoming ++ [message] ++ flying ++ sending.outgoing =
        receiving.incoming ++ message :: flying ++ sending.outgoing := by
      simp
    exact .inl ⟨next, pushed, ⟨sending, _, indices, sends, received,
      carries.move same carries.outgoingLimit longer,
      fun noDrop => ⟨(lossless noDrop).counter, (lossless noDrop).complete⟩⟩, kept⟩
  · obtain ⟨remaining, dropped⟩ := carries.drop
    exact .inr ⟨_, refused, sending, receiving, remaining, sends, receives, dropped, False.elim⟩

def plaintextRead : Outcome AnyError (Option PlaintextMessage) → List Bytes
  | .ok (some message) => [message.plaintext]
  | _ => []

theorem read (opens : crypto.OpensSealed) (bound : crypto.NonceBound) (name : String)
    (direction : Direction sender inFlight receiver written readBack noDrops) :
    Direction sender inFlight (receiver.readFrom name).2 written
        (readBack ++ plaintextRead (receiver.readFrom name).1) noDrops ∧
      senderOf (receiver.readFrom name).2 = senderOf receiver := by
  obtain ⟨sending, receiving, indices, sends, receives, carries, lossless⟩ := direction
  cases arrived : receiving.incoming with
  | nil =>
    rw [readFrom_idle name receives arrived]
    simp only [plaintextRead, List.append_nil]
    exact ⟨⟨sending, receiving, indices, sends, receives, carries, lossless⟩, trivial⟩
  | cons message rest =>
    obtain ⟨index, others, rfl, rfl, reached, written'⟩ := carries.head arrived
    have counting : receiving.counter ≤ maxSequence := by
      have limit := carries.limit
      rw [UInt32.le_iff_toNat_le]
      omega
    obtain ⟨next, result, kept, received⟩ := readFrom_encrypted name receives arrived counting
    rw [result]
    refine ⟨?_, kept⟩
    by_cases expected : receiving.counter.toNat = index
    · have nonce : Nonce.encode (UInt32.ofNat index) = Nonce.encode receiving.counter := by
        rw [← expected, UInt32.ofNat_toNat]
      have opened : aesGcm256Decrypt crypto receiving.key (Nonce.encode receiving.counter)
          (crypto.encryptInPlace sending.key (Nonce.encode (UInt32.ofNat index)) []
            (padPlaintext (written.getD index []))) = .ok (written.getD index []) := by
        rw [carries.sameKey, nonce, aesGcm256Decrypt, opens]
        exact unpadPlaintext_padPlaintext _
      simp only [opened]
      exact ⟨sending, _, others, sends, received,
        carries.read_expected arrived expected counting,
        fun noDrop => (lossless noDrop).read counting rest _⟩
    · have early : receiving.counter.toNat < index := by omega
      have closed : aesGcm256Decrypt crypto receiving.key (Nonce.encode receiving.counter)
          (crypto.encryptInPlace sending.key (Nonce.encode (UInt32.ofNat index)) []
            (padPlaintext (written.getD index []))) = .error .decryptFailed := by
        rw [carries.sameKey, aesGcm256Decrypt]
        cases unsealed : crypto.decryptInPlace sending.key (Nonce.encode receiving.counter) []
            (crypto.encryptInPlace sending.key (Nonce.encode (UInt32.ofNat index)) []
              (padPlaintext (written.getD index []))) with
        | none => rfl
        | some padded =>
          have same := Nonce.encode_injective (bound _ _ _ _ _ _ unsealed)
          have small : index < 2 ^ 32 := by
            have limit := carries.limit
            have size : maxSequence.toNat = 16777216 := rfl
            omega
          rw [same, UInt32.toNat_ofNat_of_lt' small] at expected
          exact absurd rfl expected
      simp only [closed, Outcome.err, plaintextRead, List.append_nil]
      exact ⟨sending, _, others, sends, received,
        carries.read_unexpected arrived early counting,
        fun noDrop => absurd (lossless noDrop).expected expected⟩

end Direction

end Directions

structure Link (crypto : Primitives) where
  client : ClientSession (OrderedChannelEncryptor crypto)
  server : ServerSession (OrderedChannelEncryptor crypto)
  toServer : List SessionMessage
  toClient : List SessionMessage

/-- A delivery that is refused is tried again later, or the message is dropped. -/
inductive Action where
  | write (side : Side) (plaintext : Bytes) (fitting : plaintext.length ≤ maxPlaintext)
  | getOutgoingMessage (side : Side) (random : Block 32)
  | deliver (side : Side) (random : Block 32) (retries : Bool)
  | read (side : Side)

/-- What remains in flight after the first message was offered to a session. -/
def afterDelivery (retries : Bool) (message : SessionMessage) (flying : List SessionMessage) :
    Outcome AnyError (Option Unit) → List SessionMessage
  | .ok _ => flying
  | .error _ => if retries then message :: flying else flying

def Link.act (link : Link crypto) : Action → Option Answer × Link crypto
  | .write .client plaintext _ =>
    let (result, client) := link.client.write ⟨plaintext⟩
    (some (.wrote result), { link with client })
  | .write .server plaintext _ =>
    let (result, server) := link.server.write ⟨plaintext⟩
    (some (.wrote result), { link with server })
  | .getOutgoingMessage .client random =>
    let (result, client) := ClientSession.getOutgoingMessage crypto link.client random
    (some (.got result),
      { link with client, toServer := link.toServer ++ Direction.takenMessage result })
  | .getOutgoingMessage .server random =>
    let (result, server) := ServerSession.getOutgoingMessage crypto link.server random
    (some (.got result),
      { link with server, toClient := link.toClient ++ Direction.takenMessage result })
  | .deliver .server random retries =>
    match link.toServer with
    | [] => (none, link)
    | message :: flying =>
      let (result, server) := ServerSession.putIncomingMessage crypto link.server message random
      (some (.put result),
        { link with server, toServer := afterDelivery retries message flying result })
  | .deliver .client random retries =>
    match link.toClient with
    | [] => (none, link)
    | message :: flying =>
      let (result, client) := ClientSession.putIncomingMessage crypto link.client message random
      (some (.put result),
        { link with client, toClient := afterDelivery retries message flying result })
  | .read .client =>
    let (result, client) := ClientSession.read link.client
    (some (.read result), { link with client })
  | .read .server =>
    let (result, server) := ServerSession.read link.server
    (some (.read result), { link with server })

abbrev History := List (Action × Option Answer)

def writtenIn (side : Side) : Action × Option Answer → List Bytes
  | (.write writer plaintext _, some (.wrote result)) =>
    if writer = side then Direction.acceptedWrite plaintext result else []
  | _ => []

def readIn (side : Side) : Action × Option Answer → List Bytes
  | (.read reader, some (.read result)) =>
    if reader = side then Direction.plaintextRead result else []
  | _ => []

def writtenBy (side : Side) (history : History) : List Bytes := history.flatMap (writtenIn side)

def readBy (side : Side) (history : History) : List Bytes := history.flatMap (readIn side)

/-- No action gives up on a message. -/
def NoDrops (history : History) : Prop :=
  ∀ call ∈ history, ∀ side random, call.1 ≠ .deliver side random false

structure Connected (history : History) (link : Link crypto) : Prop where
  toServer : Direction link.client link.toServer link.server (writtenBy .client history)
    (readBy .server history) (NoDrops history)
  toClient : Direction link.server link.toClient link.client (writtenBy .server history)
    (readBy .client history) (NoDrops history)

variable {call : Action × Option Answer}

theorem noDrops_of_append {history : History}
    (noDrops : NoDrops (history ++ [call])) : NoDrops history :=
  fun earlier member => noDrops earlier (List.mem_append_left _ member)

variable {written readBack : List Bytes} {inFlight : List SessionMessage} {η θ : Type}

namespace Connected

variable {history : History} {link : Link crypto}

theorem extend (toServer : Direction link.client link.toServer link.server
      (writtenBy .client history ++ writtenIn .client call)
      (readBy .server history ++ readIn .server call) (NoDrops (history ++ [call])))
    (toClient : Direction link.server link.toClient link.client
      (writtenBy .server history ++ writtenIn .server call)
      (readBy .client history ++ readIn .client call) (NoDrops (history ++ [call]))) :
    Connected (history ++ [call]) link := by
  constructor
  · simpa only [writtenBy, readBy, List.flatMap_append, List.flatMap_singleton] using toServer
  · simpa only [writtenBy, readBy, List.flatMap_append, List.flatMap_singleton] using toClient

theorem untouched {sender nextSender : Endpoint η (OrderedChannelEncryptor crypto)}
    {receiver nextReceiver : Endpoint θ (OrderedChannelEncryptor crypto)}
    (direction : Direction sender inFlight receiver written readBack (NoDrops history))
    (sameSender : senderOf nextSender = senderOf sender)
    (sameReceiver : receiverOf nextReceiver = receiverOf receiver) :
    Direction nextSender inFlight nextReceiver (written ++ []) (readBack ++ [])
      (NoDrops (history ++ [call])) :=
  direction.transfer sameSender sameReceiver (List.append_nil _) (List.append_nil _)
    noDrops_of_append

theorem write (connected : Connected history link) (side : Side) (plaintext : Bytes)
    (fitting : plaintext.length ≤ maxPlaintext) :
    Connected (history ++ [(.write side plaintext fitting,
        (link.act (.write side plaintext fitting)).1)])
      (link.act (.write side plaintext fitting)).2 := by
  obtain ⟨toServer, toClient⟩ := connected
  cases side with
  | client =>
    obtain ⟨sent, kept⟩ := toServer.write fitting
    apply extend
    · exact sent.transfer rfl rfl rfl (List.append_nil _) noDrops_of_append
    · exact untouched toClient rfl kept
  | server =>
    obtain ⟨sent, kept⟩ := toClient.write fitting
    apply extend
    · exact untouched toServer rfl kept
    · exact sent.transfer rfl rfl rfl (List.append_nil _) noDrops_of_append

theorem getOutgoingMessage (connected : Connected history link) (side : Side) (random : Block 32) :
    Connected (history ++ [(.getOutgoingMessage side random,
        (link.act (.getOutgoingMessage side random)).1)])
      (link.act (.getOutgoingMessage side random)).2 := by
  obtain ⟨toServer, toClient⟩ := connected
  cases side with
  | client =>
    obtain ⟨sending, sends⟩ := toServer.sending
    obtain ⟨taken, kept⟩ := toServer.take
    simp only [Link.act, client_getOutgoingMessage sends random]
    apply extend
    · exact untouched taken rfl rfl
    · exact untouched toClient rfl kept
  | server =>
    obtain ⟨sending, sends⟩ := toClient.sending
    obtain ⟨taken, kept⟩ := toClient.take
    simp only [Link.act, server_getOutgoingMessage sends random]
    apply extend
    · exact untouched toServer rfl kept
    · exact untouched taken rfl rfl

theorem read (opens : crypto.OpensSealed) (bound : crypto.NonceBound)
    (connected : Connected history link) (side : Side) :
    Connected (history ++ [(.read side, (link.act (.read side)).1)]) (link.act (.read side)).2 := by
  obtain ⟨toServer, toClient⟩ := connected
  cases side with
  | client =>
    obtain ⟨received, kept⟩ := toClient.read opens bound "SessionResponse"
    apply extend
    · exact untouched toServer kept rfl
    · exact received.transfer rfl rfl (List.append_nil _) rfl noDrops_of_append
  | server =>
    obtain ⟨received, kept⟩ := toServer.read opens bound "SessionRequest"
    apply extend
    · exact received.transfer rfl rfl (List.append_nil _) rfl noDrops_of_append
    · exact untouched toClient kept rfl

theorem offer {sender : Endpoint η (OrderedChannelEncryptor crypto)}
    {receiver : Endpoint θ (OrderedChannelEncryptor crypto)}
    {side : Side} {random : Block 32} {answer : Option Answer} (retries : Bool)
    (offered : Direction sender (message :: flying) receiver written readBack (NoDrops history)) :
    Direction sender (afterDelivery retries message flying (receiver.pushIncoming message).1)
        (receiver.pushIncoming message).2 (written ++ []) (readBack ++ [])
        (NoDrops (history ++ [(.deliver side random retries, answer)])) ∧
      senderOf (receiver.pushIncoming message).2 = senderOf receiver := by
  rcases offered.deliver with ⟨next, accepted, arrived, kept⟩ | ⟨reason, refused, dropped⟩
  · rw [accepted]
    exact ⟨untouched arrived rfl rfl, kept⟩
  · rw [refused]
    cases retries with
    | true => exact ⟨untouched offered rfl rfl, rfl⟩
    | false =>
      refine ⟨dropped.transfer rfl rfl (List.append_nil _) (List.append_nil _) ?_, rfl⟩
      intro noDrops
      exact noDrops _ (List.mem_append_right _ (List.mem_singleton_self _)) side random rfl

theorem deliver (connected : Connected history link) (side : Side) (random : Block 32)
    (retries : Bool) : Connected (history ++ [(.deliver side random retries,
        (link.act (.deliver side random retries)).1)])
      (link.act (.deliver side random retries)).2 := by
  obtain ⟨toServer, toClient⟩ := connected
  cases side with
  | server =>
    cases flight : link.toServer with
    | nil =>
      simp only [Link.act, flight]
      exact extend (untouched toServer rfl rfl) (untouched toClient rfl rfl)
    | cons message flying =>
      rw [flight] at toServer
      obtain ⟨encrypted, rfl⟩ := toServer.flying_encrypted
      obtain ⟨receiving, receives⟩ := toServer.receiving
      obtain ⟨arrived, kept⟩ := offer retries toServer
      simp only [Link.act, flight, server_putIncomingMessage receives encrypted random]
      exact extend arrived (untouched toClient kept rfl)
  | client =>
    cases flight : link.toClient with
    | nil =>
      simp only [Link.act, flight]
      exact extend (untouched toServer rfl rfl) (untouched toClient rfl rfl)
    | cons message flying =>
      rw [flight] at toClient
      obtain ⟨encrypted, rfl⟩ := toClient.flying_encrypted
      obtain ⟨receiving, receives⟩ := toClient.receiving
      obtain ⟨arrived, kept⟩ := offer retries toClient
      simp only [Link.act, flight, client_putIncomingMessage receives encrypted random]
      exact extend (untouched toServer kept rfl) arrived

theorem act (opens : crypto.OpensSealed) (bound : crypto.NonceBound)
    (connected : Connected history link) (action : Action) :
    Connected (history ++ [(action, (link.act action).1)]) (link.act action).2 := by
  cases action with
  | write side plaintext fitting => exact connected.write side plaintext fitting
  | getOutgoingMessage side random => exact connected.getOutgoingMessage side random
  | deliver side random retries => exact connected.deliver side random retries
  | read side => exact connected.read opens bound side

end Connected

def Link.opened (clientKey serverKey : Key) (client server : AttestationState × HandshakeState) :
    Link crypto where
  client := {
    step := .opened ⟨OrderedCrypter.new serverKey clientKey⟩ client.1 client.2
    outgoing := []
    incoming := [] }
  server := {
    step := .opened ⟨OrderedCrypter.new clientKey serverKey⟩ server.1 server.2
    outgoing := []
    incoming := [] }
  toServer := []
  toClient := []

theorem Connected.start (clientKey serverKey : Key)
    (client server : AttestationState × HandshakeState) :
    Connected [] (Link.opened clientKey serverKey client server : Link crypto) := by
  constructor
  · exact ⟨⟨clientKey, 0, []⟩, ⟨clientKey, 0, []⟩, [], rfl, rfl, Carries.start clientKey,
      fun _ => ⟨rfl, rfl⟩⟩
  · exact ⟨⟨serverKey, 0, []⟩, ⟨serverKey, 0, []⟩, [], rfl, rfl, Carries.start serverKey,
      fun _ => ⟨rfl, rfl⟩⟩

structure InOrder (sent flying received : List SessionMessage) (written readBack : List Bytes)
    (noDrops : Prop) : Prop where
  inOrder : readBack <+: written
  sentLimit : sent.length ≤ defaultMaxMessageQueueLen
  receivedLimit : received.length ≤ defaultMaxMessageQueueLen
  accounted : noDrops →
    written.length = readBack.length + received.length + flying.length + sent.length

theorem Direction.inOrder {sender : Endpoint η (OrderedChannelEncryptor crypto)}
    {receiver : Endpoint θ (OrderedChannelEncryptor crypto)} {noDrops : Prop}
    (direction : Direction sender inFlight receiver written readBack noDrops) :
    InOrder sender.outgoing inFlight receiver.incoming written readBack noDrops := by
  obtain ⟨sending, receiving, indices, sends, receives, carries, lossless⟩ := direction
  obtain ⟨_, _, _, outgoing, _, rfl, rfl⟩ := opened_of_sender sends
  obtain ⟨_, _, _, _, incoming, rfl, rfl⟩ := opened_of_receiver receives
  refine ⟨carries.inOrder, carries.outgoingLimit, carries.incomingLimit, ?_⟩
  intro noDrop
  have content := congrArg List.length carries.inPipe
  have shorter := carries.readBack_length_le
  rw [(lossless noDrop).complete, List.length_map, List.length_range', List.length_append,
    List.length_append] at content
  simp only at content ⊢
  omega

/-- Whatever the interleaving, what a side reads is a prefix of what the other
side wrote, no queue passes its limit, and as long as no refused delivery is
given up every plaintext that has not been read is still in a queue or in
flight. -/
theorem application_data_in_order (opens : crypto.OpensSealed) (bound : crypto.NonceBound)
    (clientKey serverKey : Key) (client server : AttestationState × HandshakeState)
    (actions : List Action) :
    let start : Link crypto := Link.opened clientKey serverKey client server
    let link := Runs.after Link.act start actions
    let history := Runs.trace Link.act start actions
    InOrder link.client.outgoing link.toServer link.server.incoming (writtenBy .client history)
        (readBy .server history) (NoDrops history) ∧
      InOrder link.server.outgoing link.toClient link.client.incoming (writtenBy .server history)
        (readBy .client history) (NoDrops history) := by
  intro start link history
  have connected : Connected history link :=
    Runs.invariant_from_start Connected
      (fun _ _ action connected => connected.act opens bound action)
      (Connected.start clientKey serverKey client server) actions
  exact ⟨connected.toServer.inOrder, connected.toClient.inOrder⟩

/-- The states of a session that opened without attestation. -/
def unattested : AttestationState × HandshakeState :=
  (⟨.attestationPassed .empty .empty, .empty, .empty, []⟩, ⟨[], .empty, .empty⟩)

/-- The server reads the client's first plaintext; the second waits in its
queue, and its own plaintext has not been taken yet. -/
def exchange : List Action :=
  [.write .client [104, 105] (by decide), .getOutgoingMessage .client (Block.zero 32),
    .deliver .server (Block.zero 32) true, .read .server, .write .server [111, 107] (by decide),
    .write .client [33] (by decide), .getOutgoingMessage .client (Block.zero 32),
    .deliver .server (Block.zero 32) true]

theorem exchange_in_order :
    let start : Link Primitives.transparent :=
      Link.opened (Block.zero 32) (Block.zero 32) unattested unattested
    let link := Runs.after Link.act start exchange
    let history := Runs.trace Link.act start exchange
    readBy .server history = [[104, 105]] ∧ writtenBy .client history = [[104, 105], [33]] ∧
      InOrder link.client.outgoing link.toServer link.server.incoming (writtenBy .client history)
        (readBy .server history) (NoDrops history) := by
  refine ⟨by decide +kernel, by decide +kernel, ?_⟩
  exact (application_data_in_order Transparent.opensSealed Transparent.nonceBound (Block.zero 32)
    (Block.zero 32) unattested unattested exchange).1

end Oak.Session.ApplicationData

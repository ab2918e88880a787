import Oak.Proxy.NoiseChannel
import Oak.Proxy.Pair
import Oak.Proxy.TlsChannel

namespace Oak.Proxy.EndOfStream

open Oak.Data Oak.Crypto Oak.Session Oak.Session.ApplicationData Oak.Tls

/-! The end of a proxied stream.

A proxy ends its application's stream when it reads an empty binary message.
That message does not pass through the session, so nothing authenticates it. -/

/-- In every run that forges nothing, only bytes of the remote application
arrive; if every empty message is a half-close in its place, a writer is shut
down only after all of them. -/
def StreamsSafe {σ τ : Type} {clientOps : ProxySession σ} {serverOps : ProxySession τ}
    (toServer : Channel clientOps serverOps) (toClient : Channel serverOps clientOps)
    (forServer forClient : List Bytes) (client : σ) (server : τ) : Prop :=
  ∀ actions,
    (Runs.Along (Proxies.step clientOps serverOps) (Proxies.Authentic toServer toClient)
        (Proxies.start client server) actions →
      (actions.foldl (Proxies.step clientOps serverOps) (Proxies.start client server)).Arrived) ∧
    (Runs.Along (Proxies.step clientOps serverOps)
        (fun proxies action => proxies.Authentic toServer toClient action ∧
          proxies.InSequence toServer toClient forServer forClient action)
        (Proxies.start client server) actions →
      (actions.foldl (Proxies.step clientOps serverOps) (Proxies.start client server)).Ended)

/-- A session that was just opened with these traffic keys. -/
structure JustOpened {η : Type} {crypto : Primitives} (writeKey readKey : Key)
    (proxy : NoiseProxySession η (OrderedChannelEncryptor crypto)) : Prop where
  sending : senderOf proxy.session = some ⟨writeKey, 0, []⟩
  receiving : receiverOf proxy.session = some ⟨readKey, 0, []⟩

/-- One direction after the handshake: the records sealed so far carry nothing,
and the receiver has taken `base` of their bytes; these frames are on their way. -/
structure HandshakeDone {κ ω κ' ω' : Type} {sends : Rustls κ ω} {receives : Rustls κ' ω'}
    (senderLayer : RecordLayer sends) (receiverLayer : RecordLayer receives) (base : Bytes)
    (inFlight : List Bytes) (sender : TlsProxySession κ ω) (receiver : TlsProxySession κ' ω') :
    Prop where
  nothing : carried (senderLayer.sealedBy sender.session.connection.outbound) = []
  sent : base ++ inFlight.flatten =
    recordBytes (senderLayer.sealedBy sender.session.connection.outbound)
  frames : ∀ frame ∈ inFlight, frame ≠ []
  flushed : sender.session.connection.sendable = []
  outgoing : sender.outgoingBuffer = []
  running : receiver.session.connection.failure = none
  drained : receiver.session.connection.plaintext = []
  taken : receiver.session.connection.undecoded = base
  waiting : receives.framing.split base = none
  unopened : receiverLayer.opened receiver.session.connection.inbound = 0
  plaintexts : receiver.plaintextBuffer = []

section Established

theorem noise_established {η θ : Type} {crypto : Primitives} (opens : crypto.OpensSealed)
    (sends : Engine η (OrderedChannelEncryptor crypto))
    (receives : Engine θ (OrderedChannelEncryptor crypto))
    (sendsInput wire receivesOutput : Codec) {key other another : Key}
    {sender : NoiseProxySession η (OrderedChannelEncryptor crypto)}
    {receiver : NoiseProxySession θ (OrderedChannelEncryptor crypto)}
    (sending : JustOpened key other sender) (receiving : JustOpened another key receiver) :
    (Channel.noise sends receives sendsInput wire receivesOutput opens key).Established []
      sender receiver where
  flowing := ⟨_, sending.sending, rfl, rfl, rfl⟩
  drained := ⟨_, sending.sending, rfl⟩
  receiving := ⟨_, receiving.receiving, rfl, rfl, Nat.zero_le _, rfl,
    fun _ waits => absurd waits List.not_mem_nil⟩
  idle := ⟨_, receiving.receiving, rfl⟩

theorem HandshakeDone.established {κ ω κ' ω' : Type} {sends : Rustls κ ω}
    {receives : Rustls κ' ω'} {senderLayer : RecordLayer sends}
    {receiverLayer : RecordLayer receives} (cuts : CutsRecords senderLayer receives.framing)
    {base : Bytes} {inFlight : List Bytes} {sender : TlsProxySession κ ω}
    {receiver : TlsProxySession κ' ω'}
    (done : HandshakeDone senderLayer receiverLayer base inFlight sender receiver) :
    (Channel.tls senderLayer receiverLayer cuts base).Established inFlight sender receiver where
  flowing := by
    refine ⟨done.nothing, ?_, ?_⟩
    · rw [done.flushed, done.outgoing, ← done.sent]
      simp
    · intro frame member
      rw [done.outgoing, List.append_nil] at member
      exact done.frames frame member
  drained := done.outgoing
  receiving := by
    refine ⟨done.running, done.drained, ?_, ?_, ?_, ?_⟩
    · rw [done.taken]
      exact done.waiting
    · rw [done.unopened]
      exact Nat.zero_le _
    · rw [done.unopened, done.taken]
      simp [recordBytes]
    · rw [done.unopened, done.plaintexts]
      rfl
  idle := done.plaintexts

theorem StreamsSafe.of_established {σ τ : Type} {clientOps : ProxySession σ}
    {serverOps : ProxySession τ} {toServer : Channel clientOps serverOps}
    {toClient : Channel serverOps clientOps} {forServer forClient : List Bytes} {client : σ}
    {server : τ} (serverward : toServer.Established forServer client server)
    (clientward : toClient.Established forClient server client) :
    StreamsSafe toServer toClient forServer forClient client server :=
  fun _ => ⟨Proxies.run_arrived serverward clientward, Proxies.run_ended serverward clientward⟩

end Established

/-- Streams between proxies over Noise sessions and over TLS sessions.  For
Noise, `request` and `response` encode the messages of the client and of the
server; for TLS, some frames of the handshake may still be on their way. -/
theorem streams_safe (crypto : Primitives) (opens : crypto.OpensSealed)
    (clientRandom serverRandom : Block 32) (request response : Codec) :
    (∀ (serverKey clientKey : Key)
      (client : NoiseProxySession ClientHandshakeHandler (OrderedChannelEncryptor crypto))
      (server : NoiseProxySession ServerHandshakeHandler (OrderedChannelEncryptor crypto)),
      JustOpened serverKey clientKey client → JustOpened clientKey serverKey server → StreamsSafe
        (Channel.noise (Engine.client crypto clientRandom) (Engine.server crypto serverRandom)
          response request response opens serverKey)
        (Channel.noise (Engine.server crypto serverRandom) (Engine.client crypto clientRandom)
          request response request opens clientKey) [] [] client server) ∧
    (∀ {κ ω κ' ω' : Type} {clientTls : Rustls κ ω} {serverTls : Rustls κ' ω'}
      (clientLayer : RecordLayer clientTls) (serverLayer : RecordLayer serverTls)
      (serverCuts : CutsRecords clientLayer serverTls.framing)
      (clientCuts : CutsRecords serverLayer clientTls.framing) (serverBase clientBase : Bytes)
      (forServer forClient : List Bytes) (client : TlsProxySession κ ω)
      (server : TlsProxySession κ' ω'),
      HandshakeDone clientLayer serverLayer serverBase forServer client server →
      HandshakeDone serverLayer clientLayer clientBase forClient server client →
      StreamsSafe (Channel.tls clientLayer serverLayer serverCuts serverBase)
        (Channel.tls serverLayer clientLayer clientCuts clientBase) forServer forClient client
        server) := by
  refine ⟨?_, ?_⟩
  · intro serverKey clientKey client server clientOpened serverOpened
    exact .of_established (noise_established opens _ _ _ _ _ clientOpened serverOpened)
      (noise_established opens _ _ _ _ _ serverOpened clientOpened)
  · intro κ ω κ' ω' clientTls serverTls clientLayer serverLayer serverCuts clientCuts serverBase
      clientBase forServer forClient client server serverward clientward
    exact .of_established (serverward.established serverCuts) (clientward.established clientCuts)

section Instances

def steady : Io := ⟨fun _ => .ok (), fun _ => .ok (), .ok ()⟩

def tagged : Codec where
  encode
    | ⟨some (.encrypted message)⟩ => 1 :: message.ciphertext
    | _ => [0]
  decode
    | 1 :: ciphertext => .ok (encryptedMessage ciphertext)
    | _ => .error "unknown tag"
  encode_ne_nil := by
    intro content
    cases content with
    | encrypted | attest | handshake => exact List.cons_ne_nil _ _

def justOpened (η : Type) (writeKey readKey : Key) :
    NoiseProxySession η (OrderedChannelEncryptor Primitives.transparent) where
  session := {
    step := .opened ⟨OrderedCrypter.new readKey writeKey⟩
      ⟨.attestationPassed .empty .empty, .empty, .empty, []⟩ ⟨[], .empty, .empty⟩
    outgoing := []
    incoming := [] }
  isOpen := trivial

theorem justOpened_opened (η : Type) (writeKey readKey : Key) :
    JustOpened writeKey readKey (justOpened η writeKey readKey) :=
  ⟨rfl, rfl⟩

def serverKey : Key := Block.zero 32

def clientKey : Key := List.Vector.replicate 32 1

abbrev clientEngine : Engine ClientHandshakeHandler (OrderedChannelEncryptor .transparent) :=
  Engine.client Primitives.transparent (Block.zero 32)

abbrev serverEngine : Engine ServerHandshakeHandler (OrderedChannelEncryptor .transparent) :=
  Engine.server Primitives.transparent (Block.zero 32)

abbrev clientOps := ProxySession.noise clientEngine tagged tagged

abbrev serverOps := ProxySession.noise serverEngine tagged tagged

abbrev toServer : Channel clientOps serverOps :=
  Channel.noise clientEngine serverEngine tagged tagged tagged Transparent.opensSealed serverKey

abbrev toClient : Channel serverOps clientOps :=
  Channel.noise serverEngine clientEngine tagged tagged tagged Transparent.opensSealed clientKey

def beginning : Proxies
    (NoiseProxySession ClientHandshakeHandler (OrderedChannelEncryptor .transparent))
    (NoiseProxySession ServerHandshakeHandler (OrderedChannelEncryptor .transparent)) :=
  .start (justOpened _ serverKey clientKey) (justOpened _ clientKey serverKey)

/-- The client's application sends three bytes, and the network gives the
server's proxy an empty message. -/
def injection : List Action := [
  ⟨.client, steady, .chunk ⟨[1, 2, 3], by decide⟩⟩,
  ⟨.server, steady, .message (.ok (.binary []))⟩]

/-- Between just opened sessions, without a forged record, the server's proxy
ends its application's stream although nothing has arrived of what the client's
application has sent and has not closed. -/
theorem injected_end_truncates : JustOpened serverKey clientKey beginning.client.session ∧
      JustOpened clientKey serverKey beginning.server.session ∧
      Runs.Along (Proxies.step clientOps serverOps) (Proxies.Authentic toServer toClient)
        beginning injection ∧
      (injection.foldl (Proxies.step clientOps serverOps) beginning).server.shutDown = true ∧
      (injection.foldl (Proxies.step clientOps serverOps) beginning).server.written = [] ∧
      (injection.foldl (Proxies.step clientOps serverOps) beginning).client.chunks = [[1, 2, 3]] ∧
      (injection.foldl (Proxies.step clientOps serverOps) beginning).client.applicationDone =
        false := by
  refine ⟨justOpened_opened _ _ _, justOpened_opened _ _ _, ⟨?_, ?_, trivial⟩, ?_, ?_, ?_, ?_⟩
  · intro data read
    cases read
  · intro data read some
    cases read
    exact absurd rfl some
  · decide +kernel
  · decide +kernel
  · decide +kernel
  · decide +kernel

def firstFrame (chunk : Bytes) : Bytes :=
  tagged.encode (encryptedMessage (noiseRecord .transparent serverKey 0 chunk).record)

def delivery : List Action := [
  ⟨.client, steady, .chunk ⟨[7], by decide⟩⟩,
  ⟨.server, steady, .message (.ok (.binary (firstFrame [7])))⟩,
  ⟨.client, steady, .chunk ⟨[], by decide⟩⟩,
  ⟨.server, steady, .message (.ok (.binary []))⟩]

theorem chunk_allowed {σ τ : Type} {clientOps : ProxySession σ} {serverOps : ProxySession τ}
    (toServer : Channel clientOps serverOps) (toClient : Channel serverOps clientOps)
    (forServer forClient : List Bytes) (proxies : Proxies σ τ) (io : Io) (chunk : Chunk) :
    proxies.Authentic toServer toClient ⟨.client, io, .chunk chunk⟩ ∧
      proxies.InSequence toServer toClient forServer forClient ⟨.client, io, .chunk chunk⟩ := by
  refine ⟨?_, ?_⟩
  · intro data read
    cases read
  · intro read
    cases read

theorem delivery_allowed :
    Runs.Along (Proxies.step clientOps serverOps)
      (fun proxies action => proxies.Authentic toServer toClient action ∧
        proxies.InSequence toServer toClient [] [] action) beginning delivery := by
  refine ⟨chunk_allowed _ _ _ _ _ _ _, ⟨?_, ?_⟩, chunk_allowed _ _ _ _ _ _ _, ⟨?_, ?_⟩, trivial⟩
  · intro data read _
    cases read
    intro message decoded
    obtain rfl : message = ⟨_, none, none⟩ := by
      simpa [firstFrame, tagged, encryptedMessage] using decoded.symm
    exact Unopened.of_logged Transparent.nonceBound rfl
  · intro read
    cases read
  · intro data read some
    cases read
    exact absurd rfl some
  · intro _
    exact ⟨⟨[], rfl⟩, trivial⟩

/-- A connection that seals every byte into a record of its own, unencrypted. -/
def bytewise : Rustls Nat Bytes where
  framing := lengthPrefixed
  accept := fun opened record => (.ok record.tail, opened + 1)
  readSize := fun _ slice => .ok slice.length
  readEnd := fun _ => .error .wouldBlock
  isHandshaking := fun _ => false
  reply := fun _ outbound => ([], outbound)
  writerRoom := fun _ => .ok 1024
  sealFragments := fun outbound fragment =>
    (fragment.flatMap fun byte => [1, byte], outbound ++ fragment)
  writeSize := fun connection => .ok connection.sendable.length

def bytewiseLayer : RecordLayer bytewise where
  sealedBy := fun outbound => outbound.map fun byte => ⟨[1, byte], [byte]⟩
  opened := id
  sealFragments_sealed := by
    intro outbound plaintext
    refine ⟨plaintext.map fun byte => ⟨[1, byte], [byte]⟩, List.map_append, ?_, ?_⟩
    · simp [recordBytes, bytewise, List.flatMap_map]
    · simp [carried, List.flatMap_map]
  reply_sealed := fun _ _ => ⟨[], (List.append_nil _).symm, rfl, rfl⟩
  accept_opened := by
    intro state record plaintext next read
    simp only [bytewise, Prod.mk.injEq] at read
    exact read.2.symm

theorem bytewise_cuts : CutsRecords bytewiseLayer bytewise.framing := by
  intro outbound sealed member later
  obtain ⟨byte, _, rfl⟩ := List.mem_map.mp member
  simp [bytewise, lengthPrefixed]

def bytewiseSession : TlsProxySession Nat Bytes where
  session := ⟨{
    taken := []
    undecoded := []
    inbound := 0
    failure := none
    plaintext := []
    outbound := []
    sendable := [] }⟩
  plaintextBuffer := []
  outgoingBuffer := []

theorem bytewise_done :
    HandshakeDone bytewiseLayer bytewiseLayer [] [] bytewiseSession bytewiseSession :=
  ⟨rfl, rfl, fun _ member => absurd member List.not_mem_nil, rfl, rfl, rfl, rfl, rfl, rfl, rfl, rfl⟩

def bytewiseDelivery : List Action := [
  ⟨.client, steady, .chunk ⟨[7, 8], by decide⟩⟩,
  ⟨.server, steady, .message (.ok (.binary [1, 7, 1, 8]))⟩,
  ⟨.client, steady, .chunk ⟨[], by decide⟩⟩,
  ⟨.server, steady, .message (.ok (.binary []))⟩]

theorem bytewise_encrypt :
    bytewiseSession.session.encrypt bytewise [7, 8] = (.ok [1, 7, 1, 8],
      ⟨{ bytewiseSession.session.connection with outbound := [7, 8] }⟩) := by
  unfold OakSessionTls.encrypt
  rw [OakSessionTls.encryptRounds_progress (by decide) rfl rfl (by decide)]
  exact OakSessionTls.encryptRounds_nil rfl _

def bytewiseSent : Proxies (TlsProxySession Nat Bytes) (TlsProxySession Nat Bytes) where
  client := { ProxyTask.start { bytewiseSession with
      session := ⟨{ bytewiseSession.session.connection with outbound := [7, 8] }⟩ } with
    chunks := [[7, 8]]
    sent := [.binary [1, 7, 1, 8]] }
  server := ProxyTask.start bytewiseSession

theorem bytewise_sent :
    Proxies.step (.tls bytewise) (.tls bytewise) (Proxies.start bytewiseSession bytewiseSession)
      ⟨.client, steady, .chunk ⟨[7, 8], by decide⟩⟩ = bytewiseSent := by
  simp only [Proxies.step, Proxies.start, ProxyTask.step, ProxyTask.start, ProxyTask.handle,
    ProxyTask.handleChunk, ProxyTask.sealChunk, ProxySession.tls, TlsProxySession.putPlaintext,
    bytewise_encrypt]
  rfl

theorem bytewise_allowed :
    Runs.Along (Proxies.step (.tls bytewise) (.tls bytewise))
      (fun proxies action =>
        proxies.Authentic (.tls bytewiseLayer bytewiseLayer bytewise_cuts [])
          (.tls bytewiseLayer bytewiseLayer bytewise_cuts []) action ∧
        proxies.InSequence (.tls bytewiseLayer bytewiseLayer bytewise_cuts [])
          (.tls bytewiseLayer bytewiseLayer bytewise_cuts []) [] [] action)
      (Proxies.start bytewiseSession bytewiseSession) bytewiseDelivery := by
  refine ⟨chunk_allowed _ _ _ _ _ _ _, ?_⟩
  rw [bytewise_sent]
  refine ⟨⟨?_, ?_⟩, chunk_allowed _ _ _ _ _ _ _, ⟨?_, ?_⟩, trivial⟩
  · intro data read _
    cases read
    intro plaintext next opened
    cases opened
    refine ⟨rfl, ?_⟩
    intro plaintext next opened
    cases opened
    exact ⟨rfl, trivial⟩
  · intro read
    cases read
  · intro data read some
    cases read
    exact absurd rfl some
  · intro _
    exact ⟨⟨[], rfl⟩, rfl⟩

theorem delivered_streams_end :
    (delivery.foldl (Proxies.step clientOps serverOps) beginning).server.written = [7] ∧
      (bytewiseDelivery.foldl (Proxies.step (.tls bytewise) (.tls bytewise))
        (Proxies.start bytewiseSession bytewiseSession)).server.written = [7, 8] := by
  have both := streams_safe Primitives.transparent Transparent.opensSealed (Block.zero 32)
    (Block.zero 32) tagged tagged
  have noise := (both.1 serverKey clientKey _ _ (justOpened_opened _ _ _)
    (justOpened_opened _ _ _) delivery).2
  have tls := (both.2 bytewiseLayer bytewiseLayer bytewise_cuts bytewise_cuts [] [] [] []
    bytewiseSession bytewiseSession bytewise_done bytewise_done bytewiseDelivery).2
  refine ⟨?_, ?_⟩
  · exact ((noise delivery_allowed).1 (by decide +kernel)).2
  · have ended := (tls bytewise_allowed).1
    rw [bytewiseDelivery, List.foldl_cons, bytewise_sent] at ended ⊢
    exact (ended rfl).2

end Instances

end Oak.Proxy.EndOfStream

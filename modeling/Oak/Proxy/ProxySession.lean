import Oak.Session.Transitions
import Oak.Tls.Session

namespace Oak.Proxy

open Oak.Data Oak.Crypto Oak.Session Oak.Tls

/-! The sessions that a proxy can run over. -/

/-- The `ProxySession` trait.  A proxy asks for plaintexts and for outgoing
frames until there is none; what is left of each decreases. -/
structure ProxySession (σ : Type) where
  putIncoming : σ → Bytes → Outcome AnyError Unit × σ
  getPlaintext : σ → Outcome AnyError (Option Bytes) × σ
  putPlaintext : σ → Bytes → Outcome AnyError Unit × σ
  getOutgoing : σ → Outcome AnyError (Option Bytes) × σ
  plaintextsLeft : σ → Nat
  outgoingLeft : σ → Nat
  getPlaintext_fewer : ∀ {session plaintext next},
    getPlaintext session = (.ok (some plaintext), next) →
    plaintextsLeft next < plaintextsLeft session
  getOutgoing_fewer : ∀ {session frame next}, getOutgoing session = (.ok (some frame), next) →
    outgoingLeft next < outgoingLeft session

/-- The encoding of a message type.  A message whose content is set does not
encode to nothing. -/
structure Codec where
  encode : SessionMessage → Bytes
  decode : Bytes → Except AnyError SessionMessage
  encode_ne_nil : ∀ content, encode ⟨some content⟩ ≠ []

section Open

variable {η ε : Type} {session : Endpoint η ε}

section

variable (isOpen : session.step.IsOpen)

include isOpen

theorem eq_opened :
    ∃ encryptor attestationState handshakeState outgoing incoming,
      session = ⟨.opened encryptor attestationState handshakeState, outgoing, incoming⟩ := by
  obtain ⟨step, outgoing, incoming⟩ := session
  cases step with
  | opened encryptor attestationState handshakeState => exact ⟨_, _, _, _, _, rfl⟩
  | attestation | handshake | error | invalid => exact isOpen.elim

theorem isOpen_write [Encryptor ε] (plaintext : PlaintextMessage) :
    (session.write plaintext).2.step.IsOpen :=
  Endpoint.write_kept id isOpen plaintext

theorem isOpen_readFrom [Encryptor ε] (name : String) : (session.readFrom name).2.step.IsOpen :=
  Endpoint.readFrom_kept id isOpen name

theorem isOpen_pushIncoming (message : SessionMessage) :
    (session.pushIncoming message).2.step.IsOpen := by
  rwa [Endpoint.pushIncoming_step]

theorem readFrom_fewer [Encryptor ε] {name : String}
    {plaintext : PlaintextMessage} (found : (session.readFrom name).1 = .ok (some plaintext)) :
    (session.readFrom name).2.incoming.length < session.incoming.length := by
  obtain ⟨encryptor, attestationState, handshakeState, outgoing, incoming, rfl⟩ := eq_opened isOpen
  simp only [Endpoint.readFrom] at found ⊢
  split at found
  · simp at found
  · split at found
    · simp at found
    · exact Nat.lt_succ_self _
  · simp [Outcome.err] at found

end

end Open

/-- `ProtocolEngine` and `Session` of an endpoint, with what they do once the
session is open. -/
structure Engine (η ε : Type) [Encryptor ε] where
  putIncomingMessage : Endpoint η ε → SessionMessage →
    Outcome AnyError (Option Unit) × Endpoint η ε
  getOutgoingMessage : Endpoint η ε → Outcome AnyError (Option SessionMessage) × Endpoint η ε
  inputName : String
  put_encrypted : ∀ {session} (message : EncryptedMessage), session.step.IsOpen →
    putIncomingMessage session ⟨some (.encrypted message)⟩ =
      session.pushIncoming ⟨some (.encrypted message)⟩
  put_other : ∀ {session message}, session.step.IsOpen →
    (∀ encrypted, message ≠ ⟨some (.encrypted encrypted)⟩) →
    ∃ reason, putIncomingMessage session message = (.err reason, session)
  get_open : ∀ {session}, session.step.IsOpen →
    getOutgoingMessage session = session.popOutgoing

def Engine.client {ε : Type} [Encryptor ε] (crypto : Primitives) (random : Block 32) :
    Engine ClientHandshakeHandler ε where
  putIncomingMessage := fun session message =>
    ClientSession.putIncomingMessage crypto session message random
  getOutgoingMessage := fun session => ClientSession.getOutgoingMessage crypto session random
  inputName := "SessionResponse"
  put_encrypted := by
    intro session message isOpen
    obtain ⟨_, _, _, _, _, rfl⟩ := eq_opened isOpen
    rfl
  put_other := by
    intro session message isOpen other
    obtain ⟨_, _, _, _, _, rfl⟩ := eq_opened isOpen
    rcases message with ⟨_ | (_ | _ | encrypted)⟩
    · exact ⟨_, rfl⟩
    · exact ⟨_, rfl⟩
    · exact ⟨_, rfl⟩
    · exact absurd rfl (other encrypted)
  get_open := by
    intro session isOpen
    obtain ⟨_, _, _, _, _, rfl⟩ := eq_opened isOpen
    rfl

def Engine.server {ε : Type} [Encryptor ε] (crypto : Primitives) (random : Block 32) :
    Engine ServerHandshakeHandler ε where
  putIncomingMessage := fun session message =>
    ServerSession.putIncomingMessage crypto session message random
  getOutgoingMessage := fun session => ServerSession.getOutgoingMessage crypto session random
  inputName := "SessionRequest"
  put_encrypted := by
    intro session message isOpen
    obtain ⟨_, _, _, _, _, rfl⟩ := eq_opened isOpen
    rfl
  put_other := by
    intro session message isOpen other
    obtain ⟨_, _, _, _, _, rfl⟩ := eq_opened isOpen
    rcases message with ⟨_ | (_ | _ | encrypted)⟩
    · exact ⟨_, rfl⟩
    · exact ⟨_, rfl⟩
    · exact ⟨_, rfl⟩
    · exact absurd rfl (other encrypted)
  get_open := by
    intro session isOpen
    obtain ⟨_, _, _, _, _, rfl⟩ := eq_opened isOpen
    rfl

/-- `NoiseProxySession`: a proxy is given an open session. -/
structure NoiseProxySession (η ε : Type) where
  session : Endpoint η ε
  isOpen : session.step.IsOpen

namespace NoiseProxySession

variable {η ε : Type} [Encryptor ε] (engine : Engine η ε)

theorem isOpen_put (proxy : NoiseProxySession η ε) (message : SessionMessage) :
    (engine.putIncomingMessage proxy.session message).2.step.IsOpen := by
  by_cases encrypted : ∃ payload, message = ⟨some (.encrypted payload)⟩
  · obtain ⟨payload, rfl⟩ := encrypted
    rw [engine.put_encrypted payload proxy.isOpen]
    exact isOpen_pushIncoming proxy.isOpen _
  · obtain ⟨reason, refused⟩ := engine.put_other proxy.isOpen fun payload same =>
      encrypted ⟨payload, same⟩
    rw [refused]
    exact proxy.isOpen

theorem isOpen_get (proxy : NoiseProxySession η ε) :
    (engine.getOutgoingMessage proxy.session).2.step.IsOpen := by
  rw [engine.get_open proxy.isOpen]
  exact proxy.isOpen

def putIncoming (input : Codec) (proxy : NoiseProxySession η ε) (data : Bytes) :
    Outcome AnyError Unit × NoiseProxySession η ε :=
  match input.decode data with
  | .error reason => (.err reason, proxy)
  | .ok message =>
    let result := engine.putIncomingMessage proxy.session message
    (result.1.map fun _ => (), ⟨result.2, proxy.isOpen_put engine message⟩)

def getPlaintext (proxy : NoiseProxySession η ε) :
    Outcome AnyError (Option Bytes) × NoiseProxySession η ε :=
  let result := proxy.session.readFrom engine.inputName
  (result.1.map (Option.map PlaintextMessage.plaintext),
    ⟨result.2, isOpen_readFrom proxy.isOpen engine.inputName⟩)

def putPlaintext (proxy : NoiseProxySession η ε) (data : Bytes) :
    Outcome AnyError Unit × NoiseProxySession η ε :=
  let result := proxy.session.write { plaintext := data }
  (result.1, ⟨result.2, isOpen_write proxy.isOpen { plaintext := data }⟩)

def getOutgoing (output : Codec) (proxy : NoiseProxySession η ε) :
    Outcome AnyError (Option Bytes) × NoiseProxySession η ε :=
  let result := engine.getOutgoingMessage proxy.session
  (result.1.map (Option.map output.encode), ⟨result.2, proxy.isOpen_get engine⟩)

end NoiseProxySession

/-- A proxy over a Noise session.  `input` is the encoding of what the session
receives, `output` that of what it sends. -/
def ProxySession.noise {η ε : Type} [Encryptor ε] (engine : Engine η ε) (input output : Codec) :
    ProxySession (NoiseProxySession η ε) where
  putIncoming := NoiseProxySession.putIncoming engine input
  getPlaintext := NoiseProxySession.getPlaintext engine
  putPlaintext := NoiseProxySession.putPlaintext
  getOutgoing := NoiseProxySession.getOutgoing engine output
  plaintextsLeft := fun proxy => proxy.session.incoming.length
  outgoingLeft := fun proxy => proxy.session.outgoing.length
  getPlaintext_fewer := by
    intro proxy plaintext next found
    simp only [NoiseProxySession.getPlaintext, Prod.mk.injEq] at found
    obtain ⟨result, rfl⟩ := found
    obtain ⟨answer, read, mapped⟩ := except_map_eq_ok.mp result
    obtain ⟨message, rfl, -⟩ := Option.map_eq_some_iff.mp mapped
    exact readFrom_fewer proxy.isOpen read
  getOutgoing_fewer := by
    intro proxy frame next found
    simp only [NoiseProxySession.getOutgoing, engine.get_open proxy.isOpen,
      Endpoint.popOutgoing, Prod.mk.injEq] at found
    obtain ⟨result, rfl⟩ := found
    show proxy.session.outgoing.tail.length < proxy.session.outgoing.length
    cases waiting : proxy.session.outgoing with
    | nil => simp [waiting, Except.map] at result
    | cons message rest => simp

/-- `TlsProxySession`. -/
structure TlsProxySession (κ ω : Type) where
  session : OakSessionTls κ ω
  plaintextBuffer : List Bytes
  outgoingBuffer : List Bytes
deriving DecidableEq, Repr

namespace TlsProxySession

variable {κ ω : Type} (rustls : Rustls κ ω)

def putIncoming (proxy : TlsProxySession κ ω) (data : Bytes) :
    Outcome AnyError Unit × TlsProxySession κ ω :=
  match proxy.session.decrypt rustls data with
  | (.error error, session) => (.err error.display, { proxy with session })
  | (.ok plaintext, session) =>
    (.ok (), { proxy with
      session
      plaintextBuffer := proxy.plaintextBuffer ++
        if plaintext.isEmpty then [] else [plaintext] })

def getPlaintext (proxy : TlsProxySession κ ω) :
    Outcome AnyError (Option Bytes) × TlsProxySession κ ω :=
  (.ok proxy.plaintextBuffer.head?,
    { proxy with plaintextBuffer := proxy.plaintextBuffer.tail })

def putPlaintext (proxy : TlsProxySession κ ω) (data : Bytes) :
    Outcome AnyError Unit × TlsProxySession κ ω :=
  match proxy.session.encrypt rustls data with
  | (.error error, session) => (.err error.display, { proxy with session })
  | (.ok encrypted, session) =>
    (.ok (), { proxy with
      session
      outgoingBuffer := proxy.outgoingBuffer ++
        if encrypted.isEmpty then [] else [encrypted] })

def getOutgoing (proxy : TlsProxySession κ ω) :
    Outcome AnyError (Option Bytes) × TlsProxySession κ ω :=
  (.ok proxy.outgoingBuffer.head?, { proxy with outgoingBuffer := proxy.outgoingBuffer.tail })

end TlsProxySession

def ProxySession.tls {κ ω : Type} (rustls : Rustls κ ω) : ProxySession (TlsProxySession κ ω) where
  putIncoming := TlsProxySession.putIncoming rustls
  getPlaintext := TlsProxySession.getPlaintext
  putPlaintext := TlsProxySession.putPlaintext rustls
  getOutgoing := TlsProxySession.getOutgoing
  plaintextsLeft := fun proxy => proxy.plaintextBuffer.length
  outgoingLeft := fun proxy => proxy.outgoingBuffer.length
  getPlaintext_fewer := by
    intro proxy plaintext next found
    simp only [TlsProxySession.getPlaintext, Prod.mk.injEq, Except.ok.injEq] at found
    obtain ⟨first, rfl⟩ := found
    cases waiting : proxy.plaintextBuffer with
    | nil => simp [waiting] at first
    | cons message rest => simp
  getOutgoing_fewer := by
    intro proxy frame next found
    simp only [TlsProxySession.getOutgoing, Prod.mk.injEq, Except.ok.injEq] at found
    obtain ⟨first, rfl⟩ := found
    cases waiting : proxy.outgoingBuffer with
    | nil => simp [waiting] at first
    | cons message rest => simp

end Oak.Proxy

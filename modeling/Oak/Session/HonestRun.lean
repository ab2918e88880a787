import Oak.Data.Interleaving
import Oak.Session.HonestCalls
import Oak.Session.TransparentConfig

namespace Oak.Session.HonestRun

open Oak.Data Oak.Crypto
open Oak.Data.Interleaving
open Oak.Crypto.HandshakeAgreement (KeyPair EphemeralKeyPair transparentPair)
open Oak.Session.HonestPeer Oak.Session.HonestCalls

/-! An honest client and an honest server that drive their sessions.

The client makes the first call.  After every message it puts into its session
a party fetches outgoing messages until there is none, then it waits for the
next message.  The parties run concurrently and their messages arrive in
order. -/

inductive Mode where
  | starting
  | draining
  | waiting
deriving DecidableEq, Repr

structure Party (η ε : Type) where
  session : Endpoint η ε
  mode : Mode
  answers : List Answer

def outgoingOf : Answer → Option SessionMessage
  | .got (.ok message) => message
  | _ => none

def Mode.afterFetch (mode : Mode) (answer : Answer) : Mode :=
  match mode, outgoingOf answer with
  | .draining, some _ => .draining
  | _, _ => .waiting

def Party.act {η ε : Type} (call : Endpoint η ε → Call → Answer × Endpoint η ε)
    (random : Nat → Block 32) (party : Party η ε) (mailbox : List SessionMessage) :
    Option (Local (Party η ε) SessionMessage) :=
  match party.mode with
  | .waiting =>
    match mailbox with
    | [] => none
    | message :: rest =>
      let (answer, session) := call party.session
        (.putIncomingMessage message (random party.answers.length))
      some {
        state := { session, mode := .draining, answers := party.answers ++ [answer] }
        mailbox := rest
        sent := [] }
  | mode =>
    let (answer, session) := call party.session
      (.getOutgoingMessage (random party.answers.length))
    some {
      state := { session, mode := mode.afterFetch answer, answers := party.answers ++ [answer] }
      mailbox
      sent := (outgoingOf answer).toList }

theorem act_readsFront {η ε : Type} (call : Endpoint η ε → Call → Answer × Endpoint η ε)
    (random : Nat → Block 32) : ReadsFront (Party.act call random) := by
  intro party mailbox taken later acted
  unfold Party.act at acted ⊢
  cases mode : party.mode with
  | waiting =>
    rw [mode] at acted
    cases mailbox with
    | nil => simp at acted
    | cons message rest =>
      cases acted
      rfl
  | starting | draining =>
    rw [mode] at acted
    cases acted
    rfl

section Party

variable {η ε : Type} {call : Endpoint η ε → Call → Answer × Endpoint η ε}
  {random : Nat → Block 32} {session next : Endpoint η ε} {answers : List Answer}
  {mailbox : List SessionMessage} {message : SessionMessage}

theorem act_first (answered : call session (.getOutgoingMessage (random answers.length)) =
      (.got (.ok (some message)), next)) :
    Party.act call random ⟨session, .starting, answers⟩ mailbox =
      some ⟨⟨next, .waiting, answers ++ [.got (.ok (some message))]⟩, mailbox, [message]⟩ := by
  simp [Party.act, answered, Mode.afterFetch, outgoingOf]

theorem act_fetch (answered : call session (.getOutgoingMessage (random answers.length)) =
      (.got (.ok (some message)), next)) :
    Party.act call random ⟨session, .draining, answers⟩ mailbox =
      some ⟨⟨next, .draining, answers ++ [.got (.ok (some message))]⟩, mailbox, [message]⟩ := by
  simp [Party.act, answered, Mode.afterFetch, outgoingOf]

theorem act_drained (answered : call session (.getOutgoingMessage (random answers.length)) =
      (.got (.ok none), next)) : Party.act call random ⟨session, .draining, answers⟩ mailbox =
      some ⟨⟨next, .waiting, answers ++ [.got (.ok none)]⟩, mailbox, []⟩ := by
  simp [Party.act, answered, Mode.afterFetch, outgoingOf]

theorem act_receive {answer : Answer}
    (answered : call session (.putIncomingMessage message (random answers.length)) =
      (answer, next)) : Party.act call random ⟨session, .waiting, answers⟩ (message :: mailbox) =
      some ⟨⟨next, .draining, answers ++ [answer]⟩, mailbox, []⟩ := by
  simp [Party.act, answered]

end Party

section Runs

variable {ε δ : Type} [Encryptor ε] [Encryptor δ]

abbrev Run (ε δ : Type) :=
  Pair (Party ClientHandshakeHandler ε) (Party ServerHandshakeHandler δ) SessionMessage

def step (crypto : Primitives) (clientEphemeral serverEphemeral : Nat → EphemeralKeyPair crypto)
    (side : Side) (run : Run ε δ) : Option (Run ε δ) :=
  Pair.step
    (Party.act (ClientSession.call crypto) fun count => (clientEphemeral count).random)
    (Party.act (ServerSession.call crypto) fun count => (serverEphemeral count).random)
    side run

section Moves

variable {crypto : Primitives} {clientEphemeral serverEphemeral : Nat → EphemeralKeyPair crypto}
  {run : Run ε δ}

theorem client_moves {taken : Local (Party ClientHandshakeHandler ε) SessionMessage}
    (acted : Party.act (ClientSession.call crypto) (fun count => (clientEphemeral count).random)
      run.client run.toClient = some taken) :
    step crypto clientEphemeral serverEphemeral .client run = some {
      client := taken.state
      server := run.server
      toClient := taken.mailbox
      toServer := run.toServer ++ taken.sent } := by
  simp [step, Pair.step, acted]

theorem server_moves {taken : Local (Party ServerHandshakeHandler δ) SessionMessage}
    (acted : Party.act (ServerSession.call crypto) (fun count => (serverEphemeral count).random)
      run.server run.toServer = some taken) :
    step crypto clientEphemeral serverEphemeral .server run = some {
      client := run.client
      server := taken.state
      toClient := run.toClient ++ taken.sent
      toServer := taken.mailbox } := by
  simp [step, Pair.step, acted]

end Moves

theorem quiescent_of_waiting {crypto : Primitives}
    {clientEphemeral serverEphemeral : Nat → EphemeralKeyPair crypto} {run : Run ε δ}
    (clientWaits : run.client.mode = .waiting) (serverWaits : run.server.mode = .waiting)
    (noneToClient : run.toClient = []) (noneToServer : run.toServer = []) :
    Quiescent (step crypto clientEphemeral serverEphemeral) run := by
  intro side
  cases side with
  | client => simp [step, Pair.step, Party.act, clientWaits, noneToClient]
  | server => simp [step, Pair.step, Party.act, serverWaits, noneToServer]

theorem answers_grow {η ε : Type} {call : Endpoint η ε → Call → Answer × Endpoint η ε}
    {random : Nat → Block 32} {party : Party η ε} {mailbox : List SessionMessage}
    {taken : Local (Party η ε) SessionMessage}
    (acted : Party.act call random party mailbox = some taken) :
    ∃ answer, taken.state.answers = party.answers ++ [answer] := by
  unfold Party.act at acted
  cases mode : party.mode with
  | waiting =>
    rw [mode] at acted
    cases mailbox with
    | nil => simp at acted
    | cons message rest =>
      cases acted
      exact ⟨_, rfl⟩
  | starting | draining =>
    rw [mode] at acted
    cases acted
    exact ⟨_, rfl⟩

def start (client : ClientSession ε) (server : ServerSession δ) : Run ε δ where
  client := { session := client, mode := .starting, answers := [] }
  server := { session := server, mode := .waiting, answers := [] }
  toClient := []
  toServer := []

/-- No call has failed. -/
def AllOk (run : Run ε δ) : Prop :=
  ∀ answer ∈ run.client.answers ++ run.server.answers, answer.IsOk

instance (run : Run ε δ) : Decidable (AllOk run) :=
  inferInstanceAs (Decidable (∀ answer ∈ run.client.answers ++ run.server.answers, answer.IsOk))

theorem allOk_before {crypto : Primitives}
    {clientEphemeral serverEphemeral : Nat → EphemeralKeyPair crypto} {side : Side}
    {run next : Run ε δ} (moved : step crypto clientEphemeral serverEphemeral side run = some next)
    (allOk : AllOk next) : AllOk run := by
  intro answer member
  apply allOk
  rw [List.mem_append] at member ⊢
  cases side with
  | client =>
    simp only [step, Pair.step, Option.map_eq_some_iff] at moved
    obtain ⟨taken, acted, rfl⟩ := moved
    obtain ⟨last, grown⟩ := answers_grow acted
    rw [grown, List.mem_append]
    exact member.imp_left .inl
  | server =>
    simp only [step, Pair.step, Option.map_eq_some_iff] at moved
    obtain ⟨taken, acted, rfl⟩ := moved
    obtain ⟨last, grown⟩ := answers_grow acted
    rw [grown, List.mem_append]
    exact member.imp_right .inl

/-- A handshake message without a Noise part carries bindings only. -/
def isFollowup (answer : Answer) : Bool :=
  match outgoingOf answer with
  | some ⟨some (.handshake message)⟩ => message.handshakeType.isNone
  | _ => false

end Runs

section Agreement

variable {ε δ : Type} {crypto : Primitives}

/-- An honest pair of configurations: the handshake type and the static keys
match, each side binds what it attests to, and each side accepts the other's
evidence, assertions and bindings. -/
structure Honest (crypto : Primitives) (clientConfig : SessionConfig ε)
    (serverConfig : SessionConfig δ) (clientAttester serverAttester : AttestationHandler) :
    Prop where
  clientCreated : AttestationHandler.create clientConfig.attestationHandlerConfig =
    .ok clientAttester
  serverCreated : AttestationHandler.create serverConfig.attestationHandlerConfig =
    .ok serverAttester
  clientBinders : clientConfig.handshakeHandlerConfig.sessionBinders.keys =
    clientConfig.attestationHandlerConfig.selfAttesters.keys
  serverBinders : serverConfig.handshakeHandlerConfig.sessionBinders.keys =
    serverConfig.attestationHandlerConfig.selfAttesters.keys
  matching : ∃ clientStatic serverStatic : KeyPair crypto, MatchingKeys clientStatic serverStatic
    clientConfig.handshakeHandlerConfig serverConfig.handshakeHandlerConfig
  serverAccepts : ∀ message, clientAttester.attestMessage = some message →
    Accepts serverConfig.attestationHandlerConfig message clientAttester.bindableAssertions
      clientConfig.handshakeHandlerConfig.sessionBinders
  clientAccepts : ∀ message, serverAttester.attestMessage = some message →
    Accepts clientConfig.attestationHandlerConfig message serverAttester.bindableAssertions
      serverConfig.handshakeHandlerConfig.sessionBinders
  clientBinds : ∀ id bindable boundData,
    clientAttester.bindableAssertions.get? id = some bindable →
    ∃ binding, bindable.bind boundData = .ok binding
  serverBinds : ∀ id bindable boundData,
    serverAttester.bindableAssertions.get? id = some bindable →
    ∃ binding, bindable.bind boundData = .ok binding

/-- What the sessions can handle: a handshake type that is implemented, attest
messages below the size limit and encryptors that can be built. -/
structure Supported (clientConfig : SessionConfig ε) (serverConfig : SessionConfig δ)
    (clientAttester serverAttester : AttestationHandler) : Prop where
  handshakeType : clientConfig.handshakeHandlerConfig.handshakeType ≠ .noiseKN
  clientSmall : ∀ message, clientAttester.attestMessage = some message →
    message.encodedLen < defaultMaxAttestationSize
  serverSmall : ∀ message, serverAttester.attestMessage = some message →
    message.encodedLen < defaultMaxAttestationSize
  clientEncrypts : ∀ crypter, ∃ encryptor, clientConfig.provideEncryptor crypter = .ok encryptor
  serverEncrypts : ∀ crypter, ∃ encryptor, serverConfig.provideEncryptor crypter = .ok encryptor

/-- Both sessions are open with the same token and the same handshake hash, and
the client has sent one follow-up message if the server expected one. -/
def Agreement (run : Run ε δ) : Prop :=
  ∃ clientEncryptor clientAttestation clientHandshake
    serverEncryptor serverAttestation serverHandshake,
    run.client.session.step = .opened clientEncryptor clientAttestation clientHandshake ∧
    run.server.session.step = .opened serverEncryptor serverAttestation serverHandshake ∧
    clientAttestation.attestationBindingToken = serverAttestation.attestationBindingToken ∧
    clientHandshake.handshakeBindingToken = serverHandshake.handshakeBindingToken ∧
    (run.client.answers.filter isFollowup).length =
      if serverAttestation.peerAttestationVerdict.needsSessionBindings then 1 else 0

structure Exchange (crypto : Primitives) (client server : HandshakeHandlerConfig)
    (clientEphemeral serverEphemeral : EphemeralKeyPair crypto) where
  clientAttester : AttestationHandler
  serverAttester : AttestationHandler
  clientMessage : AttestMessage
  serverMessage : AttestMessage
  clientVerifiers : BTreeMap String SessionBindingVerifier
  serverVerifiers : BTreeMap String SessionBindingVerifier
  handshakeInitiator : HandshakeInitiator
  finished : HandshakeInitiator
  message : NoiseMessage
  response : Response
  keys : HandshakeKeys
  clientBindings : BTreeMap String SessionBinding
  serverBindings : BTreeMap String SessionBinding
  clientOffers : clientAttester.attestMessage = some clientMessage
  serverOffers : serverAttester.attestMessage = some serverMessage
  clientUnjudged : clientAttester.attestationResult = none
  serverUnjudged : serverAttester.attestationResult = none
  clientFresh : clientAttester.attestationBindingToken = []
  serverFresh : serverAttester.attestationBindingToken = []
  clientAssertions : clientMessage.assertions =
    AttestationHandler.assertionsOf clientAttester.bindableAssertions
  serverAssertions : serverMessage.assertions =
    AttestationHandler.assertionsOf serverAttester.bindableAssertions
  clientIds : clientMessage.endorsedEvidence.keys = client.sessionBinders.keys
  serverIds : serverMessage.endorsedEvidence.keys = server.sessionBinders.keys
  clientAccepts : Accepts clientAttester.config serverMessage serverAttester.bindableAssertions
    server.sessionBinders
  serverAccepts : Accepts serverAttester.config clientMessage clientAttester.bindableAssertions
    client.sessionBinders
  clientSmall : clientMessage.encodedLen < defaultMaxAttestationSize
  serverSmall : serverMessage.encodedLen < defaultMaxAttestationSize
  clientCollected : (legacyResultsOf clientAttester.config serverMessage).filterMapM
    (AttestationHandler.bindingVerifierFor clientAttester.config.peerVerifiers) =
      .ok clientVerifiers
  serverCollected : (legacyResultsOf serverAttester.config clientMessage).filterMapM
    (AttestationHandler.bindingVerifierFor serverAttester.config.peerVerifiers) =
      .ok serverVerifiers
  created : ∀ attestationState,
    ClientHandshakeHandler.create crypto client attestationState clientEphemeral.random = .ok {
      handshakeInitiator
      sessionBinders := client.sessionBinders
      attestationState
      initialMessage := some {
        handshakeType := some (.ofNoise message)
        attestationBindings := .empty
        assertionBindings := .empty }
      followupMessage := none
      handshakeResult := none }
  responded : ∀ clientBindingExpected attestationState,
    (ServerHandshakeHandler.new server clientBindingExpected attestationState).respond crypto
      message serverEphemeral.random = .ok response
  processed : handshakeInitiator.processResponse crypto response.response = (.ok keys, finished)
  sameHash : keys.handshakeHash = response.handshakeHash
  clientBound : bindAssertions crypto
    (stateOf (judged (fetched clientAttester) serverMessage) serverMessage clientVerifiers)
    keys.handshakeHash.toList = .ok clientBindings
  serverBound : bindAssertions crypto
    (stateOf (fetched (judged serverAttester clientMessage)) clientMessage serverVerifiers)
    response.handshakeHash.toList = .ok serverBindings

namespace Exchange

variable {client server : HandshakeHandlerConfig}
  {clientEphemeral serverEphemeral : Nat → EphemeralKeyPair crypto}
  (exchange : Exchange crypto client server (clientEphemeral 1) (serverEphemeral 3))

def clientState : AttestationState :=
  stateOf (judged (fetched exchange.clientAttester) exchange.serverMessage) exchange.serverMessage
    exchange.clientVerifiers

def serverState : AttestationState :=
  stateOf (fetched (judged exchange.serverAttester exchange.clientMessage)) exchange.clientMessage
    exchange.serverVerifiers

/-- The client's handshaker after its first message was fetched. -/
def clientHandshaker : ClientHandshakeHandler where
  handshakeInitiator := exchange.handshakeInitiator
  sessionBinders := client.sessionBinders
  attestationState := exchange.clientState
  initialMessage := none
  followupMessage := none
  handshakeResult := none

def serverHandshaker : ServerHandshakeHandler :=
  .new server (passed exchange.serverAttester.config exchange.clientMessage).needsSessionBindings
    exchange.serverState

/-- The run when the server has answered the client's first handshake message
and is about to fetch the answer. -/
def afterRequest (provideClient : OrderedCrypter → Outcome AnyError ε)
    (provideServer : OrderedCrypter → Outcome AnyError δ) : Run ε δ where
  client := {
    session := ⟨.handshake exchange.clientHandshaker provideClient, [], []⟩
    mode := .waiting
    answers := [.got (.ok (some ⟨some (.attest exchange.clientMessage)⟩)), .put (.ok (some ())),
      .got (.ok (some ⟨some (.handshake {
        handshakeType := some (.ofNoise exchange.message)
        attestationBindings := .empty
        assertionBindings := .empty })⟩)), .got (.ok none)] }
  server := {
    session := ⟨.handshake (answered exchange.serverHandshaker exchange.response
      exchange.serverBindings) provideServer, [], []⟩
    mode := .draining
    answers := [.put (.ok (some ())), .got (.ok (some ⟨some (.attest exchange.serverMessage)⟩)),
      .got (.ok none), .put (.ok (some ()))] }
  toClient := []
  toServer := []

theorem sameToken : exchange.clientState.attestationBindingToken =
    exchange.serverState.attestationBindingToken := by
  simp [clientState, serverState, stateOf, judged, fetched, AttestationHandler.getOutgoingMessage,
    exchange.clientFresh, exchange.serverFresh, exchange.clientAssertions,
    exchange.serverAssertions]

theorem hasBindings_eq : exchange.clientHandshaker.hasBindings =
    exchange.serverHandshaker.clientBindingExpected := by
  have evidence := BTreeMap.isEmpty_of_keys exchange.clientIds
  have assertions : exchange.clientMessage.assertions.isEmpty =
      exchange.clientAttester.bindableAssertions.isEmpty := by
    rw [exchange.clientAssertions]
    exact BTreeMap.isEmpty_of_keys (BTreeMap.keys_mapValues _ _)
  have expected : exchange.serverHandshaker.clientBindingExpected =
      (!exchange.clientMessage.assertions.isEmpty ||
        !exchange.clientMessage.endorsedEvidence.isEmpty) :=
    needsSessionBindings_passed _ _
  rw [expected, evidence, assertions, Bool.or_comm]
  rfl

def serverResponse : HandshakeResponse :=
  responseOf exchange.serverHandshaker exchange.response exchange.serverBindings

def followup : HandshakeRequest where
  handshakeType := none
  attestationBindings := bindSession client.sessionBinders exchange.keys.handshakeHash.toList
  assertionBindings := exchange.clientBindings

variable {provideClient : OrderedCrypter → Outcome AnyError ε}

theorem clientOpens {encryptor : ε}
    (provided : provideClient exchange.keys.crypter = .ok encryptor) :
    Opens crypto provideClient exchange.clientState
      (responseResult exchange.keys exchange.serverResponse) encryptor where
  sessionBound := by
    have bound := verifySessionBinding_bindSession exchange.clientAccepts
      exchange.clientCollected (fun _ => BTreeMap.get?_ne_none_of_keys exchange.serverIds)
      exchange.response.handshakeHash.toList
    simp only [responseResult, exchange.sameHash]
    exact bound
  assertionsBound := by
    have bound := verifyAssertionSessionBinding_bindAssertions exchange.clientAccepts
      exchange.serverAssertions rfl exchange.serverBound
    rw [exchange.sameToken]
    simp only [responseResult, exchange.sameHash]
    exact bound
  provided := provided

variable {provideServer : OrderedCrypter → Outcome AnyError δ}

theorem serverOpens {encryptor : δ}
    (provided : provideServer exchange.response.crypter = .ok encryptor) :
    Opens crypto provideServer exchange.serverState
      (ServerHandshakeHandler.resultOf exchange.response exchange.followup.attestationBindings
        exchange.followup.assertionBindings) encryptor where
  sessionBound := by
    have bound := verifySessionBinding_bindSession exchange.serverAccepts
      exchange.serverCollected (fun _ => BTreeMap.get?_ne_none_of_keys exchange.clientIds)
      exchange.keys.handshakeHash.toList
    rw [exchange.sameHash] at bound
    simp only [followup, exchange.sameHash]
    exact bound
  assertionsBound := by
    have bound := verifyAssertionSessionBinding_bindAssertions exchange.serverAccepts
      exchange.clientAssertions rfl exchange.clientBound
    rw [exchange.sameHash] at bound
    rw [← exchange.sameToken]
    exact bound
  provided := provided

theorem followup_empty (silent : exchange.clientHandshaker.hasBindings = false) :
    exchange.followup.attestationBindings = .empty ∧
      exchange.followup.assertionBindings = .empty := by
  have silent : exchange.clientHandshaker.sessionBinders.isEmpty = true ∧
      exchange.clientState.selfAssertions.isEmpty = true := by
    simpa [ClientHandshakeHandler.hasBindings, clientHandshaker] using silent
  rw [BTreeMap.isEmpty_iff_keys, BTreeMap.isEmpty_iff_keys] at silent
  constructor
  · apply BTreeMap.eq_empty_of_keys
    rw [followup, bindSession, BTreeMap.keys_mapValues]
    exact silent.1
  · apply BTreeMap.eq_empty_of_keys
    rw [followup, BTreeMap.keys_mapM exchange.clientBound]
    exact silent.2

variable [Encryptor ε] [Encryptor δ]

theorem opening {count : Nat} {final : Run ε δ}
    (rest : Finishes (step crypto clientEphemeral serverEphemeral) count
      (exchange.afterRequest provideClient provideServer) final) :
    Finishes (step crypto clientEphemeral serverEphemeral) (count + 8) (start
        ⟨.attestation exchange.clientAttester (clientHandshakeHandlerBuilder crypto client)
          provideClient, [], []⟩
        ⟨.attestation exchange.serverAttester (serverHandshakeHandlerBuilder server)
          provideServer, [], []⟩) final := by
  refine .more .client (client_moves (act_first (client_fetch_attest exchange.clientOffers))) ?_
  refine .more .server (server_moves (act_receive (server_put_attest exchange.serverAccepts
    exchange.serverUnjudged exchange.clientSmall))) ?_
  refine .more .server (server_moves (act_fetch (server_fetch_attest exchange.serverOffers
    exchange.serverCollected rfl))) ?_
  refine .more .server (server_moves (act_drained (server_fetch_nothing rfl rfl))) ?_
  have clientAccepts : Accepts (fetched exchange.clientAttester).config exchange.serverMessage
    exchange.serverAttester.bindableAssertions server.sessionBinders := exchange.clientAccepts
  refine .more .client (client_moves (act_receive (client_put_attest clientAccepts
    exchange.clientUnjudged exchange.serverSmall exchange.clientCollected
    (exchange.created _)))) ?_
  refine .more .client (client_moves (act_fetch (client_fetch_initial rfl rfl))) ?_
  refine .more .client (client_moves (act_drained (client_fetch_nothing rfl rfl))) ?_
  refine .more .server (server_moves (act_receive (server_put_initial rfl rfl rfl
    (exchange.responded _ _) exchange.serverBound))) ?_
  exact rest

section Closing

variable {provideClient : OrderedCrypter → Outcome AnyError ε}
  {provideServer : OrderedCrypter → Outcome AnyError δ} {clientEncryptor : ε} {serverEncryptor : δ}

/-- The end of a run without a follow-up message. -/
def quietEnd (provideClient : OrderedCrypter → Outcome AnyError ε)
    (provideServer : OrderedCrypter → Outcome AnyError δ) (clientEncryptor : ε)
    (serverEncryptor : δ) : Run ε δ where
  client := {
    session := ⟨.opened clientEncryptor exchange.clientState
      (responseResult exchange.keys exchange.serverResponse).handshakeState, [], []⟩
    mode := .waiting
    answers := (exchange.afterRequest provideClient provideServer).client.answers ++
      [.put (.ok (some ())), .got (.ok none)] }
  server := {
    session := ⟨.opened serverEncryptor exchange.serverState
      (ServerHandshakeHandler.resultOf exchange.response .empty .empty).handshakeState, [], []⟩
    mode := .waiting
    answers := (exchange.afterRequest provideClient provideServer).server.answers ++
      [.got (.ok (some ⟨some (.handshake exchange.serverResponse)⟩)), .got (.ok none)] }
  toClient := []
  toServer := []

theorem closing_quiet (expected : exchange.serverHandshaker.clientBindingExpected = false)
    (silent : exchange.clientHandshaker.hasBindings = false)
    (clientOpens : Opens crypto provideClient exchange.clientState
      (responseResult exchange.keys exchange.serverResponse) clientEncryptor)
    (serverOpens : Opens crypto provideServer exchange.serverState
      (ServerHandshakeHandler.resultOf exchange.response .empty .empty) serverEncryptor) :
    Finishes (step crypto clientEphemeral serverEphemeral) 4
      (exchange.afterRequest provideClient provideServer)
      (exchange.quietEnd provideClient provideServer clientEncryptor serverEncryptor) := by
  have answer : answered exchange.serverHandshaker exchange.response exchange.serverBindings =
      { exchange.serverHandshaker with
        handshakeResponse := some exchange.serverResponse
        handshakeResult := some
          (ServerHandshakeHandler.resultOf exchange.response .empty .empty) } := by
    simp [answered, expected, serverResponse]
  rw [afterRequest, answer]
  refine .more .server (server_moves (act_fetch (server_fetch_opens rfl serverOpens))) ?_
  refine .more .server (server_moves (act_drained rfl)) ?_
  refine .more .client (client_moves (act_receive (client_put_response_opens rfl rfl rfl
    exchange.processed silent clientOpens))) ?_
  refine .more .client (client_moves (act_drained rfl)) ?_
  exact .done (quiescent_of_waiting rfl rfl rfl rfl)

def followupEnd (provideClient : OrderedCrypter → Outcome AnyError ε)
    (provideServer : OrderedCrypter → Outcome AnyError δ) (clientEncryptor : ε)
    (serverEncryptor : δ) : Run ε δ where
  client := {
    session := ⟨.opened clientEncryptor exchange.clientState
      (responseResult exchange.keys exchange.serverResponse).handshakeState, [], []⟩
    mode := .waiting
    answers := (exchange.afterRequest provideClient provideServer).client.answers ++
      [.put (.ok (some ())), .got (.ok (some ⟨some (.handshake exchange.followup)⟩)),
        .got (.ok none)] }
  server := {
    session := ⟨.opened serverEncryptor exchange.serverState
      (ServerHandshakeHandler.resultOf exchange.response exchange.followup.attestationBindings
        exchange.followup.assertionBindings).handshakeState, [], []⟩
    mode := .waiting
    answers := (exchange.afterRequest provideClient provideServer).server.answers ++
      [.got (.ok (some ⟨some (.handshake exchange.serverResponse)⟩)), .got (.ok none),
        .put (.ok (some ())), .got (.ok none)] }
  toClient := []
  toServer := []

theorem closing_followup (expected : exchange.serverHandshaker.clientBindingExpected = true)
    (speaks : exchange.clientHandshaker.hasBindings = true)
    (clientOpens : Opens crypto provideClient exchange.clientState
      (responseResult exchange.keys exchange.serverResponse) clientEncryptor)
    (serverOpens : Opens crypto provideServer exchange.serverState
      (ServerHandshakeHandler.resultOf exchange.response exchange.followup.attestationBindings
        exchange.followup.assertionBindings) serverEncryptor) :
    Finishes (step crypto clientEphemeral serverEphemeral) 7
      (exchange.afterRequest provideClient provideServer)
      (exchange.followupEnd provideClient provideServer clientEncryptor serverEncryptor) := by
  have answer : answered exchange.serverHandshaker exchange.response exchange.serverBindings =
      { exchange.serverHandshaker with
        noiseResponse := some exchange.response
        handshakeResponse := some exchange.serverResponse } := by
    simp [answered, expected, serverResponse]
  rw [afterRequest, answer]
  refine .more .server (server_moves (act_fetch (server_fetch_response rfl rfl))) ?_
  refine .more .server (server_moves (act_drained (server_fetch_nothing rfl rfl))) ?_
  refine .more .client (client_moves (act_receive (client_put_response_binds rfl rfl
    exchange.processed speaks exchange.clientBound))) ?_
  refine .more .client (client_moves (act_fetch (client_fetch_followup rfl rfl rfl
    clientOpens))) ?_
  refine .more .client (client_moves (act_drained rfl)) ?_
  refine .more .server (server_moves (act_receive (server_put_followup rfl rfl))) ?_
  refine .more .server (server_moves (act_drained (server_fetch_opens rfl serverOpens))) ?_
  exact .done (quiescent_of_waiting rfl rfl rfl rfl)

end Closing

end Exchange

section Existence

variable {clientConfig : SessionConfig ε} {serverConfig : SessionConfig δ}
  {clientAttester serverAttester : AttestationHandler}

theorem Honest.exchange (commutes : crypto.DhCommutes) (opens : crypto.OpensSealed)
    (honest : Honest crypto clientConfig serverConfig clientAttester serverAttester)
    (supported : Supported clientConfig serverConfig clientAttester serverAttester)
    (clientEphemeral serverEphemeral : EphemeralKeyPair crypto) :
    ∃ exchange : Exchange crypto clientConfig.handshakeHandlerConfig
        serverConfig.handshakeHandlerConfig clientEphemeral serverEphemeral,
      exchange.clientAttester = clientAttester ∧ exchange.serverAttester = serverAttester := by
  obtain ⟨clientStatic, serverStatic, matching⟩ := honest.matching
  obtain ⟨pattern, known⟩ : ∃ pattern,
      patternOf clientConfig.handshakeHandlerConfig.handshakeType = some pattern := by
    have implemented := supported.handshakeType
    cases kind : clientConfig.handshakeHandlerConfig.handshakeType with
    | noiseKK | noiseNK | noiseNN => exact ⟨_, rfl⟩
    | noiseKN => exact absurd kind implemented
  obtain ⟨handshakeInitiator, message, response, keys, finished, created, responded, processed,
    sameHash⟩ := noise_exchange commutes opens matching known clientEphemeral serverEphemeral
  obtain ⟨clientEvidence, clientQuoted, clientFields⟩ :=
    AttestationHandler.create_eq_ok honest.clientCreated
  obtain ⟨serverEvidence, serverQuoted, serverFields⟩ :=
    AttestationHandler.create_eq_ok honest.serverCreated
  have clientOffers := congrArg AttestationHandler.attestMessage clientFields
  have serverOffers := congrArg AttestationHandler.attestMessage serverFields
  have clientConfigured : clientAttester.config = clientConfig.attestationHandlerConfig :=
    congrArg AttestationHandler.config clientFields
  have serverConfigured : serverAttester.config = serverConfig.attestationHandlerConfig :=
    congrArg AttestationHandler.config serverFields
  have clientAccepts := honest.clientAccepts _ serverOffers
  have serverAccepts := honest.serverAccepts _ clientOffers
  rw [← clientConfigured] at clientAccepts
  rw [← serverConfigured] at serverAccepts
  obtain ⟨clientVerifiers, clientCollected⟩ := bindingVerifiers_exist clientAccepts
  obtain ⟨serverVerifiers, serverCollected⟩ := bindingVerifiers_exist serverAccepts
  obtain ⟨clientBindings, clientBound⟩ : ∃ bindings, bindAssertions crypto
      (stateOf (judged (fetched clientAttester) _) _ clientVerifiers)
      keys.handshakeHash.toList = .ok bindings :=
    BTreeMap.mapM_exists fun id bindable found => honest.clientBinds id bindable _ found
  obtain ⟨serverBindings, serverBound⟩ : ∃ bindings, bindAssertions crypto
      (stateOf (fetched (judged serverAttester _)) _ serverVerifiers)
      response.handshakeHash.toList = .ok bindings :=
    BTreeMap.mapM_exists fun id bindable found => honest.serverBinds id bindable _ found
  exact ⟨{
    clientAttester, serverAttester, clientMessage := _, serverMessage := _
    clientVerifiers, serverVerifiers, handshakeInitiator, finished, message, response, keys
    clientBindings, serverBindings
    clientOffers, serverOffers
    clientUnjudged := congrArg AttestationHandler.attestationResult clientFields
    serverUnjudged := congrArg AttestationHandler.attestationResult serverFields
    clientFresh := congrArg AttestationHandler.attestationBindingToken clientFields
    serverFresh := congrArg AttestationHandler.attestationBindingToken serverFields
    clientAssertions := rfl
    serverAssertions := rfl
    clientIds := (BTreeMap.keys_mapM clientQuoted).trans honest.clientBinders.symm
    serverIds := (BTreeMap.keys_mapM serverQuoted).trans honest.serverBinders.symm
    clientAccepts, serverAccepts
    clientSmall := supported.clientSmall _ clientOffers
    serverSmall := supported.serverSmall _ serverOffers
    clientCollected, serverCollected, created, responded, processed, sameHash
    clientBound, serverBound }, rfl, rfl⟩

variable [Encryptor ε] [Encryptor δ]

theorem Honest.finishes (commutes : crypto.DhCommutes) (opens : crypto.OpensSealed)
    (honest : Honest crypto clientConfig serverConfig clientAttester serverAttester)
    (supported : Supported clientConfig serverConfig clientAttester serverAttester)
    (clientEphemeral serverEphemeral : Nat → EphemeralKeyPair crypto) : ∃ count final, count ≤ 15 ∧
      Finishes (step crypto clientEphemeral serverEphemeral) count (start
          ⟨.attestation clientAttester (clientHandshakeHandlerBuilder crypto
            clientConfig.handshakeHandlerConfig) clientConfig.provideEncryptor, [], []⟩
          ⟨.attestation serverAttester (serverHandshakeHandlerBuilder
            serverConfig.handshakeHandlerConfig) serverConfig.provideEncryptor, [], []⟩) final ∧
      AllOk final ∧ Agreement final := by
  obtain ⟨exchange, rfl, rfl⟩ :=
    honest.exchange commutes opens supported (clientEphemeral 1) (serverEphemeral 3)
  obtain ⟨clientEncryptor, clientProvided⟩ := supported.clientEncrypts exchange.keys.crypter
  obtain ⟨serverEncryptor, serverProvided⟩ := supported.serverEncrypts exchange.response.crypter
  have clientOpens := exchange.clientOpens clientProvided
  have serverOpens := exchange.serverOpens serverProvided
  have sameHash : exchange.keys.handshakeHash.toList = exchange.response.handshakeHash.toList :=
    congrArg _ exchange.sameHash
  cases expected : exchange.serverHandshaker.clientBindingExpected with
  | false =>
    have silent := exchange.hasBindings_eq.trans expected
    obtain ⟨noSession, noAssertion⟩ := exchange.followup_empty silent
    rw [noSession, noAssertion] at serverOpens
    refine ⟨_, _, by decide, exchange.opening (exchange.closing_quiet expected silent
      clientOpens serverOpens), ?_, ?_⟩
    · simp [AllOk, Exchange.quietEnd, Exchange.afterRequest, Answer.IsOk]
    · refine ⟨_, _, _, _, _, _, rfl, rfl, exchange.sameToken, sameHash, ?_⟩
      have waits : exchange.serverState.peerAttestationVerdict.needsSessionBindings = false :=
        expected
      rw [waits]
      rfl
  | true =>
    have speaks := exchange.hasBindings_eq.trans expected
    refine ⟨_, _, by decide, exchange.opening (exchange.closing_followup expected speaks
      clientOpens serverOpens), ?_, ?_⟩
    · simp [AllOk, Exchange.followupEnd, Exchange.afterRequest, Answer.IsOk]
    · refine ⟨_, _, _, _, _, _, rfl, rfl, exchange.sameToken, sameHash, ?_⟩
      have waits : exchange.serverState.peerAttestationVerdict.needsSessionBindings = true :=
        expected
      rw [waits]
      rfl

/-- For every schedule of an honest pair: no call fails, the schedule takes at
most fifteen calls, and when neither side can go on both are open and agree. -/
theorem honest_run_agreement (commutes : crypto.DhCommutes) (opens : crypto.OpensSealed)
    (honest : Honest crypto clientConfig serverConfig clientAttester serverAttester)
    (supported : Supported clientConfig serverConfig clientAttester serverAttester)
    {client : ClientSession ε} {server : ServerSession δ}
    (clientCreated : ClientSession.create crypto clientConfig = .ok client)
    (serverCreated : ServerSession.create serverConfig = .ok server)
    (clientEphemeral serverEphemeral : Nat → EphemeralKeyPair crypto) :
    ∃ final : Run ε δ, Agreement final ∧ ∀ schedule : List Side,
      let step := step crypto clientEphemeral serverEphemeral
      let run := execute step (start client server) schedule
      AllOk run ∧ stepsTaken step (start client server) schedule ≤ 15 ∧
        (Quiescent step run → run = final) := by
  obtain ⟨attester, made, rfl⟩ := Endpoint.create_eq_ok clientCreated
  cases honest.clientCreated.symm.trans made
  obtain ⟨attester, made, rfl⟩ := Endpoint.create_eq_ok serverCreated
  cases honest.serverCreated.symm.trans made
  obtain ⟨count, final, short, finishes, allOk, agreement⟩ :=
    honest.finishes commutes opens supported clientEphemeral serverEphemeral
  refine ⟨final, agreement, ?_⟩
  intro schedule step run
  have independent : Commutes step :=
    Pair.commutes (act_readsFront _ _) (act_readsFront _ _)
  obtain ⟨remaining, total, follows⟩ := finishes.execute independent schedule
  refine ⟨?_, (Nat.le.intro total).trans short, fun quiescent => follows.eq_of_quiescent quiescent⟩
  exact follows.backwards AllOk (fun _ _ _ moved allOk => allOk_before moved allOk) allOk

end Existence

end Agreement

section Transparent

open TransparentConfig

variable (handshakeType : HandshakeType) (clientContent serverContent : Bytes)
  (provideClient provideServer : OrderedCrypter → Outcome AnyError TransparentEncryptor)

theorem transparent_honest :
    Honest Primitives.transparent (session handshakeType alice bob clientContent provideClient)
      (session handshakeType bob alice serverContent provideServer) (attester clientContent)
      (attester serverContent) where
  clientCreated := create_attester clientContent
  serverCreated := create_attester serverContent
  clientBinders := rfl
  serverBinders := rfl
  matching := by
    refine ⟨alice, bob, rfl, ?_⟩
    cases handshakeType with
    | noiseKK => exact ⟨rfl, rfl, rfl, rfl⟩
    | noiseKN | noiseNK => exact ⟨rfl, rfl⟩
    | noiseNN => trivial
  serverAccepts := fun _ _ => accepts serverContent clientContent
  clientAccepts := fun _ _ => accepts clientContent serverContent
  clientBinds := by
    intro id bound boundData held
    obtain rfl := BTreeMap.get?_singleton_eq_some held
    exact ⟨_, rfl⟩
  serverBinds := by
    intro id bound boundData held
    obtain rfl := BTreeMap.get?_singleton_eq_some held
    exact ⟨_, rfl⟩

def ephemeral (_ : Nat) : EphemeralKeyPair Primitives.transparent :=
  transparentPair ⟨⟨5, five_lt_p256Order⟩⟩

theorem transparent_kk_run :
    ∃ final : Run TransparentEncryptor TransparentEncryptor, Agreement final ∧
      ∀ schedule : List Side,
        let step := step Primitives.transparent ephemeral ephemeral
        let begin := start (client .noiseKK [7] provides) (server .noiseKK [8] provides)
        let run := execute step begin schedule
        AllOk run ∧ stepsTaken step begin schedule ≤ 15 ∧ (Quiescent step run → run = final) :=
  honest_run_agreement Transparent.dhCommutes Transparent.opensSealed
    (transparent_honest .noiseKK [7] [8] provides provides)
    ⟨by decide, by rintro _ ⟨⟩; decide +kernel, by rintro _ ⟨⟩; decide +kernel,
      fun crypter => ⟨_, rfl⟩, fun crypter => ⟨_, rfl⟩⟩
    (create_client .noiseKK [7] provides) (create_server .noiseKK [8] provides) ephemeral ephemeral

/-- Some schedule of an honest pair runs into a failed call. -/
def Fails (handshakeType : HandshakeType) (clientContent serverContent : Bytes)
    (provideClient provideServer : OrderedCrypter → Outcome AnyError TransparentEncryptor) :
    Prop :=
  Honest Primitives.transparent (session handshakeType alice bob clientContent provideClient)
    (session handshakeType bob alice serverContent provideServer) (attester clientContent)
    (attester serverContent) ∧
  ∃ schedule : List Side, ¬ AllOk (execute (step Primitives.transparent ephemeral ephemeral)
    (start (client handshakeType clientContent provideClient)
      (server handshakeType serverContent provideServer)) schedule)

theorem oversize_fails {content : Bytes} (size : content.length = defaultMaxAttestationSize) :
    Fails .noiseNN content [8] provides provides := by
  have large : ¬ (offer content).encodedLen < defaultMaxAttestationSize := by
    have carried := length_le_encodedLen content
    omega
  refine ⟨transparent_honest _ _ _ _ _, [.client, .server], ?_⟩
  intro allOk
  obtain ⟨next, offered, serverSide, inFlight⟩ :
      ∃ next, step Primitives.transparent ephemeral ephemeral .client
          (start (client .noiseNN content provides) (server .noiseNN [8] provides)) = some next ∧
        next.server = ⟨server .noiseNN [8] provides, .waiting, []⟩ ∧
        next.toServer = [⟨some (.attest (offer content))⟩] :=
    ⟨_, client_moves (act_first (client_fetch_attest rfl)), rfl, rfl⟩
  have refused : step Primitives.transparent ephemeral ephemeral .server next = some _ :=
    server_moves (by
      rw [serverSide, inFlight]
      exact act_receive (server_put_oversize large))
  rw [execute, offered, Option.getD_some, execute, refused] at allOk
  exact allOk (.put (.error _)) (List.mem_append_right _ (List.mem_singleton_self _))

/-- Honest pairs that fail: with a handshake type that is not implemented, with
an attest message over the size limit, and with an encryptor that cannot be
built. -/
theorem unsupported_pairs_fail :
    Fails .noiseKN [7] [8] provides provides ∧
      (∃ content, Fails .noiseNN content [8] provides provides) ∧
      Fails .noiseNN [7] [8] (fun _ => .err "no encryptor") provides := by
  refine ⟨⟨transparent_honest _ _ _ _ _, ?_⟩, ?_, ⟨transparent_honest _ _ _ _ _, ?_⟩⟩
  · exact ⟨[.client, .server, .server, .server, .client], by decide +kernel⟩
  · exact ⟨List.replicate defaultMaxAttestationSize 0, oversize_fails List.length_replicate⟩
  · exact ⟨[.client, .server, .server, .server, .client, .client, .client, .server, .server,
      .server, .client, .client], by decide +kernel⟩

end Transparent

end Oak.Session.HonestRun

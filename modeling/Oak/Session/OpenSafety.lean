import Oak.Data.Runs
import Oak.Session.PeerEvidence
import Oak.Session.TransparentConfig

namespace Oak.Session.OpenSafety

open Oak.Data Oak.Crypto
open Oak.Session.PeerEvidence

/-! The safety of open sessions, whatever the peer sends.

The invariant relates the step of a session to the attest and handshake
messages accepted so far; it is the same for both sides, up to what a
handshaker in progress knows. -/

section Invariant

variable {η ε : Type}

/-- The invariant of a session.  `ready` is what its handshaker knows. -/
def Holds (crypto : Primitives) (config : AttestationHandlerConfig)
    (provider : HandshakeHandlerBuilder η)
    (fromHandshake : List HandshakeMessage → Bytes → Prop)
    (ready : List AttestMessage → List HandshakeMessage → η → Prop)
    (attested : List AttestMessage) (received : List HandshakeMessage) : Step η ε → Prop
  | .attestation attester handshakeHandlerProvider _ =>
    attester.config = config ∧ handshakeHandlerProvider = provider ∧
      Attesting config attested attester.attestationResult
  | .handshake handshaker _ => ready attested received handshaker
  | .opened _ attestationState handshakeState =>
    PeerChecked crypto config fromHandshake attested received attestationState handshakeState
  | .error _ _ => True
  | .invalid => True

variable {crypto : Primitives} {config : AttestationHandlerConfig}
  {provider : HandshakeHandlerBuilder η}
  {fromHandshake : List HandshakeMessage → Bytes → Prop}
  {ready : List AttestMessage → List HandshakeMessage → η → Prop}
  {attested : List AttestMessage} {received : List HandshakeMessage}

theorem holds_of_isDead {step : Step η ε} (isDead : step.IsDead) :
    Holds crypto config provider fromHandshake ready attested received step := by
  rcases isDead.cases with ⟨attestationState, handshakeState, rfl⟩ | rfl
  · trivial
  · trivial

def Keeps (crypto : Primitives) (config : AttestationHandlerConfig)
    (provider : HandshakeHandlerBuilder η)
    (fromHandshake : List HandshakeMessage → Bytes → Prop)
    (ready : List AttestMessage → List HandshakeMessage → η → Prop) (history : History)
    (session : Endpoint η ε) : Prop :=
  Holds crypto config provider fromHandshake ready (attests history) (handshakes history)
    session.step

variable {history : History} {session : Endpoint η ε}

variable {random : Block 32}

theorem keeps_attest {message : AttestMessage} {result : Option Unit}
    (holds : Holds crypto config provider fromHandshake ready (attests history ++ [message])
      (handshakes history) session.step) : Keeps crypto config provider fromHandshake ready
      (history ++ [(.putIncomingMessage ⟨some (.attest message)⟩ random, .put (.ok result))])
      session := by
  have noHandshake : acceptedHandshake
      (.putIncomingMessage ⟨some (.attest message)⟩ random, .put (.ok result)) = none := rfl
  simpa [Keeps, attests, handshakes, acceptedAttest, noHandshake] using holds

theorem keeps_handshake {message : HandshakeMessage} {result : Option Unit}
    (holds : Holds crypto config provider fromHandshake ready (attests history)
      (handshakes history ++ [message]) session.step) :
    Keeps crypto config provider fromHandshake ready
      (history ++ [(.putIncomingMessage ⟨some (.handshake message)⟩ random, .put (.ok result))])
      session := by
  have noAttest : acceptedAttest
      (.putIncomingMessage ⟨some (.handshake message)⟩ random, .put (.ok result)) = none := rfl
  simpa [Keeps, attests, handshakes, acceptedHandshake, noAttest] using holds

theorem keeps_quiet {call : Call × Answer} (noAttest : acceptedAttest call = none)
    (noHandshake : acceptedHandshake call = none)
    (keeps : Keeps crypto config provider fromHandshake ready history session) :
    Keeps crypto config provider fromHandshake ready (history ++ [call]) session := by
  simpa [Keeps, attests, handshakes, noAttest, noHandshake] using keeps

theorem keeps_encrypted {message : EncryptedMessage} {result : Outcome AnyError (Option Unit)}
    (keeps : Keeps crypto config provider fromHandshake ready history session) :
    Keeps crypto config provider fromHandshake ready
      (history ++ [(.putIncomingMessage ⟨some (.encrypted message)⟩ random, .put result)])
      session := by
  cases result with
  | ok | error => exact keeps_quiet rfl rfl keeps

variable [HandshakeHandler η]

/-- What the two sides have to show about their handshakers. -/
structure HandshakerLaws (config : AttestationHandlerConfig) (provider : HandshakeHandlerBuilder η)
    (fromHandshake : List HandshakeMessage → Bytes → Prop)
    (ready : List AttestMessage → List HandshakeMessage → η → Prop) : Prop where
  starts : ∀ {attested received expectPeerBindings attestationState random handshaker},
    Verified config attested attestationState →
    provider expectPeerBindings attestationState random = .ok handshaker →
    ready attested received handshaker
  finishes : ∀ {attested received handshaker handshakeResult attestationState},
    ready attested received handshaker →
    HandshakeHandler.takeHandshakeResult handshaker = .ok (handshakeResult, attestationState) →
    Verified config attested attestationState ∧ Completed fromHandshake received handshakeResult

section

variable (laws : HandshakerLaws config provider fromHandshake ready)

include laws

theorem HandshakerLaws.next {step : Step η ε} {result : Outcome AnyError Unit × Step η ε}
    (holds : Holds crypto config provider fromHandshake ready attested received step)
    (next : Step.NextStep crypto random step result) :
    Holds crypto config provider fromHandshake ready attested received result.2 := by
  cases next with
  | toHandshake taken passed built =>
    obtain ⟨configured, rfl, attesting⟩ := holds
    exact laws.starts (verified_of_taken configured attesting taken passed) built
  | toOpened taken sessionBound assertionsBound provided =>
    obtain ⟨verified, fromPeer, ownHash⟩ := laws.finishes holds taken
    exact peerChecked_of_verified verified fromPeer ownHash sessionBound assertionsBound
  | failed fault isDead => exact holds_of_isDead isDead

theorem HandshakerLaws.advance
    {α : Type} (result : α) (random : Block 32)
    (keeps : Keeps crypto config provider fromHandshake ready history session) :
    Keeps crypto config provider fromHandshake ready history
      (session.advance crypto random result).2 := by
  obtain ⟨outcome, step, next, advanced⟩ := session.advance_cases crypto random result
  rw [advanced]
  exact laws.next keeps next

/-- The message that was just used counts as accepted when the session moves
on, and a session that fails to is dead. -/
theorem HandshakerLaws.advance_put (message : SessionMessage) (random : Block 32)
    (keeps : Keeps crypto config provider fromHandshake ready
      (history ++ [(.putIncomingMessage message random, .put (.ok (some ())))]) session) :
    Keeps crypto config provider fromHandshake ready
      (history ++ [(.putIncomingMessage message random,
        .put (session.advance crypto random (some ())).1)])
      (session.advance crypto random (some ())).2 := by
  obtain ⟨current, outgoing, incoming⟩ := session
  obtain ⟨outcome, step, next, advanced⟩ := Endpoint.advance_cases crypto ⟨current, _, _⟩ random _
  rw [advanced]
  cases outcome with
  | ok => exact laws.next keeps next
  | error fault =>
    cases next with
    | failed _ isDead => exact holds_of_isDead isDead

end

end Invariant

variable {config : AttestationHandlerConfig}

theorem attesting_put {attested : List AttestMessage}
    {attester : AttestationHandler} (configured : attester.config = config)
    (attesting : Attesting config attested attester.attestationResult) (message : AttestMessage) :
    (attester.putIncomingMessage message).2.config = config ∧
    ((attester.putIncomingMessage message).1 = .ok (some ()) →
      Attesting config (attested ++ [message])
        (attester.putIncomingMessage message).2.attestationResult) ∧
    ((attester.putIncomingMessage message).1 ≠ .ok (some ()) →
      Attesting config attested (attester.putIncomingMessage message).2.attestationResult) := by
  unfold AttestationHandler.putIncomingMessage
  cases judged : attester.attestationResult with
  | some verdict =>
    refine ⟨configured, fun used => by simp at used, fun _ => ?_⟩
    simpa [judged] using attesting
  | none =>
    rw [judged] at attesting
    cases attesting
    cases combined : combineAttestationResults attester.config.peerVerifiers
        message.endorsedEvidence with
    | error reason =>
      refine ⟨configured, fun used => by simp [Outcome.err] at used, fun _ => ?_⟩
      rfl
    | ok legacyResults =>
      refine ⟨configured, fun _ => ?_, fun unused => by simp at unused⟩
      rw [configured] at combined
      refine ⟨message, legacyResults, rfl, combined, ?_⟩
      simp [configured, verdictOn]

section Client

variable {ε : Type} {crypto : Primitives} {config : SessionConfig ε}
  {history : History} {session : ClientSession ε}

abbrev ClientKeeps (crypto : Primitives) (config : SessionConfig ε) (history : History)
    (session : ClientSession ε) : Prop :=
  Keeps crypto config.attestationHandlerConfig
    (clientHandshakeHandlerBuilder crypto config.handshakeHandlerConfig)
    (ClientHash crypto config.handshakeHandlerConfig)
    (ClientReady crypto config.handshakeHandlerConfig config.attestationHandlerConfig)
    history session

theorem clientLaws : HandshakerLaws config.attestationHandlerConfig
    (clientHandshakeHandlerBuilder crypto config.handshakeHandlerConfig)
    (ClientHash crypto config.handshakeHandlerConfig)
    (ClientReady crypto config.handshakeHandlerConfig config.attestationHandlerConfig) where
  starts := fun verified built => .start verified built
  finishes := by
    intro attested received handshaker handshakeResult attestationState ready taken
    simp only [HandshakeHandler.takeHandshakeResult,
      ClientHandshakeHandler.takeHandshakeResult] at taken
    cases done : handshaker.handshakeResult with
    | none => simp [done, Outcome.err] at taken
    | some result =>
      rw [done] at taken
      cases taken
      exact ⟨ready.verified, ready.completed _ done⟩

theorem client_getOutgoingMessage (keeps : ClientKeeps crypto config history session)
    (random : Block 32) : ClientKeeps crypto config history
      (ClientSession.getOutgoingMessage crypto session random).2 := by
  obtain ⟨step, outgoing, incoming⟩ := session
  cases step with
  | attestation attester handshakeHandlerProvider provideEncryptor =>
    unfold ClientSession.getOutgoingMessage AttestationHandler.getOutgoingMessage
    dsimp only
    cases attester.attestMessage with
    | none | some => exact keeps
  | handshake handshaker provideEncryptor =>
    have ready : ClientReady crypto _ _ _ _ handshaker.getOutgoingMessage.2 :=
      ClientReady.getOutgoingMessage keeps
    unfold ClientSession.getOutgoingMessage
    dsimp only
    generalize handshaker.getOutgoingMessage = answer at ready ⊢
    split
    · exact ready
    · split
      · exact clientLaws.advance _ random ready
      · exact ready
    · exact ready
  | opened | error | invalid => exact keeps

theorem client_putIncomingMessage (keeps : ClientKeeps crypto config history session)
    (message : SessionResponse) (random : Block 32) : ClientKeeps crypto config
      (history ++ [(.putIncomingMessage message random,
        .put (ClientSession.putIncomingMessage crypto session message random).1)])
      (ClientSession.putIncomingMessage crypto session message random).2 := by
  obtain ⟨content⟩ := message
  obtain ⟨step, outgoing, incoming⟩ := session
  unfold ClientSession.putIncomingMessage
  split
  · rename_i message attester provider provideEncryptor offered current
    subst offered current
    obtain ⟨configured, rfl, attesting⟩ := keeps
    obtain ⟨sameConfig, used, unused⟩ := attesting_put configured attesting message
    cases put : attester.putIncomingMessage message with
    | mk outcome next =>
      rw [put] at sameConfig used unused
      dsimp only
      split
      · rcases outcome with fault | _ | _
        · exact keeps_quiet rfl rfl ⟨sameConfig, rfl, unused (by simp)⟩
        · exact keeps_quiet rfl rfl ⟨sameConfig, rfl, unused (by simp)⟩
        · exact clientLaws.advance_put _ random (keeps_attest ⟨sameConfig, rfl, used rfl⟩)
      · exact keeps_quiet rfl rfl ⟨configured, rfl, attesting⟩
  · rename_i message handshaker provideEncryptor offered current
    subst offered current
    obtain ⟨used, unused⟩ :=
      ClientReady.putIncomingMessage keeps (handshaker.put_cases crypto message)
    cases put : handshaker.putIncomingMessage crypto message with
    | mk outcome next =>
      rw [put] at used unused
      rcases outcome with fault | _ | _
      · exact keeps_quiet rfl rfl (unused (by simp))
      · exact keeps_quiet rfl rfl (unused (by simp))
      · dsimp only
        split
        · exact clientLaws.advance_put _ random (keeps_handshake (used rfl))
        · exact keeps_handshake (used rfl)
  · rename_i offered current
    subst offered current
    apply keeps_encrypted
    rwa [Keeps, Endpoint.pushIncoming_step]
  · exact keeps_quiet rfl rfl keeps

theorem client_call [Encryptor ε] (keeps : ClientKeeps crypto config history session)
    (call : Call) :
    ClientKeeps crypto config (history ++ [(call, (ClientSession.call crypto session call).1)])
      (ClientSession.call crypto session call).2 := by
  cases call with
  | putIncomingMessage message random => exact client_putIncomingMessage keeps message random
  | getOutgoingMessage random =>
    exact keeps_quiet rfl rfl (client_getOutgoingMessage keeps random)
  | write plaintext => exact keeps_quiet rfl rfl (Endpoint.write_kept id keeps plaintext)
  | read => exact keeps_quiet rfl rfl (Endpoint.readFrom_kept id keeps "SessionResponse")

end Client

section Server

variable {ε : Type} {crypto : Primitives} {config : SessionConfig ε}
  {history : History} {session : ServerSession ε}

abbrev ServerKeeps (crypto : Primitives) (config : SessionConfig ε) (history : History)
    (session : ServerSession ε) : Prop :=
  Keeps crypto config.attestationHandlerConfig
    (serverHandshakeHandlerBuilder config.handshakeHandlerConfig)
    (ServerHash crypto config.handshakeHandlerConfig)
    (ServerReady crypto config.handshakeHandlerConfig config.attestationHandlerConfig)
    history session

theorem serverLaws : HandshakerLaws config.attestationHandlerConfig
    (serverHandshakeHandlerBuilder config.handshakeHandlerConfig)
    (ServerHash crypto config.handshakeHandlerConfig)
    (ServerReady crypto config.handshakeHandlerConfig config.attestationHandlerConfig) where
  starts := by
    intro attested received expectPeerBindings attestationState random handshaker verified built
    cases built
    exact .start verified
  finishes := by
    intro attested received handshaker handshakeResult attestationState ready taken
    simp only [HandshakeHandler.takeHandshakeResult,
      ServerHandshakeHandler.takeHandshakeResult] at taken
    cases done : handshaker.handshakeResult with
    | none => simp [done, Outcome.err] at taken
    | some result =>
      rw [done] at taken
      cases taken
      exact ⟨ready.verified, ready.completed _ done⟩

theorem server_getOutgoingMessage (keeps : ServerKeeps crypto config history session)
    (random : Block 32) : ServerKeeps crypto config history
      (ServerSession.getOutgoingMessage crypto session random).2 := by
  obtain ⟨step, outgoing, incoming⟩ := session
  cases step with
  | attestation attester handshakeHandlerProvider provideEncryptor =>
    unfold ServerSession.getOutgoingMessage AttestationHandler.getOutgoingMessage
    dsimp only
    cases attester.attestMessage with
    | none => exact keeps
    | some message =>
      apply serverLaws.advance
      exact keeps
  | handshake handshaker provideEncryptor =>
    have ready : ServerReady crypto _ _ _ _ handshaker.getOutgoingMessage.2 :=
      ServerReady.getOutgoingMessage keeps
    simp only [ServerSession.getOutgoingMessage, ServerHandshakeHandler.getOutgoingMessage]
    split
    · exact serverLaws.advance _ random ready
    · exact ready
  | opened | error | invalid => exact keeps

theorem server_putIncomingMessage (keeps : ServerKeeps crypto config history session)
    (message : SessionRequest) (random : Block 32) : ServerKeeps crypto config
      (history ++ [(.putIncomingMessage message random,
        .put (ServerSession.putIncomingMessage crypto session message random).1)])
      (ServerSession.putIncomingMessage crypto session message random).2 := by
  obtain ⟨content⟩ := message
  obtain ⟨step, outgoing, incoming⟩ := session
  unfold ServerSession.putIncomingMessage
  split
  · rename_i message attester provider provideEncryptor offered current
    subst offered current
    obtain ⟨configured, rfl, attesting⟩ := keeps
    obtain ⟨sameConfig, used, unused⟩ := attesting_put configured attesting message
    cases put : attester.putIncomingMessage message with
    | mk outcome next =>
      rw [put] at sameConfig used unused
      dsimp only
      split
      · rcases outcome with fault | _ | _
        · exact keeps_quiet rfl rfl ⟨sameConfig, rfl, unused (by simp)⟩
        · exact keeps_quiet rfl rfl ⟨sameConfig, rfl, unused (by simp)⟩
        · exact keeps_attest ⟨sameConfig, rfl, used rfl⟩
      · exact keeps_quiet rfl rfl ⟨configured, rfl, attesting⟩
  · rename_i message handshaker provideEncryptor offered current
    subst offered current
    obtain ⟨used, unused⟩ :=
      ServerReady.putIncomingMessage keeps (handshaker.put_cases crypto message random)
    cases put : handshaker.putIncomingMessage crypto message random with
    | mk outcome next =>
      rw [put] at used unused
      rcases outcome with fault | _ | _
      · exact keeps_quiet rfl rfl (unused (by simp))
      · exact keeps_quiet rfl rfl (unused (by simp))
      · exact keeps_handshake (used rfl)
  · rename_i offered current
    subst offered current
    apply keeps_encrypted
    rwa [Keeps, Endpoint.pushIncoming_step]
  · exact keeps_quiet rfl rfl keeps

theorem server_call [Encryptor ε] (keeps : ServerKeeps crypto config history session)
    (call : Call) :
    ServerKeeps crypto config (history ++ [(call, (ServerSession.call crypto session call).1)])
      (ServerSession.call crypto session call).2 := by
  cases call with
  | putIncomingMessage message random => exact server_putIncomingMessage keeps message random
  | getOutgoingMessage random =>
    exact keeps_quiet rfl rfl (server_getOutgoingMessage keeps random)
  | write plaintext => exact keeps_quiet rfl rfl (Endpoint.write_kept id keeps plaintext)
  | read => exact keeps_quiet rfl rfl (Endpoint.readFrom_kept id keeps "SessionRequest")

end Server

/-- Open, with what was accepted of the peer. -/
def OpenWith {η ε : Type} (accepted : AttestationState × HandshakeState) : Step η ε → Prop
  | .opened _ attestationState handshakeState => (attestationState, handshakeState) = accepted
  | _ => False

/-- No call closes an open session or replaces what it has accepted of its peer. -/
theorem open_session_stays {ε : Type} [Encryptor ε] (crypto : Primitives) (encryptor : ε)
    (accepted : AttestationState × HandshakeState) (outgoing incoming : List SessionMessage)
    (calls : List Call) :
    OpenWith accepted (Runs.after (ClientSession.call crypto)
      ⟨.opened encryptor accepted.1 accepted.2, outgoing, incoming⟩ calls).step ∧
    OpenWith accepted (Runs.after (ServerSession.call crypto)
      ⟨.opened encryptor accepted.1 accepted.2, outgoing, incoming⟩ calls).step := by
  constructor
  all_goals
    refine Runs.state_invariant (fun session => OpenWith accepted (Endpoint.step session)) ?_
      (by exact rfl) calls
    rintro ⟨step, outgoing, incoming⟩ input opened
    cases step with
    | attestation | handshake | error | invalid => exact opened.elim
    | opened =>
      rcases input with ⟨⟨_ | _ | _ | message⟩, random⟩ | random | plaintext | _
      · exact opened
      · exact opened
      · exact opened
      · rwa [← Endpoint.pushIncoming_step _ ⟨some (.encrypted message)⟩] at opened
      · exact opened
      · exact Endpoint.write_kept id opened plaintext
      · exact Endpoint.readFrom_kept id opened _

section Dead

variable {η ε : Type}

/-- A dead session answers every call with an error and stays dead. -/
def Refuses (call : Endpoint η ε → Call → Answer × Endpoint η ε) : Prop :=
  ∀ session input, session.step.IsDead →
    (call session input).1.IsErr ∧ (call session input).2.step.IsDead

theorem sessions_refuse [Encryptor ε] (crypto : Primitives) :
    Refuses (ClientSession.call crypto : ClientSession ε → Call → Answer × ClientSession ε) ∧
      Refuses (ServerSession.call crypto : ServerSession ε → Call → Answer × ServerSession ε) := by
  constructor
  all_goals
    rintro ⟨step, outgoing, incoming⟩ input isDead
    rcases isDead.cases with ⟨attestationState, handshakeState, rfl⟩ | rfl
    all_goals
      rcases input with ⟨⟨_ | _ | _ | _⟩, random⟩ | random | plaintext | _
      all_goals exact ⟨trivial, trivial⟩

theorem Refuses.run {call : Endpoint η ε → Call → Answer × Endpoint η ε} (refuses : Refuses call)
    {session : Endpoint η ε} (isDead : session.step.IsDead) (calls : List Call) :
    (∀ entry ∈ Runs.trace call session calls, entry.2.IsErr) ∧
      (Runs.after call session calls).step.IsDead := by
  refine Runs.invariant_from_start
    (fun history (session : Endpoint η ε) =>
      (∀ entry ∈ history, Answer.IsErr entry.2) ∧ session.step.IsDead)
    ?_ ⟨by simp, isDead⟩ calls
  intro history session input holds
  obtain ⟨answered, stays⟩ := refuses session input holds.2
  refine ⟨?_, stays⟩
  intro entry member
  rcases List.mem_append.mp member with earlier | last
  · exact holds.1 entry earlier
  · rw [List.mem_singleton.mp last]
    exact answered

end Dead

structure RunSafe {η ε : Type} (crypto : Primitives) (config : AttestationHandlerConfig)
    (fromHandshake : List HandshakeMessage → Bytes → Prop)
    (call : Endpoint η ε → Call → Answer × Endpoint η ε) (session : Endpoint η ε)
    (calls : List Call) : Prop where
  opened : ∀ encryptor attestationState handshakeState,
    (Runs.after call session calls).step = .opened encryptor attestationState handshakeState →
    PeerChecked crypto config fromHandshake (attests (Runs.trace call session calls))
      (handshakes (Runs.trace call session calls)) attestationState handshakeState
  dead : (Runs.after call session calls).step.IsDead → ∀ later,
    (∀ entry ∈ Runs.trace call (Runs.after call session calls) later, entry.2.IsErr) ∧
      ¬ (Runs.after call (Runs.after call session calls) later).step.IsOpen

variable {fromHandshake : List HandshakeMessage → Bytes → Prop}

theorem RunSafe.of_keeps {η ε : Type} {crypto : Primitives} {provider : HandshakeHandlerBuilder η}
    {ready : List AttestMessage → List HandshakeMessage → η → Prop}
    {call : Endpoint η ε → Call → Answer × Endpoint η ε} (refuses : Refuses call)
    (preserved : ∀ history session input,
      Keeps crypto config provider fromHandshake ready history session →
      Keeps crypto config provider fromHandshake ready
        (history ++ [(input, (call session input).1)]) (call session input).2)
    {session : Endpoint η ε}
    (initial : Keeps crypto config provider fromHandshake ready [] session) (calls : List Call) :
    RunSafe crypto config fromHandshake call session calls where
  opened := by
    intro encryptor attestationState handshakeState isOpened
    have keeps := Runs.invariant_from_start _ preserved initial calls
    unfold Keeps at keeps
    rw [isOpened] at keeps
    exact keeps
  dead := by
    intro isDead later
    obtain ⟨answered, stays⟩ := refuses.run isDead later
    exact ⟨answered, stays.not_isOpen⟩

theorem keeps_create {η ε : Type} {crypto : Primitives} {config : SessionConfig ε}
    {provider : HandshakeHandlerBuilder η}
    {ready : List AttestMessage → List HandshakeMessage → η → Prop} {session : Endpoint η ε}
    (created : Endpoint.create provider config = .ok session) :
    Keeps crypto config.attestationHandlerConfig provider fromHandshake ready [] session := by
  obtain ⟨attester, made, rfl⟩ := Endpoint.create_eq_ok created
  obtain ⟨endorsedEvidence, _, fields⟩ := AttestationHandler.create_eq_ok made
  rw [fields]
  exact ⟨rfl, rfl, rfl⟩

/-- Whatever the peer sends and in whatever order the calls are made: an open
session of either side has checked its peer, and a session that has failed
stays closed. -/
theorem open_session_safe {ε : Type} [Encryptor ε] (crypto : Primitives)
    (config : SessionConfig ε) (calls : List Call) :
    (∀ session, ClientSession.create crypto config = .ok session →
      RunSafe crypto config.attestationHandlerConfig
        (ClientHash crypto config.handshakeHandlerConfig) (ClientSession.call crypto) session
        calls) ∧ (∀ session, ServerSession.create config = .ok session →
      RunSafe crypto config.attestationHandlerConfig
        (ServerHash crypto config.handshakeHandlerConfig) (ServerSession.call crypto) session
        calls) := by
  constructor
  · intro session created
    exact .of_keeps (sessions_refuse crypto).1 (fun _ _ input keeps => client_call keeps input)
      (keeps_create created) calls
  · intro session created
    exact .of_keeps (sessions_refuse crypto).2 (fun _ _ input keeps => server_call keeps input)
      (keeps_create created) calls

section Transparent

open TransparentConfig

def random : Block 32 := .replicate 32 5

/-- The last message that a party's calls returned. -/
def lastMessage (history : History) : SessionMessage :=
  match history.getLast? with
  | some (_, .got (.ok (some message))) => message
  | _ => ⟨none⟩

def requestCalls : List Call :=
  [.getOutgoingMessage random, .putIncomingMessage ⟨some (.attest (offer [8]))⟩ random,
    .getOutgoingMessage random]

def responseCalls : List Call :=
  [.putIncomingMessage ⟨some (.attest (offer [7]))⟩ random, .getOutgoingMessage random,
    .putIncomingMessage (lastMessage (Runs.trace (ClientSession.call Primitives.transparent)
      (client .noiseKK [7] provides) requestCalls)) random,
    .getOutgoingMessage random]

def clientCalls : List Call :=
  requestCalls ++ [.putIncomingMessage (lastMessage (Runs.trace
    (ServerSession.call Primitives.transparent) (server .noiseKK [8] provides) responseCalls))
    random, .getOutgoingMessage random]

theorem transparent_client_safe :
    (Runs.after (ClientSession.call Primitives.transparent) (client .noiseKK [7] provides)
      clientCalls).step.IsOpen ∧ RunSafe Primitives.transparent (attestation [7])
      (ClientHash Primitives.transparent (handshake .noiseKK alice bob))
      (ClientSession.call Primitives.transparent) (client .noiseKK [7] provides) clientCalls :=
  ⟨by decide +kernel,
    (open_session_safe Primitives.transparent (session .noiseKK alice bob [7] provides)
      clientCalls).1 _ (create_client .noiseKK [7] provides)⟩

end Transparent

end Oak.Session.OpenSafety

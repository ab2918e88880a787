import Oak.Session.BindingToken
import Oak.Session.OpenSafety

namespace Oak.Session.IdleCalls

open Oak.Data Oak.Crypto

/-! Calls in the attestation step that should do nothing: a message that is refused, and a request
for a message when none is due. -/

inductive Stage where
  | attestation
  | handshake
  | opened
  | error
  | invalid
deriving Repr, DecidableEq

/-- What two runs are compared by: the step, the token that binds the attestations to the session,
and the bindings that were accepted. -/
structure Observed where
  stage : Stage
  attestationBindingToken : Option Bytes
  acceptedBindings : Option HandshakeState

variable {attester : AttestationHandler}

section Observation

variable {η ε : Type}

/-- `stateOf` is the attestation state that a handshaker holds. -/
def observe (stateOf : η → AttestationState) : Step η ε → Observed
  | .attestation attester _ _ => ⟨.attestation, some attester.attestationBindingToken, none⟩
  | .handshake handshaker _ => ⟨.handshake, some (stateOf handshaker).attestationBindingToken, none⟩
  | .opened _ attestationState handshakeState =>
    ⟨.opened, some attestationState.attestationBindingToken, some handshakeState⟩
  | .error attestationState handshakeState =>
    ⟨.error, attestationState.map AttestationState.attestationBindingToken, handshakeState⟩
  | .invalid => ⟨.invalid, none, none⟩

/-- Whatever calls follow, the run with the extra call ends as the run without it. -/
def Unaffected (stateOf : η → AttestationState)
    (call : Endpoint η ε → Call → Answer × Endpoint η ε) (session : Endpoint η ε) (extra : Call) :
    Prop :=
  ∀ later : List Call,
    observe stateOf (Runs.after call (call session extra).2 later).step =
      observe stateOf (Runs.after call session later).step

def Takes (attester : AttestationHandler) : SessionMessage → Prop
  | ⟨some (.attest message)⟩ =>
    message.encodedLen < defaultMaxAttestationSize ∧
      (attester.putIncomingMessage message).1 = .ok (some ())
  | _ => False

/-- A call in the attestation step that should do nothing.  `due` says whether the attester's own
message is to be sent. -/
inductive Idle (due : AttestationHandler → Prop) (session : Endpoint η ε) : Call → Prop
  | refused {attester : AttestationHandler} {provider : HandshakeHandlerBuilder η}
      {provideEncryptor : OrderedCrypter → Outcome AnyError ε} {message : SessionMessage}
      {random : Block 32} (step : session.step = .attestation attester provider provideEncryptor)
      (notTaken : ¬ Takes attester message) : Idle due session (.putIncomingMessage message random)
  | nothingDue {attester : AttestationHandler} {provider : HandshakeHandlerBuilder η}
      {provideEncryptor : OrderedCrypter → Outcome AnyError ε} {random : Block 32}
      (step : session.step = .attestation attester provider provideEncryptor)
      (notDue : ¬ due attester) : Idle due session (.getOutgoingMessage random)

/-- The client's message is due until it has been sent. -/
def ClientDue (attester : AttestationHandler) : Prop := attester.attestMessage.isSome

/-- The server's message is due once the client's has been received. -/
def ServerDue (attester : AttestationHandler) : Prop := attester.attestationResult.isSome

/-- An attest message is harmless if it is too large or brings no assertions. -/
def HarmlessMessage : SessionMessage → Prop
  | ⟨some (.attest message)⟩ =>
    message.encodedLen < defaultMaxAttestationSize → message.assertions = .empty
  | _ => True

/-- The party has no assertions of its own. -/
def NoAssertions (session : Endpoint η ε) : Prop :=
  ∀ attester provider provideEncryptor,
    session.step = .attestation attester provider provideEncryptor →
    attester.bindableAssertions = .empty

/-- `harmlessRequest` says when a request for a message is harmless. -/
def HarmlessCall (harmlessRequest : Prop) : Call → Prop
  | .putIncomingMessage message _ => HarmlessMessage message
  | .getOutgoingMessage _ => harmlessRequest
  | _ => True

variable {stateOf : η → AttestationState}
  {call : Endpoint η ε → Call → Answer × Endpoint η ε} {session : Endpoint η ε} {extra : Call}

theorem unaffected_of_same (same : (call session extra).2 = session) :
    Unaffected stateOf call session extra := by
  intro later
  rw [same]

theorem Unaffected.observe_eq (unaffected : Unaffected stateOf call session extra) :
    observe stateOf (call session extra).2.step = observe stateOf session.step :=
  unaffected []

theorem unaffected_iff_of_extends {provider : HandshakeHandlerBuilder η} {provideEncryptor : OrderedCrypter → Outcome AnyError ε}
    {extension : Bytes} (current : session.step = .attestation attester provider provideEncryptor)
    (extended : (call session extra).2 = { session with
      step := .attestation { attester with
        attestationBindingToken := attester.attestationBindingToken ++ extension }
        provider provideEncryptor }) :
    Unaffected stateOf call session extra ↔ extension = [] := by
  obtain ⟨step, outgoing, incoming⟩ := session
  obtain rfl : step = _ := current
  constructor
  · intro unaffected
    have observed := unaffected.observe_eq
    rw [extended] at observed
    simpa [observe] using observed
  · rintro rfl
    apply unaffected_of_same
    rw [extended, List.append_nil]

end Observation

theorem serializeAssertions_eq_nil_iff {assertions : BTreeMap String Assertion} :
    serializeAssertions assertions = [] ↔ assertions = .empty := by
  refine ⟨BindingToken.serializeAssertions_eq_nil, ?_⟩
  rintro rfl
  rfl

theorem assertionsOf_eq_empty_iff {bindableAssertions : BTreeMap String BindableAssertion} :
    AttestationHandler.assertionsOf bindableAssertions = .empty ↔ bindableAssertions = .empty := by
  constructor
  · intro nothing
    apply BTreeMap.eq_empty_of_keys
    rw [← BTreeMap.keys_mapValues fun _ bindable => BindableAssertion.assertion bindable]
    exact congrArg BTreeMap.keys nothing
  · rintro rfl
    rfl

theorem putIncomingMessage_refused {message : AttestMessage}
    (refused : (attester.putIncomingMessage message).1 ≠ .ok (some ())) :
    (attester.putIncomingMessage message).2 = { attester with
      attestationBindingToken := attester.attestationBindingToken ++
        serializeAssertions message.assertions } := by
  revert refused
  rw [AttestationHandler.putIncomingMessage]
  split
  · exact fun _ => rfl
  · split
    · exact fun _ => rfl
    · exact fun refused => (refused rfl).elim

section Sessions

variable {η ε : Type} {stateOf : η → AttestationState}
  {call : Endpoint η ε → Call → Answer × Endpoint η ε}
  {attester : AttestationHandler} {provider : HandshakeHandlerBuilder η}
  {provideEncryptor : OrderedCrypter → Outcome AnyError ε}

/-- How the attestation step of either side treats a message that is not taken. -/
def Dismisses (call : Endpoint η ε → Call → Answer × Endpoint η ε) : Prop :=
  ∀ session attester provider provideEncryptor message random,
    session.step = .attestation attester provider provideEncryptor → ¬ Takes attester message →
    (call session (.putIncomingMessage message random)).2 =
      match message with
      | ⟨some (.attest message)⟩ =>
        if message.encodedLen < defaultMaxAttestationSize then
          { session with
            step := .attestation (attester.putIncomingMessage message).2 provider
              provideEncryptor }
        else session
      | _ => session

theorem sessions_dismiss [Encryptor ε] (crypto : Primitives) :
    Dismisses (ClientSession.call crypto : ClientSession ε → Call → Answer × ClientSession ε) ∧
      Dismisses (ServerSession.call crypto : ServerSession ε → Call → Answer × ServerSession ε) := by
  constructor
  all_goals
    rintro ⟨step, outgoing, incoming⟩ attester provider provideEncryptor ⟨content⟩ random current
      notTaken
    obtain rfl : step = _ := current
    rcases content with _ | message | message | message
    · rfl
    · by_cases small : message.encodedLen < defaultMaxAttestationSize
      · have refused : (attester.putIncomingMessage message).1 ≠ .ok (some ()) :=
          fun taken => notTaken ⟨small, taken⟩
        simp only [ClientSession.call, ClientSession.putIncomingMessage, ServerSession.call,
          ServerSession.putIncomingMessage, if_pos small]
        rcases put : attester.putIncomingMessage message with ⟨fault | _ | _, next⟩
        · rfl
        · rfl
        · exact (refused (by rw [put])).elim
      · simp only [ClientSession.call, ClientSession.putIncomingMessage, ServerSession.call,
          ServerSession.putIncomingMessage, if_neg small]
    · rfl
    · rfl

theorem refused_unaffected_iff {session : Endpoint η ε} {message : SessionMessage}
    {random : Block 32} (dismisses : Dismisses call)
    (current : session.step = .attestation attester provider provideEncryptor)
    (notTaken : ¬ Takes attester message) :
    Unaffected stateOf call session (.putIncomingMessage message random) ↔
      HarmlessMessage message := by
  have dismissed := dismisses session attester provider provideEncryptor message random current
    notTaken
  rcases message with ⟨_ | message | message | message⟩
  · exact iff_of_true (unaffected_of_same dismissed) trivial
  · by_cases small : message.encodedLen < defaultMaxAttestationSize
    · dsimp only at dismissed
      rw [if_pos small, putIncomingMessage_refused fun taken => notTaken ⟨small, taken⟩]
        at dismissed
      rw [unaffected_iff_of_extends current dismissed, serializeAssertions_eq_nil_iff]
      exact ⟨fun nothing _ => nothing, fun harmless => harmless small⟩
    · dsimp only at dismissed
      rw [if_neg small] at dismissed
      exact iff_of_true (unaffected_of_same dismissed) fun tooSmall => (small tooSmall).elim
  · exact iff_of_true (unaffected_of_same dismissed) trivial
  · exact iff_of_true (unaffected_of_same dismissed) trivial

end Sessions

section Client

variable {ε : Type} [Encryptor ε] {crypto : Primitives} {session : ClientSession ε}

theorem client_request_unaffected_iff {provider : HandshakeHandlerBuilder ClientHandshakeHandler}
    {provideEncryptor : OrderedCrypter → Outcome AnyError ε} {random : Block 32}
    (current : session.step = .attestation attester provider provideEncryptor)
    (notDue : ¬ ClientDue attester) :
    Unaffected ClientHandshakeHandler.attestationState (ClientSession.call crypto) session
      (.getOutgoingMessage random) ↔ NoAssertions session := by
  have nothing : attester.attestMessage = none := by simpa [ClientDue] using notDue
  have extended : (ClientSession.call crypto session (.getOutgoingMessage random)).2 =
      { session with
        step := .attestation { attester with
          attestationBindingToken := attester.attestationBindingToken ++
            serializeAssertions (AttestationHandler.assertionsOf attester.bindableAssertions) }
          provider provideEncryptor } := by
    simp only [ClientSession.call, ClientSession.getOutgoingMessage, current,
      AttestationHandler.getOutgoingMessage, nothing]
  rw [unaffected_iff_of_extends current extended, serializeAssertions_eq_nil_iff,
    assertionsOf_eq_empty_iff]
  constructor
  · intro none attester' provider' provideEncryptor' same
    obtain ⟨rfl, -⟩ := Step.attestation.inj (current.symm.trans same)
    exact none
  · intro none
    exact none _ _ _ current

end Client

section Server

variable {ε : Type} {crypto : Primitives} {session : ServerSession ε}

/-- In the attestation step the server's response has not been taken. -/
def Offers : Step ServerHandshakeHandler ε → Prop
  | .attestation attester _ _ => attester.attestMessage.isSome
  | _ => True

variable {step : Step ServerHandshakeHandler ε}

theorem offers_of_isDead (isDead : step.IsDead) : Offers step := by
  rcases isDead.cases with ⟨attestationState, handshakeState, rfl⟩ | rfl
  · trivial
  · trivial

theorem offers_next {random : Block 32}
    {result : Outcome AnyError Unit × Step ServerHandshakeHandler ε}
    (next : Step.NextStep crypto random step result) : Offers result.2 := by
  cases next with
  | toHandshake | toOpened => trivial
  | failed fault isDead => exact offers_of_isDead isDead

theorem offers_advance {α : Type} (session : ServerSession ε) (random : Block 32) (result : α) :
    Offers (session.advance crypto random result).2.step := by
  obtain ⟨outcome, step, next, advanced⟩ := session.advance_cases crypto random result
  rw [advanced]
  exact offers_next next

theorem putIncomingMessage_attestMessage (attester : AttestationHandler) (message : AttestMessage) :
    (attester.putIncomingMessage message).2.attestMessage = attester.attestMessage := by
  rw [AttestationHandler.putIncomingMessage]
  split
  · rfl
  · split
    · rfl
    · rfl

theorem offers_getOutgoingMessage (offers : Offers session.step) (random : Block 32) :
    Offers (ServerSession.getOutgoingMessage crypto session random).2.step := by
  obtain ⟨step, outgoing, incoming⟩ := session
  cases step with
  | attestation attester provider provideEncryptor =>
    obtain ⟨message, offered⟩ := Option.isSome_iff_exists.mp offers
    simp only [ServerSession.getOutgoingMessage, AttestationHandler.getOutgoingMessage, offered]
    exact offers_advance _ _ _
  | handshake handshaker provideEncryptor =>
    simp only [ServerSession.getOutgoingMessage, ServerHandshakeHandler.getOutgoingMessage]
    split
    · exact offers_advance _ _ _
    · trivial
  | opened | error | invalid => trivial

theorem offers_putIncomingMessage (offers : Offers session.step) (message : SessionRequest)
    (random : Block 32) :
    Offers (ServerSession.putIncomingMessage crypto session message random).2.step := by
  obtain ⟨step, outgoing, incoming⟩ := session
  unfold ServerSession.putIncomingMessage
  split
  · rename_i message attester provider provideEncryptor offered current
    subst current
    have kept : (attester.putIncomingMessage message).2.attestMessage.isSome := by
      rw [putIncomingMessage_attestMessage]
      exact offers
    dsimp only
    split
    · rcases put : attester.putIncomingMessage message with ⟨fault | _ | _, next⟩
      all_goals
        rw [put] at kept
        exact kept
    · exact offers
  · rename_i message handshaker provideEncryptor offered current
    rcases handshaker.putIncomingMessage crypto message random with ⟨fault | _ | _, next⟩
    all_goals trivial
  · rwa [Endpoint.pushIncoming_step]
  · exact offers

theorem offers_call [Encryptor ε] (offers : Offers session.step) (call : Call) :
    Offers (ServerSession.call crypto session call).2.step := by
  cases call with
  | putIncomingMessage message random => exact offers_putIncomingMessage offers message random
  | getOutgoingMessage random => exact offers_getOutgoingMessage offers random
  | write plaintext => exact Endpoint.write_kept id offers plaintext
  | read => exact Endpoint.readFrom_kept id offers "SessionRequest"

theorem offers_create {config : SessionConfig ε}
    (created : ServerSession.create config = .ok session) : Offers session.step := by
  obtain ⟨attester, made, rfl⟩ := Endpoint.create_eq_ok created
  obtain ⟨endorsedEvidence, _, fields⟩ := AttestationHandler.create_eq_ok made
  rw [fields]
  rfl

theorem server_request_affects [Encryptor ε]
    {provider : HandshakeHandlerBuilder ServerHandshakeHandler}
    {provideEncryptor : OrderedCrypter → Outcome AnyError ε} {random : Block 32}
    (offers : Offers session.step)
    (current : session.step = .attestation attester provider provideEncryptor)
    (notDue : ¬ ServerDue attester) :
    ¬ Unaffected ServerHandshakeHandler.attestationState (ServerSession.call crypto) session
      (.getOutgoingMessage random) := by
  intro unaffected
  have nothing : attester.attestationResult = none := by simpa [ServerDue] using notDue
  rw [current] at offers
  obtain ⟨message, offered⟩ := Option.isSome_iff_exists.mp offers
  have observed := unaffected.observe_eq
  simp [ServerSession.call, ServerSession.getOutgoingMessage, current,
    AttestationHandler.getOutgoingMessage, offered, Endpoint.advance, Step.next,
    AttestationHandler.takeAttestationState, nothing, Outcome.err, observe] at observed

end Server

/-- In every reachable session of either side. -/
theorem idle_unaffected_iff {ε : Type} [Encryptor ε] (crypto : Primitives)
    (config : SessionConfig ε) (earlier : List Call) (extra : Call) :
    (∀ session, ClientSession.create crypto config = .ok session →
      Idle ClientDue (Runs.after (ClientSession.call crypto) session earlier) extra →
      (Unaffected ClientHandshakeHandler.attestationState (ClientSession.call crypto)
          (Runs.after (ClientSession.call crypto) session earlier) extra ↔
        HarmlessCall (NoAssertions (Runs.after (ClientSession.call crypto) session earlier))
          extra)) ∧ (∀ session, ServerSession.create config = .ok session →
      Idle ServerDue (Runs.after (ServerSession.call crypto) session earlier) extra →
      (Unaffected ServerHandshakeHandler.attestationState (ServerSession.call crypto)
          (Runs.after (ServerSession.call crypto) session earlier) extra ↔
        HarmlessCall False extra)) := by
  constructor
  · intro session created idle
    cases idle with
    | refused current notTaken =>
      exact refused_unaffected_iff (sessions_dismiss crypto).1 current notTaken
    | nothingDue current notDue => exact client_request_unaffected_iff current notDue
  · intro session created idle
    cases idle with
    | refused current notTaken =>
      exact refused_unaffected_iff (sessions_dismiss crypto).2 current notTaken
    | nothingDue current notDue =>
      have offers : Offers (Runs.after (ServerSession.call crypto) session earlier).step :=
        Runs.state_invariant (fun session : ServerSession ε => Offers session.step)
          (fun _ input offers => offers_call offers input) (offers_create created) earlier
      exact iff_of_false (server_request_affects offers current notDue) id

section Transparent

open TransparentConfig
open OpenSafety (random)

def attested : ServerSession TransparentEncryptor :=
  Runs.after (ServerSession.call Primitives.transparent) (server .noiseKK [8] provides)
    [.putIncomingMessage ⟨some (.attest (offer [7]))⟩ random]

theorem attested_current : ∃ attester, attested.step = .attestation attester
      (serverHandshakeHandlerBuilder (handshake .noiseKK bob alice)) provides ∧
    attester.attestationResult.isSome := ⟨_, rfl, rfl⟩

theorem not_takes_of_answered {message : AttestMessage}
    (answered : attester.attestationResult.isSome) : ¬ Takes attester ⟨some (.attest message)⟩ := by
  rintro ⟨-, taken⟩
  rw [AttestationHandler.putIncomingMessage, if_pos answered] at taken
  cases taken

/-- A surplus message without assertions. -/
theorem bare_surplus_unaffected :
    Unaffected ServerHandshakeHandler.attestationState (ServerSession.call Primitives.transparent)
      attested (.putIncomingMessage ⟨some (.attest ⟨.empty, .empty⟩)⟩ random) := by
  obtain ⟨attester, current, answered⟩ := attested_current
  exact ((idle_unaffected_iff Primitives.transparent (session .noiseKK bob alice [8] provides)
    [.putIncomingMessage ⟨some (.attest (offer [7]))⟩ random] _).2 _
    (create_server .noiseKK [8] provides)
    (.refused current (not_takes_of_answered answered))).mpr fun _ => rfl

/-- The client's message twice: the second is refused, and the server's token changes. -/
theorem repeated_message_affects :
    Idle ServerDue attested (.putIncomingMessage ⟨some (.attest (offer [7]))⟩ random) ∧
    ¬ Unaffected ServerHandshakeHandler.attestationState
      (ServerSession.call Primitives.transparent) attested
      (.putIncomingMessage ⟨some (.attest (offer [7]))⟩ random) := by
  obtain ⟨attester, current, answered⟩ := attested_current
  refine ⟨.refused current (not_takes_of_answered answered), ?_⟩
  intro unaffected
  have observed := congrArg Observed.attestationBindingToken unaffected.observe_eq
  revert observed
  decide +kernel

end Transparent

end Oak.Session.IdleCalls

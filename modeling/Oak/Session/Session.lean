import Oak.Session.Handshake

namespace Oak.Session

open Oak.Data Oak.Crypto

/-! The session state machine of `session.rs`. -/

def defaultMaxMessageQueueLen : Nat := 1000

def defaultMaxAttestationSize : Nat := 5 * 1024 * 1024

class HandshakeHandler (η : Type) where
  takeHandshakeResult : η → Outcome AnyError (HandshakeResult × AttestationState)
  isHandshakeComplete : η → Bool

instance : HandshakeHandler ClientHandshakeHandler where
  takeHandshakeResult := ClientHandshakeHandler.takeHandshakeResult
  isHandshakeComplete := ClientHandshakeHandler.isHandshakeComplete

instance : HandshakeHandler ServerHandshakeHandler where
  takeHandshakeResult := ServerHandshakeHandler.takeHandshakeResult
  isHandshakeComplete := ServerHandshakeHandler.isHandshakeComplete

/-- `HandshakeHandlerBuilder::build`, with the random bytes it may draw. -/
abbrev HandshakeHandlerBuilder (η : Type) :=
  (expectPeerBindings : Bool) → AttestationState → (random : Block 32) → Outcome AnyError η

def clientHandshakeHandlerBuilder (crypto : Primitives) (config : HandshakeHandlerConfig) :
    HandshakeHandlerBuilder ClientHandshakeHandler :=
  fun _ attestationState random =>
    ClientHandshakeHandler.create crypto config attestationState random

def serverHandshakeHandlerBuilder (config : HandshakeHandlerConfig) :
    HandshakeHandlerBuilder ServerHandshakeHandler :=
  fun expectPeerBindings attestationState _ =>
    .ok (ServerHandshakeHandler.new config expectPeerBindings attestationState)

inductive Step (η ε : Type) where
  | attestation (attester : AttestationHandler)
      (handshakeHandlerProvider : HandshakeHandlerBuilder η)
      (provideEncryptor : OrderedCrypter → Outcome AnyError ε)
  | handshake (handshaker : η) (provideEncryptor : OrderedCrypter → Outcome AnyError ε)
  | opened (encryptor : ε) (attestationState : AttestationState) (handshakeState : HandshakeState)
  | error (attestationState : Option AttestationState) (handshakeState : Option HandshakeState)
  | invalid

def verifySessionBinding (bindingVerifiers : BTreeMap String SessionBindingVerifier)
    (bindings : BTreeMap String SessionBinding) (handshakeBindingToken : Bytes) :
    Except AnyError Unit :=
  bindingVerifiers.entries.forM fun (id, verifyBinding) =>
    match bindings.get? id with
    | none => .error s!"peer hasn't sent a session binding for ID {id}"
    | some binding => verifyBinding handshakeBindingToken binding.binding

/-- The context text of a failed binding does not interpolate the id. -/
def verifyAssertionSessionBinding (crypto : Primitives)
    (verifiedBoundAssertions : BTreeMap String BoundAssertionVerifierResult)
    (assertionBindings : BTreeMap String SessionBinding)
    (attestationBindingToken handshakeHash : Bytes) : Except AnyError Unit :=
  let assertionBoundData :=
    createSessionBindingToken crypto attestationBindingToken handshakeHash
  verifiedBoundAssertions.entries.forM fun (id, result) =>
    match result with
    | .success assertion =>
      match assertionBindings.get? id with
      | none => .error s!"peer hasn't sent an assertion binding for ID {id}"
      | some binding =>
        match assertion.verifyBinding assertionBoundData binding with
        | .ok () => .ok ()
        | .error error => .error
            ("couldn't verify the assertion binding for ID \x7bid\x7d: " ++ error.display)
    | _ => .ok ()

namespace Step

variable {η ε : Type} [HandshakeHandler η]

def IsOpen : Step η ε → Prop
  | opened _ _ _ => True
  | _ => False

instance (step : Step η ε) : Decidable step.IsOpen :=
  match step with
  | opened _ _ _ => .isTrue trivial
  | attestation _ _ _ => .isFalse id
  | handshake _ _ => .isFalse id
  | error _ _ => .isFalse id
  | invalid => .isFalse id

/-- The session is replaced by `invalid` first, so that is what a panic and the
early return of a failed encryptor leave behind. -/
def next (crypto : Primitives) (step : Step η ε) (random : Block 32) :
    Outcome AnyError Unit × Step η ε :=
  match step with
  | attestation attester handshakeHandlerProvider provideEncryptor =>
    match attester.takeAttestationState with
    | .error (.panic message) => (.panic message, invalid)
    | .error (.error reason) =>
      (.err ("retrieving attestation state failed: " ++ reason), error none none)
    | .ok attestationState =>
      match attestationState.peerAttestationVerdict with
      | .attestationFailed reason _ _ =>
        (.err ("attestation failed: " ++ debugString reason),
          error (some attestationState) none)
      | .attestationPassed _ _ =>
        match handshakeHandlerProvider
            attestationState.peerAttestationVerdict.needsSessionBindings
            attestationState random with
        | .error (.panic message) => (.panic message, invalid)
        | .error (.error reason) => (.err reason, error none none)
        | .ok handshaker => (.ok (), handshake handshaker provideEncryptor)
  | handshake handshaker provideEncryptor =>
    match HandshakeHandler.takeHandshakeResult handshaker with
    | .error (.panic message) => (.panic message, invalid)
    | .error (.error reason) => (.err reason, error none none)
    | .ok (handshakeResult, attestationState) =>
      let handshakeState := handshakeResult.handshakeState
      match verifySessionBinding attestationState.peerSessionBindingVerifiers
          handshakeState.peerSessionBindings handshakeState.handshakeBindingToken with
      | .error reason => (.err reason, error (some attestationState) (some handshakeState))
      | .ok () =>
        match verifyAssertionSessionBinding crypto
            attestationState.peerAttestationVerdict.getAssertionVerificationResults
            handshakeState.peerAssertionBindings attestationState.attestationBindingToken
            handshakeState.handshakeBindingToken with
        | .error reason =>
          (.err reason, error (some attestationState) (some handshakeState))
        | .ok () =>
          match provideEncryptor handshakeResult.crypter with
          | .error fault => (.error fault, invalid)
          | .ok encryptor => (.ok (), opened encryptor attestationState handshakeState)
  | opened _ _ _ => (.err "there is no next step when the session is open", invalid)
  | invalid => (.err "session is currently in an invalid state", invalid)
  | error _ _ => (.err "session initialization already failed", invalid)

end Step

/-- `ClientSession` and `ServerSession`: the step and the two queues. -/
structure Endpoint (η ε : Type) where
  step : Step η ε
  outgoing : List SessionMessage
  incoming : List SessionMessage

abbrev ClientSession (ε : Type) := Endpoint ClientHandshakeHandler ε

abbrev ServerSession (ε : Type) := Endpoint ServerHandshakeHandler ε

namespace Endpoint

variable {η ε : Type} [HandshakeHandler η] [Encryptor ε]

def create (handshakeHandlerProvider : HandshakeHandlerBuilder η) (config : SessionConfig ε) :
    Except AnyError (Endpoint η ε) := do
  let attester ← AttestationHandler.create config.attestationHandlerConfig
  return {
    step := .attestation attester handshakeHandlerProvider config.provideEncryptor
    outgoing := []
    incoming := [] }

/-- The queue is checked before the plaintext is encrypted. -/
def write (session : Endpoint η ε) (plaintext : PlaintextMessage) :
    Outcome AnyError Unit × Endpoint η ε :=
  match session.step with
  | .opened encryptor attestationState handshakeState =>
    if session.outgoing.length < defaultMaxMessageQueueLen then
      match Encryptor.encrypt encryptor (.ofPlaintext plaintext) with
      | (.error fault, encryptor) =>
        (.error (fault.map ("encrypting plaintext: " ++ ·)),
          { session with step := .opened encryptor attestationState handshakeState })
      | (.ok payload, encryptor) =>
        (.ok (), { session with
          step := .opened encryptor attestationState handshakeState
          outgoing := session.outgoing ++ [⟨some (.encrypted payload.toEncrypted)⟩] })
    else (.err "Message queue limit exceeded", session)
  | _ => (.err "the session is not open", session)

/-- The message is removed from the queue before it is decrypted. -/
def readFrom (messageName : String) (session : Endpoint η ε) :
    Outcome AnyError (Option PlaintextMessage) × Endpoint η ε :=
  match session.step with
  | .opened encryptor attestationState handshakeState =>
    match session.incoming with
    | [] => (.ok none, session)
    | ⟨some (.encrypted message)⟩ :: incoming =>
      match Encryptor.decrypt encryptor (.ofEncrypted message) with
      | (.error fault, encryptor) =>
        (.error (fault.map ("decrypting plaintext: " ++ ·)), { session with
          step := .opened encryptor attestationState handshakeState
          incoming })
      | (.ok payload, encryptor) =>
        (.ok (some payload.toPlaintext), { session with
          step := .opened encryptor attestationState handshakeState
          incoming })
    | _ :: incoming =>
      (.err s!"unexpected content of {messageName}: no encrypted message set",
        { session with incoming })
  | _ => (.err "the session is not open", session)

/-- `pop_front` of the outgoing queue. -/
def popOutgoing (session : Endpoint η ε) :
    Outcome AnyError (Option SessionMessage) × Endpoint η ε :=
  (.ok session.outgoing.head?, { session with outgoing := session.outgoing.tail })

def pushIncoming (session : Endpoint η ε) (message : SessionMessage) :
    Outcome AnyError (Option Unit) × Endpoint η ε :=
  if session.incoming.length < defaultMaxMessageQueueLen then
    (.ok (some ()), { session with incoming := session.incoming ++ [message] })
  else (.err "Message queue limit exceeded", session)

/-- `self.step.next()?` followed by a result. -/
def advance {α : Type} (crypto : Primitives) (session : Endpoint η ε) (random : Block 32)
    (result : α) : Outcome AnyError α × Endpoint η ε :=
  match session.step.next crypto random with
  | (.error fault, step) => (.error fault, { session with step })
  | (.ok (), step) => (.ok result, { session with step })

end Endpoint

namespace ClientSession

variable {ε : Type} [Encryptor ε]

def create (crypto : Primitives) (config : SessionConfig ε) : Except AnyError (ClientSession ε) :=
  Endpoint.create (clientHandshakeHandlerBuilder crypto config.handshakeHandlerConfig) config

def read (session : ClientSession ε) :
    Outcome AnyError (Option PlaintextMessage) × ClientSession ε :=
  Endpoint.readFrom "SessionResponse" session

def getOutgoingMessage (crypto : Primitives) (session : ClientSession ε) (random : Block 32) :
    Outcome AnyError (Option SessionRequest) × ClientSession ε :=
  match session.step with
  | .attestation attester provider provideEncryptor =>
    match attester.getOutgoingMessage with
    | (.error fault, attester) =>
      (.error fault, { session with step := .attestation attester provider provideEncryptor })
    | (.ok (some message), attester) =>
      (.ok (some ⟨some (.attest message)⟩),
        { session with step := .attestation attester provider provideEncryptor })
    | (.ok none, attester) =>
      (.err "attestation not yet complete but there are no outgoing messages",
        { session with step := .attestation attester provider provideEncryptor })
  | .handshake handshaker provideEncryptor =>
    match handshaker.getOutgoingMessage with
    | (.error fault, handshaker) =>
      (.error fault, { session with step := .handshake handshaker provideEncryptor })
    | (.ok (some message), handshaker) =>
      let sent := { session with step := .handshake handshaker provideEncryptor }
      if handshaker.isHandshakeComplete then
        sent.advance crypto random (some ⟨some (.handshake message)⟩)
      else (.ok (some ⟨some (.handshake message)⟩), sent)
    | (.ok none, handshaker) =>
      Endpoint.popOutgoing
        { session with step := .handshake handshaker provideEncryptor }
  | .opened _ _ _ => session.popOutgoing
  | .invalid | .error _ _ => (.err "session is in an invalid state", session)

def putIncomingMessage (crypto : Primitives) (session : ClientSession ε)
    (incomingMessage : SessionResponse) (random : Block 32) :
    Outcome AnyError (Option Unit) × ClientSession ε :=
  match incomingMessage.content, session.step with
  | some (.attest message), .attestation attester provider provideEncryptor =>
    let messageSize := message.encodedLen
    if messageSize < defaultMaxAttestationSize then
      match attester.putIncomingMessage message with
      | (.error fault, attester) =>
        (.error fault,
          { session with step := .attestation attester provider provideEncryptor })
      | (.ok none, attester) =>
        (.err ("invalid session state: attest message received but attester " ++
            "doesn't expect\n                     any"),
          { session with step := .attestation attester provider provideEncryptor })
      | (.ok (some ()), attester) =>
        Endpoint.advance crypto
          { session with step := .attestation attester provider provideEncryptor }
          random (some ())
    else (.err s!"Max attest message size exceeded, actual size: {messageSize}", session)
  | some (.handshake message), .handshake handshaker provideEncryptor =>
    match handshaker.putIncomingMessage crypto message with
    | (.error fault, handshaker) =>
      (.error fault, { session with step := .handshake handshaker provideEncryptor })
    | (.ok none, handshaker) =>
      (.err ("invalid session state: handshake message received but handshaker " ++
          "doesn't\n                     expect any"),
        { session with step := .handshake handshaker provideEncryptor })
    | (.ok (some ()), handshaker) =>
      let received := { session with step := .handshake handshaker provideEncryptor }
      if handshaker.isHandshakeComplete then received.advance crypto random (some ())
      else (.ok (some ()), received)
  | some (.encrypted _), .opened _ _ _ => session.pushIncoming incomingMessage
  | _, _ => (.err "unexpected content of session response", session)

end ClientSession

namespace ServerSession

variable {ε : Type} [Encryptor ε]

def create (config : SessionConfig ε) : Except AnyError (ServerSession ε) :=
  Endpoint.create (serverHandshakeHandlerBuilder config.handshakeHandlerConfig) config

def read (session : ServerSession ε) :
    Outcome AnyError (Option PlaintextMessage) × ServerSession ε :=
  Endpoint.readFrom "SessionRequest" session

def getOutgoingMessage (crypto : Primitives) (session : ServerSession ε) (random : Block 32) :
    Outcome AnyError (Option SessionResponse) × ServerSession ε :=
  match session.step with
  | .attestation attester provider provideEncryptor =>
    match attester.getOutgoingMessage with
    | (.error fault, attester) =>
      (.error fault, { session with step := .attestation attester provider provideEncryptor })
    | (.ok (some message), attester) =>
      Endpoint.advance crypto
        { session with step := .attestation attester provider provideEncryptor }
        random (some ⟨some (.attest message)⟩)
    | (.ok none, attester) =>
      (.err "attestation not yet completed but there are no outgoing messages",
        { session with step := .attestation attester provider provideEncryptor })
  | .handshake handshaker provideEncryptor =>
    match handshaker.getOutgoingMessage with
    | (.error fault, handshaker) =>
      (.error fault, { session with step := .handshake handshaker provideEncryptor })
    | (.ok response, handshaker) =>
      let sent := { session with step := .handshake handshaker provideEncryptor }
      let message := response.map fun message => ⟨some (.handshake message)⟩
      if handshaker.isHandshakeComplete then sent.advance crypto random message
      else (.ok message, sent)
  | .opened _ _ _ => session.popOutgoing
  | .invalid | .error _ _ => (.err "session is in an invalid state", session)

def putIncomingMessage (crypto : Primitives) (session : ServerSession ε)
    (incomingMessage : SessionRequest) (random : Block 32) :
    Outcome AnyError (Option Unit) × ServerSession ε :=
  match incomingMessage.content, session.step with
  | some (.attest message), .attestation attester provider provideEncryptor =>
    let messageSize := message.encodedLen
    if messageSize < defaultMaxAttestationSize then
      match attester.putIncomingMessage message with
      | (.error fault, attester) =>
        (.error fault,
          { session with step := .attestation attester provider provideEncryptor })
      | (.ok none, attester) =>
        (.err ("invalid session state: attest message received but attester " ++
            "doesn't expect any"),
          { session with step := .attestation attester provider provideEncryptor })
      | (.ok (some ()), attester) =>
        (.ok (some ()),
          { session with step := .attestation attester provider provideEncryptor })
    else (.err s!"Max attest message size exceeded, actual size: {messageSize}", session)
  | some (.handshake message), .handshake handshaker provideEncryptor =>
    match handshaker.putIncomingMessage crypto message random with
    | (.error fault, handshaker) =>
      (.error fault, { session with step := .handshake handshaker provideEncryptor })
    | (.ok none, handshaker) =>
      (.err ("invalid session state: handshake message received but handshaker " ++
          "doesn't\n                     expect any"),
        { session with step := .handshake handshaker provideEncryptor })
    | (.ok (some ()), handshaker) =>
      (.ok (some ()), { session with step := .handshake handshaker provideEncryptor })
  | some (.encrypted _), .opened _ _ _ => session.pushIncoming incomingMessage
  | _, _ => (.err "unexpected content of session request", session)

end ServerSession

/-- The calls of the `Session` and `ProtocolEngine` traits.  A call that may
draw random bytes carries them. -/
inductive Call where
  | putIncomingMessage (message : SessionMessage) (random : Block 32)
  | getOutgoingMessage (random : Block 32)
  | write (plaintext : PlaintextMessage)
  | read

inductive Answer where
  | put (result : Outcome AnyError (Option Unit))
  | got (result : Outcome AnyError (Option SessionMessage))
  | wrote (result : Outcome AnyError Unit)
  | read (result : Outcome AnyError (Option PlaintextMessage))

def Answer.IsErr : Answer → Prop
  | put result => Outcome.IsErr result
  | got result => Outcome.IsErr result
  | wrote result => Outcome.IsErr result
  | read result => Outcome.IsErr result

def Answer.IsOk : Answer → Prop
  | put (.ok _) => True
  | got (.ok _) => True
  | wrote (.ok _) => True
  | read (.ok _) => True
  | _ => False

instance (answer : Answer) : Decidable answer.IsOk :=
  match answer with
  | .put (.ok _) => .isTrue trivial
  | .got (.ok _) => .isTrue trivial
  | .wrote (.ok _) => .isTrue trivial
  | .read (.ok _) => .isTrue trivial
  | .put (.error _) => .isFalse id
  | .got (.error _) => .isFalse id
  | .wrote (.error _) => .isFalse id
  | .read (.error _) => .isFalse id

section Calls

variable {ε : Type} [Encryptor ε]

def ClientSession.call (crypto : Primitives) (session : ClientSession ε) :
    Call → Answer × ClientSession ε
  | .putIncomingMessage message random =>
    let (result, next) := ClientSession.putIncomingMessage crypto session message random
    (.put result, next)
  | .getOutgoingMessage random =>
    let (result, next) := ClientSession.getOutgoingMessage crypto session random
    (.got result, next)
  | .write plaintext =>
    let (result, next) := session.write plaintext
    (.wrote result, next)
  | .read =>
    let (result, next) := ClientSession.read session
    (.read result, next)

def ServerSession.call (crypto : Primitives) (session : ServerSession ε) :
    Call → Answer × ServerSession ε
  | .putIncomingMessage message random =>
    let (result, next) := ServerSession.putIncomingMessage crypto session message random
    (.put result, next)
  | .getOutgoingMessage random =>
    let (result, next) := ServerSession.getOutgoingMessage crypto session random
    (.got result, next)
  | .write plaintext =>
    let (result, next) := session.write plaintext
    (.wrote result, next)
  | .read =>
    let (result, next) := ServerSession.read session
    (.read result, next)

end Calls

end Oak.Session

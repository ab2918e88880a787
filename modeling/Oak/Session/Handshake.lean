import Oak.Session.Attestation

namespace Oak.Session

open Oak.Data Oak.Crypto

/-! The handshake step of `handshake.rs`.  The random bytes that a call draws
for an ephemeral key are an argument of the call. -/

def sessionBindingInfoString : Bytes :=
  Protobuf.utf8 "04abb564-eeb9-42b7-8091-4d67cdb4d536"

def createSessionBindingToken (crypto : Primitives)
    (attestationBindingToken handshakeHash : Bytes) : Bytes :=
  (crypto.sha256 (attestationBindingToken ++ handshakeHash ++ sessionBindingInfoString)).toList

structure HandshakeState where
  handshakeBindingToken : Bytes
  peerSessionBindings : BTreeMap String SessionBinding
  peerAssertionBindings : BTreeMap String SessionBinding

structure HandshakeResult where
  crypter : OrderedCrypter
  handshakeState : HandshakeState

def NoiseHandshakeMessage.toNoise (message : NoiseHandshakeMessage) : NoiseMessage where
  ephemeralPublicKey := message.ephemeralPublicKey
  ciphertext := message.ciphertext

def NoiseHandshakeMessage.ofNoise (message : NoiseMessage) : NoiseHandshakeMessage where
  ephemeralPublicKey := message.ephemeralPublicKey
  staticPublicKey := []
  ciphertext := message.ciphertext

/-- The bindings of the legacy evidence: each binder signs the handshake hash. -/
def bindSession (sessionBinders : BTreeMap String SessionBinder) (handshakeHash : Bytes) :
    BTreeMap String SessionBinding :=
  sessionBinders.mapValues fun _ bind => { binding := bind handshakeHash }

def bindAssertions (crypto : Primitives) (attestationState : AttestationState)
    (handshakeHash : Bytes) : Except AnyError (BTreeMap String SessionBinding) :=
  attestationState.selfAssertions.mapM fun _ assertion =>
    assertion.bind (createSessionBindingToken crypto attestationState.attestationBindingToken
      handshakeHash)

structure ClientHandshakeHandler where
  handshakeInitiator : HandshakeInitiator
  sessionBinders : BTreeMap String SessionBinder
  attestationState : AttestationState
  initialMessage : Option HandshakeRequest
  followupMessage : Option HandshakeRequest
  handshakeResult : Option HandshakeResult

namespace ClientHandshakeHandler

def peerPublicKey (config : HandshakeHandlerConfig) : Outcome AnyError PublicKey :=
  match config.peerStaticPublicKey with
  | none => .err "no peer_static_public_key in handshake_handler_config"
  | some key =>
    match Block.ofBytes? 65 key with
    | none => .err "invalid peer public key: TryFromSliceError(())"
    | some publicKey => .ok publicKey

def newInitiator (config : HandshakeHandlerConfig) (random : Block 32) :
    Outcome AnyError HandshakeInitiator :=
  match config.handshakeType with
  | .noiseKN => .panic "not implemented"
  | .noiseKK => do
    let peer ← peerPublicKey config
    match config.selfStaticPrivateKey with
    | none => .err "no self_static_private_key in handshake_handler_config"
    | some selfKey => (HandshakeInitiator.newKk peer selfKey random).widen
  | .noiseNK => do
    let peer ← peerPublicKey config
    (HandshakeInitiator.newNk peer random).widen
  | .noiseNN => (HandshakeInitiator.newNn random).widen

def create (crypto : Primitives) (config : HandshakeHandlerConfig)
    (attestationState : AttestationState) (random : Block 32) :
    Outcome AnyError ClientHandshakeHandler := do
  let initiator ← newInitiator config random
  let (built, handshakeInitiator) := initiator.buildInitialMessage crypto
  let initialNoiseMessage ←
    built.mapErr fun reason => s!"Error building initial message: {reason.debug}"
  return {
    handshakeInitiator
    sessionBinders := config.sessionBinders
    attestationState
    initialMessage := some {
      handshakeType := some (.ofNoise initialNoiseMessage)
      attestationBindings := .empty
      assertionBindings := .empty }
    followupMessage := none
    handshakeResult := none }

def takeHandshakeResult (handler : ClientHandshakeHandler) :
    Outcome AnyError (HandshakeResult × AttestationState) :=
  match handler.handshakeResult with
  | none => .err "handshake is not complete"
  | some result => .ok (result, handler.attestationState)

def isHandshakeComplete (handler : ClientHandshakeHandler) : Bool :=
  handler.handshakeResult.isSome && handler.followupMessage.isNone

def getOutgoingMessage (handler : ClientHandshakeHandler) :
    Outcome AnyError (Option HandshakeRequest) × ClientHandshakeHandler :=
  match handler.initialMessage with
  | some initialMessage => (.ok (some initialMessage), { handler with initialMessage := none })
  | none => (.ok handler.followupMessage, { handler with followupMessage := none })

def hasBindings (handler : ClientHandshakeHandler) : Bool :=
  !handler.sessionBinders.isEmpty || !handler.attestationState.selfAssertions.isEmpty

def putIncomingMessage (crypto : Primitives) (handler : ClientHandshakeHandler)
    (incomingMessage : HandshakeResponse) :
    Outcome AnyError (Option Unit) × ClientHandshakeHandler :=
  if handler.handshakeResult.isSome then (.ok none, handler)
  else
    match incomingMessage.handshakeType with
    | none => (.err "Missing handshake_type", handler)
    | some noiseMessage =>
      match handler.handshakeInitiator.processResponse crypto noiseMessage.toNoise with
      | (.error fault, handshakeInitiator) =>
        (.error (fault.map fun reason => s!"Error processing response: {reason.debug}"),
          { handler with handshakeInitiator })
      | (.ok keys, handshakeInitiator) =>
        let processed := { handler with handshakeInitiator }
        let handshakeResult : HandshakeResult := {
          crypter := keys.crypter
          handshakeState := {
            handshakeBindingToken := keys.handshakeHash.toList
            peerSessionBindings := incomingMessage.attestationBindings
            peerAssertionBindings := incomingMessage.assertionBindings } }
        if processed.hasBindings then
          match bindAssertions crypto processed.attestationState keys.handshakeHash.toList with
          | .error reason => (.err reason, processed)
          | .ok assertionBindings =>
            (.ok (some ()), { processed with
              followupMessage := some {
                handshakeType := none
                attestationBindings :=
                  bindSession processed.sessionBinders keys.handshakeHash.toList
                assertionBindings }
              handshakeResult := some handshakeResult })
        else (.ok (some ()), { processed with handshakeResult := some handshakeResult })

end ClientHandshakeHandler

structure ServerHandshakeHandler where
  handshakeType : HandshakeType
  selfIdentityKey : Option IdentityKeyHandle
  peerPublicKey : Option Bytes
  sessionBinders : BTreeMap String SessionBinder
  clientBindingExpected : Bool
  attestationState : AttestationState
  noiseResponse : Option Response
  handshakeResponse : Option HandshakeResponse
  handshakeResult : Option HandshakeResult

namespace ServerHandshakeHandler

def new (config : HandshakeHandlerConfig) (clientBindingExpected : Bool)
    (attestationState : AttestationState) : ServerHandshakeHandler where
  handshakeType := config.handshakeType
  selfIdentityKey := config.selfStaticPrivateKey
  peerPublicKey := config.peerStaticPublicKey
  sessionBinders := config.sessionBinders
  clientBindingExpected := clientBindingExpected
  attestationState := attestationState
  noiseResponse := none
  handshakeResponse := none
  handshakeResult := none

def takeHandshakeResult (handler : ServerHandshakeHandler) :
    Outcome AnyError (HandshakeResult × AttestationState) :=
  match handler.handshakeResult with
  | none => .err "handshake is not complete"
  | some result => .ok (result, handler.attestationState)

def isHandshakeComplete (handler : ServerHandshakeHandler) : Bool :=
  handler.handshakeResult.isSome

def getOutgoingMessage (handler : ServerHandshakeHandler) :
    Outcome AnyError (Option HandshakeResponse) × ServerHandshakeHandler :=
  (.ok handler.handshakeResponse, { handler with handshakeResponse := none })

def identityKey (handler : ServerHandshakeHandler) : Outcome AnyError IdentityKeyHandle :=
  match handler.selfIdentityKey with
  | none => .err "no self_identity_key in handshake_handler_config"
  | some key => .ok key

def responseFailed (reason : NoiseError) : AnyError := s!"handshake response failed: {reason.debug}"

def respond (crypto : Primitives) (handler : ServerHandshakeHandler) (noiseMessage : NoiseMessage)
    (random : Block 32) : Outcome AnyError Response :=
  match handler.handshakeType with
  | .noiseKN => .panic "not implemented"
  | .noiseKK => do
    let key ← handler.identityKey
    match handler.peerPublicKey with
    | none => .err "Must provide public key for Kk"
    | some peer => (respondKk crypto key peer noiseMessage random).mapErr responseFailed
  | .noiseNK => do
    let key ← handler.identityKey
    (respondNk crypto key noiseMessage random).mapErr responseFailed
  | .noiseNN => (respondNn crypto noiseMessage random).mapErr responseFailed

def resultOf (noiseResponse : Response)
    (peerSessionBindings peerAssertionBindings : BTreeMap String SessionBinding) :
    HandshakeResult where
  crypter := noiseResponse.crypter
  handshakeState := {
    handshakeBindingToken := noiseResponse.handshakeHash.toList
    peerSessionBindings
    peerAssertionBindings }

/-- The first request is answered; the second, if one is expected, brings the
client's bindings. -/
def putIncomingMessage (crypto : Primitives) (handler : ServerHandshakeHandler)
    (incomingMessage : HandshakeRequest) (random : Block 32) :
    Outcome AnyError (Option Unit) × ServerHandshakeHandler :=
  if handler.handshakeResult.isSome then (.ok none, handler)
  else
    match handler.noiseResponse with
    | some noiseResponse =>
      (.ok (some ()), { handler with
        noiseResponse := none
        handshakeResult := some (resultOf noiseResponse incomingMessage.attestationBindings
          incomingMessage.assertionBindings) })
    | none =>
      match incomingMessage.handshakeType with
      | none => (.err "Missing handshake_type", handler)
      | some noiseMessage =>
        match handler.respond crypto noiseMessage.toNoise random with
        | .error fault => (.error fault, handler)
        | .ok noiseResponse =>
          match bindAssertions crypto handler.attestationState
              noiseResponse.handshakeHash.toList with
          | .error reason => (.err reason, handler)
          | .ok assertionBindings =>
            let answered := { handler with
              handshakeResponse := some {
                handshakeType := some (.ofNoise noiseResponse.response)
                attestationBindings := bindSession handler.sessionBinders
                  noiseResponse.handshakeHash.toList
                assertionBindings } }
            if handler.clientBindingExpected then
              (.ok (some ()), { answered with noiseResponse := some noiseResponse })
            else
              (.ok (some ()), { answered with
                handshakeResult := some (resultOf noiseResponse .empty .empty) })

end ServerHandshakeHandler

end Oak.Session

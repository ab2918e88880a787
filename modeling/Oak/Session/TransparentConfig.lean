import Oak.Session.Encryptors
import Oak.Session.HonestPeer

namespace Oak.Session

open Oak.Data Oak.Crypto
open Oak.Crypto.HandshakeAgreement (KeyPair transparentPair)

/-! A configuration over the transparent primitives.

Each side attests with one piece of evidence and one assertion, and binds both
by echoing the bound data.  The verifiers accept everything and compare the
bindings with the bound data. -/

abbrev TransparentEncryptor := OrderedChannelEncryptor Primitives.transparent

namespace TransparentConfig

def echoes (boundData binding : Bytes) : Bool := boundData == binding

def bindable (content : Bytes) : BindableAssertion where
  assertion := { content }
  bind := fun boundData => .ok { binding := boundData }

def peerVerifier : PeerAttestationVerifier where
  verify := fun _ _ => .ok { status := .success, reason := "", details := [] }
  createSessionBindingVerifier := fun _ => .ok fun boundData binding =>
    if echoes boundData binding then .ok () else .error "binding mismatch"

def assertionVerifier : BoundAssertionVerifier := fun assertion => .ok {
  assertion
  verifyBinding := fun boundData binding =>
    if echoes boundData binding.binding then .ok ()
    else .error (.bindingVerificationFailure "binding mismatch") }

def attestation (content : Bytes) : AttestationHandlerConfig where
  selfAttesters := .singleton "tee" (.ok [1])
  selfAssertionGenerators := .singleton "key" (.ok (bindable content))
  selfEndorsers := .singleton "tee" fun _ => .ok [2]
  peerVerifiers := .singleton "tee" peerVerifier
  peerAssertionVerifiers := .singleton "key" assertionVerifier
  legacyAttestationResultsAggregator := fun _ => .ok ()
  assertionAttestationAggregator := fun _ => .ok ()

def handshake (handshakeType : HandshakeType) (own peer : KeyPair Primitives.transparent) :
    HandshakeHandlerConfig where
  handshakeType := handshakeType
  selfStaticPrivateKey := some own.identity
  peerStaticPublicKey := some peer.publicKey.toList
  sessionBinders := .singleton "tee" id

def session (handshakeType : HandshakeType) (own peer : KeyPair Primitives.transparent)
    (content : Bytes)
    (provideEncryptor : OrderedCrypter → Outcome AnyError TransparentEncryptor) :
    SessionConfig TransparentEncryptor where
  attestationHandlerConfig := attestation content
  handshakeHandlerConfig := handshake handshakeType own peer
  provideEncryptor := provideEncryptor

abbrev provides := orderedChannelEncryptorProvider Primitives.transparent

def alice : KeyPair Primitives.transparent := (transparentPair ⟨⟨2, by decide⟩⟩).toKeyPair

def bob : KeyPair Primitives.transparent := (transparentPair ⟨⟨3, by decide⟩⟩).toKeyPair

def offer (content : Bytes) : AttestMessage where
  endorsedEvidence := .singleton "tee" { evidence := some [1], endorsements := some [2] }
  assertions := .singleton "key" { content }

theorem length_le_encodedLen (content : Bytes) : content.length ≤ (offer content).encodedLen := by
  have inner := Protobuf.le_encodeNonEmpty_length 1 content
  have value := Protobuf.le_encodeNonEmpty_length 2 (Protobuf.encodeNonEmpty 1 content)
  have entry := Protobuf.le_encodeField_length 2 (Protobuf.encodeString "key" ++
    Protobuf.encodeNonEmpty 2 (Protobuf.encodeNonEmpty 1 content))
  rw [List.length_append] at entry
  simp only [offer, AttestMessage.encodedLen, Protobuf.encodeMap, BTreeMap.singleton,
    List.flatMap_singleton]
  omega

def attester (content : Bytes) : AttestationHandler where
  config := attestation content
  attestMessage := some (offer content)
  attestationResult := none
  bindableAssertions := .singleton "key" (bindable content)
  attestationBindingToken := []

theorem create_attester (content : Bytes) :
    AttestationHandler.create (attestation content) = .ok (attester content) := rfl

def client (handshakeType : HandshakeType) (content : Bytes)
    (provideEncryptor : OrderedCrypter → Outcome AnyError TransparentEncryptor) :
    ClientSession TransparentEncryptor :=
  ⟨.attestation (attester content) (clientHandshakeHandlerBuilder Primitives.transparent
    (handshake handshakeType alice bob)) provideEncryptor, [], []⟩

def server (handshakeType : HandshakeType) (content : Bytes)
    (provideEncryptor : OrderedCrypter → Outcome AnyError TransparentEncryptor) :
    ServerSession TransparentEncryptor :=
  ⟨.attestation (attester content) (serverHandshakeHandlerBuilder
    (handshake handshakeType bob alice)) provideEncryptor, [], []⟩

theorem create_client (handshakeType : HandshakeType) (content : Bytes)
    (provideEncryptor : OrderedCrypter → Outcome AnyError TransparentEncryptor) :
    ClientSession.create Primitives.transparent
        (session handshakeType alice bob content provideEncryptor) =
      .ok (client handshakeType content provideEncryptor) := rfl

theorem create_server (handshakeType : HandshakeType) (content : Bytes)
    (provideEncryptor : OrderedCrypter → Outcome AnyError TransparentEncryptor) :
    ServerSession.create (session handshakeType bob alice content provideEncryptor) =
      .ok (server handshakeType content provideEncryptor) := rfl

theorem accepts (content peerContent : Bytes) {message : AttestMessage} :
    HonestPeer.Accepts (attestation content) message (attester peerContent).bindableAssertions
      (.singleton "tee" id) where
  legacy := fun _ _ => rfl
  assertion := rfl
  sessionBinding := by
    intro id verifier received result registered sent verified
    obtain rfl := BTreeMap.get?_singleton_eq_some registered
    refine ⟨_, rfl, ?_⟩
    intro bind boundData binder
    obtain rfl := BTreeMap.get?_singleton_eq_some binder
    simp [echoes]
  assertionBinding := by
    intro id verifier bound verified boundData binding registered held accepted made
    obtain rfl := BTreeMap.get?_singleton_eq_some registered
    obtain rfl := BTreeMap.get?_singleton_eq_some held
    cases accepted
    cases made
    simp [echoes]

end TransparentConfig

end Oak.Session

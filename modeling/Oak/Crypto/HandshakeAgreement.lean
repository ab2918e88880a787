import Oak.Crypto.Transparent

namespace Oak.Crypto

open Oak.Data Oak.Data.Outcome

/-! Agreement of the two sides of the Noise handshake.

Each side's state is followed message by message.  After every message both
hold the same symmetric state, so the last one gives them the same hash and
the same pair of traffic keys, which they use crosswise. -/

namespace HandshakeAgreement

variable {crypto : Primitives}

structure KeyPair (crypto : Primitives) where
  privateKey : P256Scalar
  publicKey : PublicKey
  matching : crypto.computePublicKey privateKey = .ok publicKey

def KeyPair.identity (pair : KeyPair crypto) : IdentityKeyHandle :=
  (IdentityKey.mk pair.privateKey).handle crypto

structure EphemeralKeyPair (crypto : Primitives) extends KeyPair crypto where
  random : Block 32
  generated : P256Scalar.generate random = .ok privateKey

def newInitiator (pattern : NoisePattern) (responderPublic : PublicKey)
    (initiatorIdentity : IdentityKeyHandle) (random : Block 32) :
    Outcome Empty HandshakeInitiator :=
  match pattern with
  | .nk => HandshakeInitiator.newNk responderPublic random
  | .nn => HandshakeInitiator.newNn random
  | .kk => HandshakeInitiator.newKk responderPublic initiatorIdentity random

def respond (crypto : Primitives) (pattern : NoisePattern) (responderIdentity : IdentityKeyHandle)
    (initiatorPublic : Bytes) (inMessage : NoiseMessage) (random : Block 32) :
    Outcome NoiseError Response :=
  match pattern with
  | .nk => respondNk crypto responderIdentity inMessage random
  | .nn => respondNn crypto inMessage random
  | .kk => respondKk crypto responderIdentity initiatorPublic inMessage random

structure Agree (initiator : HandshakeKeys) (responder : Response) : Prop where
  handshakeHash : initiator.handshakeHash = responder.handshakeHash
  initiatorWrites : initiator.crypter.writeKey = responder.crypter.readKey
  responderWrites : initiator.crypter.readKey = responder.crypter.writeKey

theorem identity_publicKey (pair : KeyPair crypto) :
    pair.identity.getPublicKey = .ok pair.publicKey.toList := by
  simp [KeyPair.identity, IdentityKey.handle, IdentityKey.getPublicKey, pair.matching]

theorem identity_deriveDhSecret {shared : Block 32} (pair : KeyPair crypto) (point : PublicKey)
    (computed : crypto.p256ScalarMult pair.privateKey point = .ok shared) :
    pair.identity.deriveDhSecret point.toList = .ok shared.toList := by
  simp [KeyPair.identity, IdentityKey.handle, IdentityKey.deriveDhSecret, computed]

/-- Both sides mix the same `se` term, or none. -/
theorem se_agreement (commutes : crypto.DhCommutes) {initiator : HandshakeInitiator}
    {static : Option (KeyPair crypto)} (ephemeral : KeyPair crypto)
    (identity : initiator.selfIdentityPrivKey = static.map KeyPair.identity) (noise : Noise) :
    ∃ mixed, initiator.mixSe crypto ephemeral.publicKey.toList noise = .ok mixed ∧
      responderMixSe crypto (static.map KeyPair.publicKey) ephemeral.privateKey noise =
        .ok mixed := by
  cases static with
  | none =>
    exact ⟨noise, by simp [HandshakeInitiator.mixSe, identity], by simp [responderMixSe]⟩
  | some static =>
    obtain ⟨se, seInitiator, seResponder⟩ := commutes _ _ _ _ static.matching ephemeral.matching
    refine ⟨noise.mixKey crypto se.toList, ?_, ?_⟩
    · simp [HandshakeInitiator.mixSe, identity, identity_deriveDhSecret static _ seInitiator,
        mapErr_ok, Except.map]
    · have derived : (IdentityKey.mk ephemeral.privateKey).deriveDhSecret crypto
          static.publicKey.toList = .ok se.toList :=
        identity_deriveDhSecret ephemeral _ seResponder
      simp [responderMixSe, IdentityKey.fromBytes, P256Scalar.fromBytes_bytes, Except.map,
        derived, mapErr_ok]

/-- The second message.  From a state both sides share after the first one, the
responder's answer is accepted and both sides agree.  `static` is the
initiator's static key pair in the patterns that authenticate it. -/
theorem second_message_agreement (commutes : crypto.DhCommutes) (opens : crypto.OpensSealed)
    {noise : Noise} {initiator : HandshakeInitiator} {static : Option (KeyPair crypto)}
    {initiatorPublic : PublicKey} (ephemeral : EphemeralKeyPair crypto)
    (sent : initiator.noise = (noise.encryptAndHash crypto []).2)
    (pair : crypto.computePublicKey initiator.ephemeralPrivKey = .ok initiatorPublic)
    (identity : initiator.selfIdentityPrivKey = static.map KeyPair.identity) :
    ∃ response keys finished,
      finishResponse crypto noise
        { ephemeralPublicKey := initiatorPublic.toList
          ciphertext := (noise.encryptAndHash crypto []).1 }
        (static.map KeyPair.publicKey) ephemeral.random = .ok response ∧
      initiator.processResponse crypto response.response = (.ok keys, finished) ∧
      Agree keys response := by
  obtain ⟨ee, eeInitiator, eeResponder⟩ := commutes _ _ _ _ pair ephemeral.matching
  let received := ((((noise.encryptAndHash crypto []).2.mixHash crypto
    ephemeral.publicKey.toList).mixKey crypto ephemeral.publicKey.toList).mixKey crypto ee.toList)
  obtain ⟨mixed, initiatorMixed, responderMixed⟩ :=
    se_agreement commutes ephemeral.toKeyPair identity received
  let finished := (mixed.encryptAndHash crypto []).2
  let keys := finished.trafficKeys crypto
  refine ⟨{
      crypter := OrderedCrypter.new keys.1 keys.2
      handshakeHash := finished.handshakeHash
      response := {
        ciphertext := (mixed.encryptAndHash crypto []).1
        ephemeralPublicKey := ephemeral.publicKey.toList } },
    { handshakeHash := finished.handshakeHash, crypter := OrderedCrypter.new keys.2 keys.1 },
    { initiator with noise := finished }, ?_, ?_, ⟨rfl, rfl, rfl⟩⟩
  · simp only [finishResponse, Noise.decryptAndHash_encryptAndHash opens, ephemeral.generated,
      ephemeral.matching, widen_ok, ok_bind, Block.ofBytes?_toList, eeResponder]
    rw [responderMixed]
    rfl
  · simp only [HandshakeInitiator.processResponse, Block.ofBytes?_toList, eeInitiator, sent]
    rw [initiatorMixed]
    simp only [Noise.decryptAndHash_encryptAndHash opens]
    rfl

def authenticated (pattern : NoisePattern) (static : KeyPair crypto) : Option (KeyPair crypto) :=
  match pattern with
  | .kk => some static
  | .nk | .nn => none

/-- The state in which the first message is sealed, with the Diffie-Hellman
terms of the pattern mixed in. -/
def sealingState (crypto : Primitives) (pattern : NoisePattern) (responderPublic ephemeral es ss : Bytes) :
    Noise :=
  let message : NoiseMessage := { ephemeralPublicKey := ephemeral, ciphertext := [] }
  match pattern with
  | .nn => receiveInitial crypto .nn none message
  | .nk => (receiveInitial crypto .nk (some responderPublic) message).mixKey crypto es
  | .kk => ((receiveInitial crypto .kk (some responderPublic) message).mixKey crypto es).mixKey
      crypto ss

/-- The first message.  The initiator seals it in a state that the responder
reaches too before it opens it. -/
theorem first_message_agreement (commutes : crypto.DhCommutes) (pattern : NoisePattern)
    (initiatorStatic responderStatic : KeyPair crypto) (ephemeral : EphemeralKeyPair crypto) :
    ∃ initiator message sent noise,
      newInitiator pattern responderStatic.publicKey initiatorStatic.identity ephemeral.random =
        .ok initiator ∧ initiator.buildInitialMessage crypto = (.ok message, sent) ∧ message = {
        ephemeralPublicKey := ephemeral.publicKey.toList
        ciphertext := (noise.encryptAndHash crypto []).1 } ∧
      sent.noise = (noise.encryptAndHash crypto []).2 ∧
      sent.ephemeralPrivKey = ephemeral.privateKey ∧
      sent.selfIdentityPrivKey = (authenticated pattern initiatorStatic).map KeyPair.identity ∧
      ∀ random, respond crypto pattern responderStatic.identity
          initiatorStatic.publicKey.toList message random = finishResponse crypto noise message
          ((authenticated pattern initiatorStatic).map KeyPair.publicKey) random := by
  obtain ⟨es, esInitiator, esResponder⟩ :=
    commutes _ _ _ _ ephemeral.matching responderStatic.matching
  obtain ⟨ss, ssInitiator, ssResponder⟩ :=
    commutes _ _ _ _ initiatorStatic.matching responderStatic.matching
  have esDerived := identity_deriveDhSecret responderStatic _ esResponder
  have ssDerived := identity_deriveDhSecret initiatorStatic _ ssInitiator
  have ssReceived := identity_deriveDhSecret responderStatic _ ssResponder
  have published := identity_publicKey responderStatic
  let noise := sealingState crypto pattern responderStatic.publicKey.toList
    ephemeral.publicKey.toList es.toList ss.toList
  let initiator : HandshakeInitiator := {
    noise := Noise.new pattern
    peerIdentityPubKey := if pattern = .nn then none else some responderStatic.publicKey
    selfIdentityPrivKey := (authenticated pattern initiatorStatic).map KeyPair.identity
    ephemeralPrivKey := ephemeral.privateKey }
  refine ⟨initiator, {
      ephemeralPublicKey := ephemeral.publicKey.toList
      ciphertext := (noise.encryptAndHash crypto []).1 },
    { initiator with noise := (noise.encryptAndHash crypto []).2 }, noise,
    ?_, ?_, rfl, rfl, rfl, rfl, ?_⟩
  · cases pattern <;>
      simp only [newInitiator, HandshakeInitiator.newNk, HandshakeInitiator.newNn,
        HandshakeInitiator.newKk, ephemeral.generated] <;> rfl
  · cases pattern <;>
      simp [HandshakeInitiator.buildInitialMessage, HandshakeInitiator.mixEs,
        HandshakeInitiator.mixSs, initiator, noise, authenticated, sealingState, receiveInitial,
        ephemeral.matching, esInitiator, ssDerived, mapErr_ok, Except.map]
  · intro random
    cases pattern with
    | nn => rfl
    | nk =>
      simp only [respond, respondNk, published, esDerived]
      rfl
    | kk =>
      simp only [respond, respondKk, published, esDerived, ssReceived, ok_bind,
        Block.ofBytes?_toList]
      rfl

/-- For every pattern and all identity and ephemeral key pairs, the responder
accepts the initiator's first message, the initiator accepts the answer, and
both end with the same handshake hash and crossed traffic keys. -/
theorem handshake_agreement (commutes : crypto.DhCommutes) (opens : crypto.OpensSealed)
    (pattern : NoisePattern) (initiatorStatic responderStatic : KeyPair crypto)
    (initiatorEphemeral responderEphemeral : EphemeralKeyPair crypto) :
    ∃ initiator message sent response keys finished,
      newInitiator pattern responderStatic.publicKey initiatorStatic.identity
        initiatorEphemeral.random = .ok initiator ∧
      initiator.buildInitialMessage crypto = (.ok message, sent) ∧
      respond crypto pattern responderStatic.identity initiatorStatic.publicKey.toList message
        responderEphemeral.random = .ok response ∧
      sent.processResponse crypto response.response = (.ok keys, finished) ∧
      Agree keys response := by
  obtain ⟨initiator, message, sent, noise, created, built, rfl, sealedState, ephemeral, identity,
    received⟩ := first_message_agreement commutes pattern initiatorStatic responderStatic
      initiatorEphemeral
  obtain ⟨response, keys, finished, responded, processed, agree⟩ :=
    second_message_agreement commutes opens responderEphemeral sealedState
      (ephemeral ▸ initiatorEphemeral.matching) identity
  exact ⟨initiator, _, sent, response, keys, finished, created, built,
    (received _).trans responded, processed, agree⟩

/-- The key pair of a scalar over the transparent primitives, as generated from
the scalar's own bytes. -/
def transparentPair (scalar : P256Scalar) : EphemeralKeyPair Primitives.transparent where
  privateKey := scalar
  publicKey := Transparent.encodePoint scalar.value
  matching := Transparent.computePublicKey scalar
  random := scalar.bytes
  generated := P256Scalar.fromBytes_bytes scalar

theorem transparent_kk_agreement :
    let alice := (transparentPair ⟨⟨2, by decide⟩⟩).toKeyPair
    let bob := (transparentPair ⟨⟨3, by decide⟩⟩).toKeyPair
    let aliceEphemeral := transparentPair ⟨⟨5, by decide⟩⟩
    let bobEphemeral := transparentPair ⟨⟨7, by decide⟩⟩
    ∃ initiator message sent response keys finished,
      HandshakeInitiator.newKk bob.publicKey alice.identity aliceEphemeral.random =
        .ok initiator ∧
      initiator.buildInitialMessage Primitives.transparent = (.ok message, sent) ∧
      respondKk Primitives.transparent bob.identity alice.publicKey.toList message
        bobEphemeral.random = .ok response ∧
      sent.processResponse Primitives.transparent response.response = (.ok keys, finished) ∧
      Agree keys response :=
  handshake_agreement Transparent.dhCommutes Transparent.opensSealed .kk _ _ _ _

end HandshakeAgreement

end Oak.Crypto
